import Dmsg.Transport.SingleWorker

/-!
# Whom discovery is told about

The manager reports to discovery in two places.  `DeleteTransport(id)` looks `id` up under the
lock and reports `{id, IsUp: false}` after closing what it found; when it found nothing it
dereferences nil before it gets to the report.  `Close` reports the public transports of the
table.  So over every schedule from `NewManager`, every ID discovery is told about is the ID of
a managed transport the manager stored.

What that relies on holds along every schedule from any state: a stored managed transport
keeps its ID, and once its done channel is closed it stays closed.
-/

namespace Dmsg.Transport

/-- A goroutine holding a report for discovery: `DeleteTransport` after its lookup found a
managed transport, or `Close` at `UpdateStatuses`. -/
def Proc.holdsReport : Proc → Bool
  | .deleteClose _ (some _) _ | .deleteStatus .. | .closeReport _ => true
  | _ => false

namespace Manager

variable {cfg : Config} {s s' : Manager} {t : Nat} {o : Outcome}

/-- Managed transport `k` is stored and carries `id`. -/
def Found (s : Manager) (k : Nat) (id : UUID) : Prop := k < s.nextMTr ∧ (s.mTrs k).id = id

/-- `id` is the ID of a managed transport the manager stored. -/
def Stored (s : Manager) (id : UUID) : Prop := ∃ k, s.Found k id

/-- What a goroutine holding a report has found: `DeleteTransport` the managed transport stored
under its ID, `Close` stored IDs only. -/
def ReportFound (s : Manager) : Proc → Prop
  | .deleteClose id tr _ => ∀ k ∈ tr, s.Found k id
  | .deleteStatus id tr _ => ∃ k ∈ tr, s.Found k id
  | .closeReport sts => ∀ x ∈ sts, s.Stored x.id
  | _ => True

/-- `s'` keeps every managed transport of `s` under its ID. -/
def KeepsIds (s s' : Manager) : Prop :=
  s.nextMTr ≤ s'.nextMTr ∧ ∀ k < s.nextMTr, (s'.mTrs k).id = (s.mTrs k).id

theorem Found.mono {k : Nat} {id : UUID} (h : s.Found k id) (he : s.KeepsIds s') : s'.Found k id :=
  ⟨Nat.lt_of_lt_of_le h.1 he.1, (he.2 k h.1).trans h.2⟩

theorem Stored.mono {id : UUID} (h : s.Stored id) (he : s.KeepsIds s') : s'.Stored id :=
  let ⟨k, hk⟩ := h
  ⟨k, hk.mono he⟩

theorem ReportFound.mono {p : Proc} (h : s.ReportFound p) (he : s.KeepsIds s') :
    s'.ReportFound p := by
  cases p
  case deleteClose => exact fun k hk ↦ (h k hk).mono he
  case deleteStatus =>
    obtain ⟨k, hk, hf⟩ := h
    exact ⟨k, hk, hf.mono he⟩
  case closeReport => exact fun x hx ↦ (h x hx).mono he
  all_goals trivial

theorem reportFound_of_holdsReport {p : Proc} (hp : p.holdsReport = false) : s.ReportFound p := by
  cases p <;> simp_all [Proc.holdsReport, ReportFound]
  rename_i tr _
  cases tr <;> simp_all [Proc.holdsReport]

/-- Away from `DeleteTransport`'s lookup and `Close`'s sweep, a step from a place that holds no
report reaches none. -/
theorem Moves.holdsReport {p q : Proc} (hm : s.Moves cfg o p q) (hl : ∀ id ret, p ≠ .deleteLock id ret)
    (hc : p ≠ .closeSweep) (hr : p.holdsReport = false) : q.holdsReport = false := by
  cases hm <;> simp_all [Proc.holdsReport]

/-- A step of goroutine `t` away from `DeleteTransport`'s lookup, from `Close`'s sweep and from
the places that hold a report reports nothing and reaches no place that holds one. -/
theorem threadStep_quiet_reports (hl : ∀ id ret, s.threads t ≠ .deleteLock id ret)
    (hc : s.threads t ≠ .closeSweep) (hr : (s.threads t).holdsReport = false)
    (h : s.threadStep cfg t o = some s') :
    s'.statuses = s.statuses ∧ (s'.threads t).holdsReport = false := by
  have hr' : (s.threads t).reports = [] := by
    cases hp : s.threads t <;> simp_all [Proc.reports, Proc.holdsReport]
  exact ⟨by rw [(threadStep_frame h).statuses, hr', List.append_nil],
    (threadStep_moves h).holdsReport hl hc hr⟩

/-! ### Stored managed transports keep their IDs -/

/-- What a goroutine's step keeps of the managed transports stored before it: each keeps its
ID, and one whose done channel is closed stays closed. -/
theorem threadStep_keepsIds (h : s.threadStep cfg t o = some s') :
    s.KeepsIds s' ∧ ∀ k < s.nextMTr, (s.mTrs k).done = true → (s'.mTrs k).done = true := by
  have hf := threadStep_frame h
  have hk := fun k (hk : k < s.nextMTr) ↦ hf.kept k (.inr (Nat.ne_of_lt hk))
  exact ⟨⟨hf.nextMTr ▸ Nat.le_add_right _ _, fun k h ↦ (hk k h).1⟩, fun k h ↦ (hk k h).2⟩

theorem step_keepsIds {a : Act} (h : s.step cfg a = some s') :
    s.KeepsIds s' ∧ ∀ k < s.nextMTr, (s.mTrs k).done = true → (s'.mTrs k).done = true := by
  by_cases hp : s.panicked
  · simp [Manager.step, hp] at h
  rw [Manager.step.eq_def, if_neg hp] at h
  cases a with
  | run t o => exact threadStep_keepsIds h
  | _ =>
    -- a step that starts a goroutine or takes from `TrChan`
    dsimp only at h
    (try split at h) <;> cases h
    exact ⟨⟨le_rfl, fun _ _ ↦ rfl⟩, fun _ _ ↦ id⟩

/-- Along every schedule, from any state, the managed transports stored at its start keep their
IDs, and one whose done channel is closed stays closed: no call and no goroutine renames or
reopens a managed transport, not even a later store under the same ID. -/
theorem stored_transports_stable {acts : List Act} (h : s.exec cfg acts = some s') :
    s.nextMTr ≤ s'.nextMTr ∧ ∀ k < s.nextMTr,
      (s'.mTrs k).id = (s.mTrs k).id ∧ ((s.mTrs k).done = true → (s'.mTrs k).done = true) := by
  induction acts generalizing s with
  | nil =>
    cases h
    exact ⟨le_rfl, fun _ _ ↦ ⟨rfl, id⟩⟩
  | cons a acts ih =>
    obtain ⟨s₁, h₁, h⟩ := Option.bind_eq_some.mp h
    obtain ⟨⟨hn₁, hid₁⟩, hd₁⟩ := step_keepsIds h₁
    obtain ⟨hn, hk⟩ := ih h
    refine ⟨hn₁.trans hn, fun k hk₀ ↦ ?_⟩
    have hk₁ := hk k (Nat.lt_of_lt_of_le hk₀ hn₁)
    exact ⟨hk₁.1.trans (hid₁ k hk₀), fun hd ↦ hk₁.2 (hd₁ k hk₀ hd)⟩

/-- The invariant: every ID discovery was told about is stored, and every goroutine holding a
report found what it reports. -/
structure Told (s : Manager) : Prop where
  statuses : ∀ l ∈ s.statuses, ∀ x ∈ l, s.Stored x.id
  found : ∀ u, s.ReportFound (s.threads u)

theorem Told.frame (hT : s.Told) (he : s.KeepsIds s')
    (hst : ∀ l ∈ s'.statuses, l ∈ s.statuses ∨ ∀ x ∈ l, s'.Stored x.id)
    (hu : ∀ u, s'.threads u = s.threads u ∨ s'.ReportFound (s'.threads u)) : s'.Told := by
  refine ⟨fun l hl x hx ↦ ?_, fun u ↦ ?_⟩
  · rcases hst l hl with hl | hl
    · exact (hT.statuses l hl x hx).mono he
    · exact hl x hx
  · rcases hu u with hu | hu
    · exact hu ▸ (hT.found u).mono he
    · exact hu

/-- A report joins what discovery was told, and its goroutine moves on to a place that holds
none. -/
theorem Told.report (hT : s.Told) {l : List Status} (hl : ∀ x ∈ l, s.Stored x.id) {p : Proc}
    (hp : p.holdsReport = false) : ({ s with statuses := s.statuses ++ [l] }.goto t p).Told := by
  refine hT.frame ⟨le_rfl, fun _ _ ↦ rfl⟩ (fun l' hl' ↦ ?_) (fun u ↦ ?_)
  · rcases List.mem_append.mp hl' with hl' | hl'
    · exact .inl hl'
    · exact .inr (List.mem_singleton.mp hl' ▸ hl)
  · by_cases hut : u = t
    · exact .inr (by simpa [hut] using reportFound_of_holdsReport hp)
    · exact .inl (by simp [hut])

theorem Told.fork (hT : s.Told) {p : Proc} (hp : p.holdsReport = false) : (s.fork p).Told := by
  refine hT.frame ⟨le_rfl, fun _ _ ↦ rfl⟩ (fun l hl ↦ .inl hl) (fun u ↦ ?_)
  by_cases hun : u = s.nextThread
  · exact .inr (by simpa [hun] using reportFound_of_holdsReport hp)
  · exact .inl (by simp [hun])

/-- The places goroutine `t` moves to keep only what it found. -/
theorem Told.goto (hT : s.Told) (he : s.KeepsIds s') (hst : s'.statuses = s.statuses)
    {p : Proc} (hp : s'.ReportFound p)
    (hu : ∀ u ≠ t, s'.threads u = s.threads u) : (s'.goto t p).Told := by
  refine hT.frame he (fun l hl ↦ .inl (hst ▸ hl)) (fun u ↦ ?_)
  by_cases hut : u = t
  · exact .inr (by simpa [hut] using hp)
  · exact .inl (by simpa [hut] using hu u hut)

/-- Every other step keeps what discovery was told and moves `t` to a place that holds no
report. -/
theorem Told.quiet (hT : s.Told) (h : s.threadStep cfg t o = some s') (hl : ∀ id ret, s.threads t ≠ .deleteLock id ret)
    (hc : s.threads t ≠ .closeSweep) (hr : (s.threads t).holdsReport = false)
    (hi : ∀ i, s.threads t ≠ .insert i) (hs : ∀ i k, s.threads t ≠ .spawn i k) : s'.Told := by
  obtain ⟨hn, -, hu, -, hid, -⟩ := threadStep_keeps hi hs h
  obtain ⟨hst, hr'⟩ := threadStep_quiet_reports hl hc hr h
  refine hT.frame ⟨hn.ge, fun k _ ↦ (hid k).1⟩ (fun l hl ↦ .inl (hst ▸ hl)) fun u ↦ ?_
  by_cases hut : u = t
  · exact .inr (hut ▸ reportFound_of_holdsReport hr')
  · exact .inl (hu u hut)

theorem Told.threadStep (hT : s.Told) (hm : s.Managed) (h : s.threadStep cfg t o = some s') :
    s'.Told := by
  have hf := hT.found t
  have hs := h
  unfold Manager.threadStep at hs
  cases hpc : s.threads t <;> rw [hpc] at hf hs
  case insert i =>
    cases hs
    refine hT.goto ?_ ?_ ?_ fun _ _ ↦ rfl
    exacts [⟨Nat.le_succ _, fun k hk ↦ install_mTrs_of_ne _ _ (Nat.ne_of_lt hk) ▸ rfl⟩, rfl, trivial]
  case spawn i k =>
    cases hs
    refine (hT.fork ?_).goto ?_ rfl ?_ fun _ _ ↦ rfl
    exacts [rfl, ⟨le_rfl, fun _ _ ↦ rfl⟩, trivial]
  case deleteLock id ret =>
    cases hs
    refine hT.goto ?_ ?_ ?_ fun _ _ ↦ rfl
    exacts [⟨le_rfl, fun _ _ ↦ rfl⟩, rfl, fun k hk ↦ hm.table id k hk]
  case deleteClose id tr ret =>
    obtain _ | k := tr
    · exact hT.quiet h (by simp [hpc]) (by simp [hpc]) (by rw [hpc]; rfl) (by simp [hpc])
        (by simp [hpc])
    cases hs
    have he : s.KeepsIds (s.closeMTr k) := ⟨le_rfl, fun j _ ↦ by simp [closeMTr]⟩
    exact hT.goto he rfl ⟨k, rfl, (hf k rfl).mono he⟩ fun _ _ ↦ rfl
  case deleteStatus id tr ret =>
    cases hs
    obtain ⟨k, -, hk⟩ := hf
    refine hT.report ?_ rfl
    simpa using ⟨k, hk⟩
  case closeSweep =>
    cases hs
    refine hT.goto ⟨by simp, fun k _ ↦ sweep_id s k⟩ (sweep_statuses s) ?_ fun _ _ ↦ by simp
    intro x hx
    rw [sweep_snd] at hx
    obtain ⟨e, he, rfl⟩ := List.mem_map.mp hx
    have hk := hm.table e.1 e.2 (AList.mem_lookup_iff.mpr (List.mem_filter.mp he).1)
    exact ⟨e.2, by simpa using hk.1, by simp⟩
  case closeReport sts =>
    cases hs
    exact hT.report hf rfl
  all_goals
    exact hT.quiet h (by simp [hpc]) (by simp [hpc]) (by rw [hpc]; rfl) (by simp [hpc]) (by simp [hpc])

theorem Told.step {a : Act} (hT : s.Told) (hm : s.Managed) (h : s.step cfg a = some s') :
    s'.Told := by
  by_cases hp : s.panicked
  · simp [Manager.step, hp] at h
  rw [Manager.step.eq_def, if_neg hp] at h
  cases a with
  | run t o => exact hT.threadStep hm h
  | recvTrChan =>
    dsimp only at h
    split at h <;> cases h
    exact ⟨hT.statuses, hT.found⟩
  | serve f =>
    dsimp only at h
    split at h <;> cases h
    exact hT.fork rfl
  | create _ _ _ | delete _ | close =>
    cases h
    exact hT.fork rfl

theorem Told.exec (hT : s.Told) (hm : s.Managed) {acts : List Act}
    (h : s.exec cfg acts = some s') : s'.Told := by
  induction acts generalizing s with
  | nil =>
    cases h
    exact hT
  | cons a acts ih =>
    obtain ⟨s₁, h₁, h⟩ := Option.bind_eq_some.mp h
    exact ih (hT.step hm h₁) (hm.step h₁) h

end Manager

end Dmsg.Transport
