import Dmsg.Transport.Step

/-!
# Ownership of transport IDs

`createTransport` and `acceptTransport` look up the managed transport stored under the new
entry's ID, kill its worker, and only then take the lock and store the new one; a worker
whose transport fails calls `DeleteTransport` with its transport's ID.  The invariant `Inv`
says what this keeps: every installed managed transport that is still live is the one stored
under its ID, or a `DeleteTransport` call has removed it and is about to close it.

It holds along every schedule in which no goroutine stores under an ID while another is
between its lookup of that ID and its own store (`Exclusive`).  The lookup and the store are
separate critical sections, so nothing in the manager makes that so: `transport_id_races`
gives schedules that break the invariant, and the worker's delete by ID.
-/

namespace Dmsg.Transport

/-- Between the lookup of the old transport and the insert, or holding a transport that
`DeleteTransport` removed and has not closed yet. -/
def Proc.owns : Proc → Bool
  | .killOld .. | .insert _ | .deleteClose _ (some _) _ => true
  | _ => false

/-- The ID a goroutine stores under, from its lookup of the old transport to its insert. -/
def Proc.installing : Proc → Option UUID
  | .killOld i _ | .insert i => some i.id
  | _ => none

/-- A place whose step removes or stores an entry of `transports`, closes the transport it
removed, starts a goroutine, or moves into a place `Proc.owns` names. -/
def Proc.touches : Proc → Bool
  | .deleteLock .. | .deleteClose .. | .lookupOld _ | .killOld .. | .insert _ | .spawn .. => true
  | _ => false

namespace Manager

variable {cfg : Config} {s s' : Manager} {t : Nat} {o : Outcome}

/-- A step of `t` that leaves `transports` and both counters alone, moves no other goroutine,
moves `t` neither into nor out of the places `Proc.owns` names, keeps the ID of every managed
transport and reopens none. -/
def Quiet (t : Nat) (s s' : Manager) : Prop :=
  s'.transports = s.transports ∧ s'.nextMTr = s.nextMTr ∧ s'.nextThread = s.nextThread ∧
    (∀ u ≠ t, s'.threads u = s.threads u) ∧ (s.threads t).owns = false ∧
    (s'.threads t).owns = false ∧
    ∀ k, (s'.mTrs k).id = (s.mTrs k).id ∧ ((s.mTrs k).done → (s'.mTrs k).done)

theorem quiet_goto {p : Proc} (hb : (s.threads t).owns = false) (hp : p.owns = false) :
    Quiet t s (s.goto t p) :=
  ⟨rfl, rfl, rfl, fun u hu ↦ by simp [hu], hb, by simp [hp], fun _ ↦ ⟨rfl, id⟩⟩

/-- A place `Proc.touches` does not name writes neither `transports` nor a new managed
transport, starts no goroutine, and is not one `Proc.owns` names. -/
theorem writes_of_touches {p : Proc} (hp : p.touches = false) :
    p.writes.transports = false ∧ p.writes.install = false ∧ p.forks = none ∧ p.owns = false := by
  cases p <;> simp_all [Proc.touches, Proc.writes, Proc.forks, Proc.owns]

/-- From a place `Proc.touches` does not name, a step never enters one that `Proc.owns` names. -/
theorem Moves.owns {p q : Proc} (hm : s.Moves cfg o p q) (hp : p.touches = false) :
    q.owns = false := by
  cases hm <;> simp_all [Proc.touches, Proc.owns]

theorem threadStep_ne_idle (h : s.threadStep cfg t o = some s') : s.threads t ≠ .idle := by
  intro hpc
  unfold threadStep at h
  rw [hpc] at h
  cases h

/-- Every step of a goroutine at a place that `Proc.touches` does not name is quiet. -/
theorem threadStep_quiet (hp : (s.threads t).touches = false) (h : s.threadStep cfg t o = some s') :
    Quiet t s s' := by
  have hf := threadStep_frame h
  obtain ⟨htr, hin, hfk, hown⟩ := writes_of_touches hp
  exact ⟨hf.transports htr, by simp [hf.nextMTr, hin], by simp [hf.nextThread, hfk],
    fun u hu ↦ hf.threads u hu (.inr hfk), hown, (threadStep_moves h).owns hp,
    fun k ↦ hf.kept k (.inl hin)⟩

/-- No two goroutines are between their lookup of one ID and their store under it. -/
def Exclusive (s : Manager) : Prop :=
  ∀ u v id, (s.threads u).installing = some id → (s.threads v).installing = some id → u = v

/-- The ownership invariant: goroutine numbers from `nextThread` on are unused, `transports`
points to installed managed transports, every installed managed transport that is live is
the one stored under its ID or is held by a `DeleteTransport` call about to close it, and a
goroutine between its lookup and its store finds what it looked up, or nothing, and has
killed whatever it will replace. -/
structure Inv (s : Manager) : Prop where
  idle : ∀ u, s.nextThread ≤ u → s.threads u = .idle
  bound : ∀ id k, s.transports.lookup id = some k → k < s.nextMTr
  owned : ∀ k < s.nextMTr, (s.mTrs k).done = false →
    s.transports.lookup (s.mTrs k).id = some k ∨ ∃ u id ret, s.threads u = .deleteClose id (some k) ret
  killing : ∀ u i old, s.threads u = .killOld i old →
    s.transports.lookup i.id = old ∨ s.transports.lookup i.id = none
  inserting : ∀ u i k, s.threads u = .insert i → s.transports.lookup i.id = some k → (s.mTrs k).done

theorem inv_init : init.Inv :=
  ⟨fun _ _ ↦ rfl, fun _ _ h ↦ by simp [init] at h, fun _ h ↦ absurd h (Nat.not_lt_zero _),
    fun _ _ _ h ↦ by simp [init] at h, fun _ _ _ h ↦ by simp [init] at h⟩

theorem Inv.lt_nextThread (hi : s.Inv) (ht : s.threads t ≠ .idle) : t < s.nextThread :=
  Nat.lt_of_not_le fun hle ↦ ht (hi.idle t hle)

/-- A step that keeps `transports` and the count of managed transports, keeps their IDs and
reopens none, and moves no goroutine into or out of the places `Proc.owns` names. -/
theorem Inv.of_frame (hi : s.Inv) (htr : s'.transports = s.transports)
    (hn : s'.nextMTr = s.nextMTr) (hidle : ∀ u, s'.nextThread ≤ u → s'.threads u = .idle)
    (hold : ∀ u, (s.threads u).owns → s'.threads u = s.threads u)
    (hnew : ∀ u, (s'.threads u).owns → s'.threads u = s.threads u)
    (hm : ∀ k, (s'.mTrs k).id = (s.mTrs k).id ∧ ((s.mTrs k).done → (s'.mTrs k).done)) :
    s'.Inv := by
  refine ⟨hidle, fun id k hk ↦ ?_, fun k hk hd ↦ ?_, fun u i old hu ↦ ?_, fun u i k hu hk ↦ ?_⟩
  · exact hn ▸ hi.bound id k (htr ▸ hk)
  · have hd' : (s.mTrs k).done = false := Bool.eq_false_iff.mpr fun h ↦ by simp [(hm k).2 h] at hd
    rcases hi.owned k (hn ▸ hk) hd' with hl | ⟨u, id, ret, hu⟩
    · exact .inl (by rw [htr, (hm k).1, hl])
    · exact .inr ⟨u, id, ret, (hold u (by simp [hu, Proc.owns])).trans hu⟩
  · rw [hnew u (by simp [hu, Proc.owns])] at hu
    exact htr ▸ hi.killing u i old hu
  · rw [hnew u (by simp [hu, Proc.owns])] at hu
    rw [htr] at hk
    exact (hm k).2 (hi.inserting u i k hu hk)

theorem Inv.quiet (hi : s.Inv) (ht : s.threads t ≠ .idle) (hq : Quiet t s s') : s'.Inv := by
  obtain ⟨htr, hn, hth, hu, hb, ha, hm⟩ := hq
  have hlt := hi.lt_nextThread ht
  refine hi.of_frame htr hn (fun u h ↦ ?_) (fun u h ↦ hu u ?_) (fun u h ↦ hu u ?_) hm
  · rw [hu u (by omega)]
    exact hi.idle u (by omega)
  · rintro rfl
    simp [hb] at h
  · rintro rfl
    simp [ha] at h

theorem Inv.fork (hi : s.Inv) {p : Proc} (hp : p.owns = false) : (s.fork p).Inv := by
  have hfresh : ∀ u, u ≠ s.nextThread → (s.fork p).threads u = s.threads u :=
    fun u hu ↦ by simp [hu]
  refine hi.of_frame rfl rfl (fun u h ↦ ?_) (fun u h ↦ hfresh u ?_) (fun u h ↦ hfresh u ?_)
    fun _ ↦ ⟨rfl, id⟩
  · simp only [fork_nextThread] at h
    rw [hfresh u (by omega)]
    exact hi.idle u (by omega)
  · rintro rfl
    simp [hi.idle, Proc.owns] at h
  · rintro rfl
    simp [hp] at h

theorem threads_goto_of_ne {s₁ : Manager} {p q : Proc} {u : Nat} (hq : q ≠ p)
    (hu : (s₁.goto t p).threads u = q) : u ≠ t ∧ s₁.threads u = q := by
  by_cases hut : u = t
  · subst hut
    simp [Ne.symm hq] at hu
  · simpa [hut] using hu

/-- A goroutine's step keeps the goroutine numbers from `nextThread` on unused. -/
theorem Inv.idle_goto (hi : s.Inv) (ht : s.threads t ≠ .idle) {s₁ : Manager} {p : Proc}
    (hn : s₁.nextThread = s.nextThread) (hth : s₁.threads = s.threads) (u : Nat)
    (hu : (s₁.goto t p).nextThread ≤ u) : (s₁.goto t p).threads u = .idle := by
  have hlt := hi.lt_nextThread ht
  simp only [goto_nextThread, hn] at hu
  simp [show u ≠ t by omega, hth, hi.idle u hu]

/-- `DeleteTransport` takes the entry out of `transports` and holds what it found. -/
theorem Inv.deleteLock (hi : s.Inv) {id : UUID} {ret : Option Worker}
    (ht : s.threads t = .deleteLock id ret) :
    ({ s with transports := s.transports.erase id }.goto t
      (.deleteClose id (s.transports.lookup id) ret)).Inv := by
  refine ⟨hi.idle_goto (by simp [ht]) rfl rfl, fun x k hk ↦ ?_, fun k hk hd ↦ ?_,
    fun u i old hu ↦ ?_, fun u i k hu hk ↦ ?_⟩
  · simp only [goto_transports, lookup_erase_eq_some] at hk
    exact hi.bound x k hk.2
  · simp only [goto_mTrs, goto_transports, lookup_erase_eq_some] at hd ⊢
    rcases hi.owned k hk hd with hl | ⟨u, x, r, hu⟩
    · by_cases hx : (s.mTrs k).id = id
      · subst hx
        exact .inr ⟨t, (s.mTrs k).id, ret, by simp [hl]⟩
      · exact .inl ⟨hx, hl⟩
    · have hut : u ≠ t := by rintro rfl; simp [ht] at hu
      exact .inr ⟨u, x, r, by simp [hut, hu]⟩
  · obtain ⟨-, hu⟩ := threads_goto_of_ne (by simp) hu
    show (s.transports.erase id).lookup i.id = old ∨ (s.transports.erase id).lookup i.id = none
    by_cases hx : i.id = id
    · exact .inr (by rw [hx, AList.lookup_erase])
    · rw [AList.lookup_erase_ne hx]
      exact hi.killing u i old hu
  · obtain ⟨-, hu⟩ := threads_goto_of_ne (by simp) hu
    simp only [goto_transports, lookup_erase_eq_some] at hk
    exact hi.inserting u i k hu hk.2

/-- `DeleteTransport` closes the transport it removed. -/
theorem Inv.deleteClose (hi : s.Inv) {id : UUID} {k : Nat} {ret : Option Worker}
    (ht : s.threads t = .deleteClose id (some k) ret) :
    ((s.closeMTr k).goto t (.deleteStatus id (some k) ret)).Inv := by
  refine ⟨hi.idle_goto (by simp [ht]) rfl rfl, hi.bound, fun x hx hd ↦ ?_,
    fun u i old hu ↦ ?_, fun u i x hu hx ↦ ?_⟩
  · simp only [goto_mTrs, closeMTr, killWorker_done, Bool.or_eq_false_iff, decide_eq_false_iff_not]
      at hd
    rcases hi.owned x hx hd.1 with hl | ⟨u, y, r, hu⟩
    · exact .inl (by rw [goto_mTrs, closeMTr, killWorker_id, closeTp_mTrs]; exact hl)
    · have hut : u ≠ t := by rintro rfl; simp_all
      exact .inr ⟨u, y, r, by simp [closeMTr, hut, hu]⟩
  · obtain ⟨-, hu⟩ := threads_goto_of_ne (by simp) hu
    exact hi.killing u i old (by simpa [closeMTr] using hu)
  · obtain ⟨-, hu⟩ := threads_goto_of_ne (by simp) hu
    have := hi.inserting u i x (by simpa [closeMTr] using hu) hx
    simp [closeMTr, this]

/-- The lookup of the old transport. -/
theorem Inv.lookupOld (hi : s.Inv) {i : Install} (ht : s.threads t = .lookupOld i) :
    (s.goto t (.killOld i (s.transports.lookup i.id))).Inv := by
  refine ⟨hi.idle_goto (by simp [ht]) rfl rfl, hi.bound, fun x hx hd ↦ ?_, fun u j old hu ↦ ?_,
    fun u j x hu hx ↦ ?_⟩
  · rcases hi.owned x hx hd with hl | ⟨u, y, r, hu⟩
    · exact .inl hl
    · have hut : u ≠ t := by rintro rfl; simp_all
      exact .inr ⟨u, y, r, by simp [hut, hu]⟩
  · by_cases hut : u = t
    · subst hut
      simp only [goto_threads, Function.update_same, Proc.killOld.injEq] at hu
      exact .inl (by rw [← hu.1, ← hu.2]; rfl)
    · exact hi.killing u j old (by simpa [hut] using hu)
  · obtain ⟨-, hu⟩ := threads_goto_of_ne (by simp) hu
    exact hi.inserting u j x hu hx

/-- The kill of the old transport's worker, if there was one, from any state `s₁` that kills
at most what the goroutine looked up. -/
theorem Inv.killOld_to {i : Install} {old : Option Nat} (hi : s.Inv)
    (ht : s.threads t = .killOld i old) {s₁ : Manager} (htr : s₁.transports = s.transports)
    (hn : s₁.nextMTr = s.nextMTr) (hnt : s₁.nextThread = s.nextThread)
    (hth : s₁.threads = s.threads)
    (hm : ∀ k, (s₁.mTrs k).id = (s.mTrs k).id ∧ ((s.mTrs k).done → (s₁.mTrs k).done))
    (hk : ∀ k, old = some k → (s₁.mTrs k).done) : (s₁.goto t (.insert i)).Inv := by
  refine ⟨hi.idle_goto (by simp [ht]) hnt hth, fun x k hx ↦ hn ▸ hi.bound x k (htr ▸ hx),
    fun x hx hd ↦ ?_, fun u j o hu ↦ ?_, fun u j x hu hx ↦ ?_⟩
  · simp only [goto_mTrs, goto_nextMTr, hn] at hd hx
    have hd' : (s.mTrs x).done = false := Bool.eq_false_iff.mpr fun h ↦ by simp [(hm x).2 h] at hd
    rcases hi.owned x hx hd' with hl | ⟨u, y, r, hu⟩
    · exact .inl (by rw [goto_mTrs, (hm x).1, goto_transports, htr]; exact hl)
    · have hut : u ≠ t := by rintro rfl; simp_all
      exact .inr ⟨u, y, r, by simp [hut, hth, hu]⟩
  · obtain ⟨-, hu⟩ := threads_goto_of_ne (by simp) hu
    rw [hth] at hu
    rw [goto_transports, htr]
    exact hi.killing u j o hu
  · rw [goto_transports, htr] at hx
    by_cases hut : u = t
    · subst hut
      simp only [goto_threads, Function.update_same, Proc.insert.injEq] at hu
      rcases hi.killing _ _ _ ht with hl | hl <;> rw [hu] at hl
      · exact hk x (hl ▸ hx)
      · simp [hl] at hx
    · simp only [goto_threads, Function.update_noteq hut, hth] at hu
      exact (hm x).2 (hi.inserting u j x hu hx)

theorem Inv.killOld_none (hi : s.Inv) {i : Install} (ht : s.threads t = .killOld i none) :
    (s.goto t (.insert i)).Inv :=
  hi.killOld_to ht rfl rfl rfl rfl (fun _ ↦ ⟨rfl, id⟩) (by simp)

theorem Inv.killOld_some (hi : s.Inv) {i : Install} {h : Nat}
    (ht : s.threads t = .killOld i (some h)) : ((s.killWorker h).goto t (.insert i)).Inv :=
  hi.killOld_to ht rfl rfl rfl rfl (fun k ↦ by simp_all) (by simp)

/-- The store under the new entry's ID replaces only what the goroutine has killed, as long as
no other goroutine is between its lookup of that ID and its store. -/
theorem Inv.insert (hi : s.Inv) (hx : s.Exclusive) {i : Install} (ht : s.threads t = .insert i) :
    ((s.install i).goto t (.publish i s.nextMTr)).Inv := by
  have hne : ∀ u (j : Install), u ≠ t → (s.threads u).installing = some j.id → j.id ≠ i.id :=
    fun u j hu hj hji ↦ hu (hx u t j.id hj (by simp [ht, hji, Proc.installing]))
  refine ⟨hi.idle_goto (by simp [ht]) rfl rfl, fun x k hk ↦ ?_, fun k hk hd ↦ ?_,
    fun u j old hu ↦ ?_, fun u j k hu hk ↦ ?_⟩
  · rw [goto_transports, install_transports] at hk
    rw [goto_nextMTr, install_nextMTr]
    by_cases hxi : x = i.id
    · subst hxi
      rw [AList.lookup_insert] at hk
      cases hk
      omega
    · rw [AList.lookup_insert_ne hxi] at hk
      exact Nat.lt_succ_of_lt (hi.bound x k hk)
  · rw [goto_nextMTr, install_nextMTr] at hk
    rw [goto_mTrs] at hd ⊢
    rw [goto_transports, install_transports]
    by_cases hk' : k = s.nextMTr
    · subst hk'
      exact .inl (by rw [install_mTrs_self, AList.lookup_insert])
    · rw [s.install_mTrs_of_ne i hk'] at hd ⊢
      rcases hi.owned k (by omega) hd with hl | ⟨u, y, r, hu⟩
      · by_cases hid : (s.mTrs k).id = i.id
        · rw [hid] at hl
          simp [hi.inserting t i k ht hl] at hd
        · exact .inl (by rw [AList.lookup_insert_ne hid]; exact hl)
      · have hut : u ≠ t := by rintro rfl; simp_all
        exact .inr ⟨u, y, r, by simp [hut, hu]⟩
  · obtain ⟨hut, hu⟩ := threads_goto_of_ne (by simp) hu
    simp only [install_threads] at hu
    rw [goto_transports, install_transports,
      AList.lookup_insert_ne (hne u j hut (by simp [hu, Proc.installing]))]
    exact hi.killing u j old hu
  · obtain ⟨hut, hu⟩ := threads_goto_of_ne (by simp) hu
    simp only [install_threads] at hu
    rw [goto_transports, install_transports,
      AList.lookup_insert_ne (hne u j hut (by simp [hu, Proc.installing]))] at hk
    rw [goto_mTrs, s.install_mTrs_of_ne i (Nat.ne_of_lt (hi.bound _ _ hk))]
    exact hi.inserting u j k hu hk

/-- `go tm.manageTransport(...)`. -/
theorem Inv.spawn (hi : s.Inv) {i : Install} {k : Nat} (ht : s.threads t = .spawn i k)
    (w : Worker) : ((s.fork (.workerStart w)).goto t .done).Inv := by
  have hne : t ≠ s.nextThread := Nat.ne_of_lt (hi.lt_nextThread (by simp [ht]))
  exact (hi.fork (rfl : (Proc.workerStart w).owns = false)).quiet (by simp [hne, ht])
    (quiet_goto (by simp [hne, ht, Proc.owns]) rfl)

/-- One step of a goroutine keeps the invariant, as long as no goroutine stores under an ID
while another is between its lookup of that ID and its store. -/
theorem Inv.threadStep (hi : s.Inv) (hx : s.Exclusive) (h : s.threadStep cfg t o = some s') :
    s'.Inv := by
  have hidle := threadStep_ne_idle h
  cases htc : (s.threads t).touches
  · exact hi.quiet hidle (threadStep_quiet htc h)
  unfold Manager.threadStep at h
  cases hpc : s.threads t <;> rw [hpc] at htc h <;>
    first | exact absurd htc Bool.false_ne_true | skip
  case deleteLock id ret =>
    cases h
    exact hi.deleteLock hpc
  case deleteClose x tr ret =>
    cases tr with
    | none =>
      cases h
      exact hi.of_frame rfl rfl hi.idle (fun _ _ ↦ rfl) (fun _ _ ↦ rfl) fun _ ↦ ⟨rfl, id⟩
    | some k =>
      cases h
      exact hi.deleteClose hpc
  case lookupOld i =>
    cases h
    exact hi.lookupOld hpc
  case killOld i old =>
    cases old with
    | none =>
      cases h
      exact hi.killOld_none hpc
    | some k =>
      cases h
      exact hi.killOld_some hpc
  case insert i =>
    cases h
    exact hi.insert hx hpc
  case spawn i k =>
    cases h
    exact hi.spawn hpc _

theorem Inv.step {a : Act} (hi : s.Inv) (hx : s.Exclusive) (h : s.step cfg a = some s') :
    s'.Inv := by
  by_cases hp : s.panicked
  · simp [Manager.step, hp] at h
  rw [Manager.step.eq_def, if_neg hp] at h
  cases a with
  | run t o => exact hi.threadStep hx h
  | recvTrChan =>
    dsimp only at h
    split at h <;> cases h
    exact hi.of_frame rfl rfl hi.idle (fun _ _ ↦ rfl) (fun _ _ ↦ rfl) fun _ ↦ ⟨rfl, id⟩
  | serve f =>
    dsimp only at h
    split at h <;> cases h
    exact hi.fork rfl
  | create _ _ _ | delete _ | close =>
    cases h
    exact hi.fork rfl

/-- Every state a schedule from `s` passes through, before each of its steps, satisfies `P`. -/
def Along (cfg : Config) (P : Manager → Prop) : Manager → List Act → Prop
  | _, [] => True
  | s, a :: as => P s ∧ ∀ s', s.step cfg a = some s' → Along cfg P s' as

theorem Inv.exec (hi : s.Inv) {acts : List Act} (hx : Along cfg Exclusive s acts)
    (h : s.exec cfg acts = some s') : s'.Inv := by
  induction acts generalizing s with
  | nil =>
    cases h
    exact hi
  | cons a acts ih =>
    obtain ⟨s₁, h₁, h⟩ := Option.bind_eq_some.mp h
    exact ih (hi.step hx.1 h₁) (hx.2 s₁ h₁) h

/-- Along any schedule from `NewManager` in which no goroutine stores under an ID while
another is between its lookup of that ID and its store, every installed managed transport that
is still live is the one stored under its ID, or a `DeleteTransport` call has removed it and is
about to close it. -/
theorem owned_of_exclusive {acts : List Act} (hx : Along cfg Exclusive init acts)
    (h : init.exec cfg acts = some s) {k : Nat} (hk : k < s.nextMTr) (hd : (s.mTrs k).done = false) :
    s.transports.lookup (s.mTrs k).id = some k ∨
      ∃ u id ret, s.threads u = .deleteClose id (some k) ret :=
  (inv_init.exec hx h).owned k hk hd

/-- Three schedules on one entry ID.  Two `createTransport` calls both look up before either
stores: the first managed transport is replaced, its worker left running and its transport
open.  A worker of an accepted transport passes its done check, another accept replaces its
transport under the same ID, and the worker's `DeleteTransport` removes and closes the new
one.  `DeleteTransport` removes a transport before its worker's own call, which then finds
nothing and dereferences it. -/
theorem transport_id_races :
    (exec ⟨default, ["messaging"]⟩ init [.create default "messaging" true,
      .create default "messaging" true, .run 0 .none, .run 0 .none, .run 0 (.dialed (default, default)),
      .run 0 (.settled ⟨default, true⟩), .run 1 .none, .run 1 .none,
      .run 1 (.dialed (default, default)), .run 1 (.settled ⟨default, true⟩), .run 0 .none,
      .run 1 .none, .run 0 .none, .run 0 .none, .run 0 .none, .run 0 .none, .run 1 .none,
      .run 1 .none, .run 1 .none, .run 1 .none]).map (fun s ↦
        (s.transports.lookup default, (s.mTrs 0).done, (s.tps 0).closed, s.threads 2)) =
      some (some 1, false, false, .workerStart ⟨0, "messaging", default, true, false⟩) ∧
    (exec ⟨default, ["messaging"]⟩ init [.serve "messaging", .run 0 (.dialed (default, default)),
      .run 0 .none, .run 0 (.settled ⟨default, true⟩), .run 0 .none, .run 0 .none, .run 0 .none,
      .run 0 .none, .run 0 .none, .run 1 .none, .run 1 .recvErr, .run 1 .none, .serve "messaging",
      .run 2 (.dialed (default, default)), .run 2 .none, .run 2 (.settled ⟨default, true⟩),
      .run 2 .none, .run 2 .none, .run 2 .none, .run 2 .none, .run 2 .none, .run 1 .none,
      .run 1 .none]).map (fun s ↦
        (s.threads 1, s.transports.lookup default, (s.mTrs 1).done, (s.tps 1).closed)) =
      some (.deleteStatus default (some 1) (some ⟨0, "messaging", default, true, true⟩), none, true,
        true) ∧
    (exec ⟨default, ["messaging"]⟩ init [.serve "messaging", .run 0 (.dialed (default, default)),
      .run 0 .none, .run 0 (.settled ⟨default, true⟩), .run 0 .none, .run 0 .none, .run 0 .none,
      .run 0 .none, .run 0 .none, .run 1 .none, .run 1 .recvErr, .run 1 .none, .delete default,
      .run 2 .none, .run 2 .none, .run 2 .none, .run 2 .none, .run 1 .none, .run 1 .none]).map
        (fun s ↦ (s.threads 1, s.panicked)) =
      some (.deleteClose default none (some ⟨0, "messaging", default, true, true⟩), true) :=
  ⟨by decide, by decide, by decide⟩

end Manager

end Dmsg.Transport
