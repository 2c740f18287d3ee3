import Dmsg.Transport.SingleWorker

/-!
# What `TrChan` is sent

`createTransport` and `acceptTransport` send each managed transport they store on `TrChan`
(`tm.TrChan <- mTr`) once, between the insert and the `go` that starts its worker; a re-dial
puts the new transport into the same managed transport and sends nothing.  Over every
schedule from `NewManager`, `TrChan` is sent each managed transport at most once and only after
it was stored, and every stored managed transport has been sent or its goroutine is at the
send.
-/

namespace Dmsg.Transport

namespace Manager

variable {cfg : Config} {s s' : Manager} {t : Nat} {o : Outcome} {S : List Nat}

/-- The managed transport a step sends on `TrChan`: the send of `createTransport` or
`acceptTransport`. -/
def sends (s : Manager) : Act → List Nat
  | .run t _ =>
    match s.threads t with
    | .publish _ h => [h]
    | _ => []
  | _ => []

/-- The managed transports sent on `TrChan` along a schedule from `s`, in order, up to the
first step that is refused. -/
def sent (cfg : Config) : Manager → List Act → List Nat
  | _, [] => []
  | s, a :: as =>
    match s.step cfg a with
    | none => []
    | some s' => s.sends a ++ sent cfg s' as

/-- What has been sent, `S`, in state `s`: no managed transport twice, only stored ones, none
still waiting at a send, and every stored one either sent or waiting at its send. -/
structure SentOnce (S : List Nat) (s : Manager) : Prop where
  nodup : S.Nodup
  installed : ∀ k ∈ S, k < s.nextMTr
  pending : ∀ k ∈ S, ∀ u i, s.threads u ≠ .publish i k
  complete : ∀ k < s.nextMTr, k ∈ S ∨ ∃ u i, s.threads u = .publish i k

/-- The send itself: `t`'s managed transport joins what has been sent. -/
theorem SentOnce.publish (hS : SentOnce S s) (hm : s.Managed) {i : Install} {k : Nat}
    (ht : s.threads t = .publish i k) :
    SentOnce (S ++ [k]) ({ s with trChan := s.trChan ++ [k] }.goto t (.spawn i k)) := by
  have htk : (s.threads t).manages = some k := by simp [ht, Proc.manages]
  have hk : k ∉ S := fun hk ↦ hS.pending k hk t i ht
  -- no other goroutine waits to send `t`'s managed transport
  have hother : ∀ u i', u ≠ t → s.threads u ≠ .publish i' k := fun u i' hut hu ↦
    hut (hm.single u t k (by simp [hu, Proc.manages]) htk)
  refine ⟨List.nodup_append.mpr ⟨hS.nodup, List.nodup_singleton k, by simpa using hk⟩,
    fun k' hk' ↦ ?_, fun k' hk' u i' ↦ ?_, fun k' hk' ↦ ?_⟩
  · rcases List.mem_append.mp hk' with hk' | hk'
    · exact hS.installed k' hk'
    · rw [List.mem_singleton.mp hk']
      exact hm.installed t k htk
  · by_cases hut : u = t
    · simp [hut]
    · simp only [goto_threads, Function.update_noteq hut]
      rcases List.mem_append.mp hk' with hk' | hk'
      · exact hS.pending k' hk' u i'
      · exact List.mem_singleton.mp hk' ▸ hother u i' hut
  · rcases hS.complete k' hk' with h | ⟨u, i', hu⟩
    · exact .inl (List.mem_append_left _ h)
    · by_cases hut : u = t
      · rw [hut, ht] at hu
        cases hu
        exact .inl (by simp)
      · exact .inr ⟨u, i', by simp [hut, hu]⟩

/-- The locked insert: the new managed transport waits at its goroutine's send. -/
theorem SentOnce.insert (hS : SentOnce S s) {i : Install} (ht : s.threads t = .insert i) :
    SentOnce S ((s.install i).goto t (.publish i s.nextMTr)) := by
  refine ⟨hS.nodup, fun k hk ↦ by simpa using Nat.lt_succ_of_lt (hS.installed k hk),
    fun k hk u i' ↦ ?_, fun k hk ↦ ?_⟩
  · by_cases hut : u = t
    · simp [hut, (Nat.ne_of_lt (hS.installed k hk)).symm]
    · simpa [hut] using hS.pending k hk u i'
  · simp only [goto_nextMTr, install_nextMTr] at hk
    by_cases hk' : k = s.nextMTr
    · exact .inr ⟨t, i, by simp [hk']⟩
    · rcases hS.complete k (by omega) with h | ⟨u, i', hu⟩
      · exact .inl h
      · have hut : u ≠ t := fun h ↦ by simp [h, ht] at hu
        exact .inr ⟨u, i', by simp [hut, hu]⟩

/-- A step that reaches no send and adds no managed transport keeps what has been sent. -/
theorem SentOnce.of_frame (hS : SentOnce S s) (hn : s'.nextMTr = s.nextMTr)
    (hu : ∀ u, (∃ i k, s'.threads u = .publish i k) → s'.threads u = s.threads u)
    (hold : ∀ u i k, s.threads u = .publish i k → s'.threads u = s.threads u) :
    SentOnce S s' := by
  refine ⟨hS.nodup, fun k hk ↦ hn ▸ hS.installed k hk, fun k hk u i h ↦ ?_, fun k hk ↦ ?_⟩
  · rw [hu u ⟨i, k, h⟩] at h
    exact hS.pending k hk u i h
  · rcases hS.complete k (hn ▸ hk) with h | ⟨u, i, h⟩
    · exact .inl h
    · exact .inr ⟨u, i, (hold u i k h).trans h⟩

theorem SentOnce.threadStep (hS : SentOnce S s) (hm : s.Managed)
    (h : s.threadStep cfg t o = some s') : SentOnce (S ++ s.sends (.run t o)) s' := by
  have hs := h
  unfold Manager.threadStep at hs
  have hne : t ≠ s.nextThread := fun ht ↦ by simp [ht, hm.idle _ le_rfl] at hs
  cases hpc : s.threads t <;> rw [hpc] at hs
  case publish i k =>
    dsimp only at hs
    split at hs <;> cases hs
    simpa [sends, hpc] using hS.publish hm hpc
  case insert i =>
    cases hs
    simpa [sends, hpc] using hS.insert hpc
  case spawn i k =>
    cases hs
    simp only [sends, hpc, List.append_nil]
    refine hS.of_frame rfl (fun u ⟨i', k', hu⟩ ↦ ?_) (fun u i' k' hu ↦ ?_)
    · by_cases hut : u = t
      · simp [hut] at hu
      · by_cases hun : u = s.nextThread
        · simp [hun, Ne.symm hne] at hu
        · simp [hut, hun]
    · have hut : u ≠ t := fun h ↦ by simp [h, hpc] at hu
      have hun : u ≠ s.nextThread := fun h ↦ by simp [h, hm.idle _ le_rfl] at hu
      simp [hut, hun]
  all_goals
    obtain ⟨hn, -, hu, -, -, -, hpub⟩ := threadStep_keeps (by simp [hpc]) (by simp [hpc]) h
    simp only [sends, hpc, List.append_nil]
    refine hS.of_frame hn (fun u ⟨i, k, h'⟩ ↦ ?_) (fun u i k h' ↦ hu u fun h ↦ by simp [h, hpc] at h')
    by_cases hut : u = t
    · rw [hut] at h' ⊢
      simp [hpc] at hpub
      exact absurd h' (hpub i k)
    · exact hu u hut

theorem SentOnce.fork (hS : SentOnce S s) (hm : s.Managed) {p : Proc}
    (hp : ∀ i k, p ≠ .publish i k) : SentOnce S (s.fork p) := by
  have hsame : ∀ u, u ≠ s.nextThread → (s.fork p).threads u = s.threads u := fun u hu ↦ by simp [hu]
  refine hS.of_frame rfl (fun u ⟨i, k, h⟩ ↦ hsame u fun hu ↦ ?_) (fun u i k h ↦ hsame u fun hu ↦ ?_)
  · subst hu
    simp at h
    exact hp i k h
  · subst hu
    simp [hm.idle _ le_rfl] at h

theorem SentOnce.step {a : Act} (hS : SentOnce S s) (hm : s.Managed) (h : s.step cfg a = some s') :
    SentOnce (S ++ s.sends a) s' := by
  by_cases hp : s.panicked
  · simp [Manager.step, hp] at h
  rw [Manager.step.eq_def, if_neg hp] at h
  cases a with
  | run t o => exact hS.threadStep hm h
  | recvTrChan =>
    dsimp only at h
    split at h <;> cases h
    simp only [sends, List.append_nil]
    exact ⟨hS.nodup, hS.installed, hS.pending, hS.complete⟩
  | serve f =>
    dsimp only at h
    split at h <;> cases h
    simpa [sends] using hS.fork hm (by simp)
  | create _ _ _ | delete _ | close =>
    cases h
    simpa [sends] using hS.fork hm (by simp)

theorem SentOnce.exec (hS : SentOnce S s) (hm : s.Managed) {acts : List Act}
    (h : s.exec cfg acts = some s') : SentOnce (S ++ sent cfg s acts) s' := by
  induction acts generalizing s S with
  | nil =>
    cases h
    simpa [sent] using hS
  | cons a acts ih =>
    obtain ⟨s₁, h₁, h⟩ := Option.bind_eq_some.mp h
    simpa [sent, h₁, List.append_assoc] using ih (hS.step hm h₁) (hm.step h₁) h

end Manager

end Dmsg.Transport
