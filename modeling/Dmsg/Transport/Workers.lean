import Dmsg.Transport.Step
import Mathlib.Algebra.Group.Nat.Basic

/-!
# The worker counter

`manageTransport` adds one to `mgrQty` when it starts and takes one off when its done channel
fires, just before it returns, both with `atomic.AddInt32`.  Over every schedule from
`NewManager`, `mgrQty` is the number of `manageTransport` goroutines that have counted
themselves and have not returned, modulo 2^32; as an `int32` it is that number, and so never
negative, while fewer than 2^31 of them run.
-/

namespace Dmsg.Transport

/-- A `manageTransport` goroutine past its increment of `mgrQty` and not returned: in its
loop, holding an error, re-dialing, or in the `DeleteTransport` it called. -/
def Proc.counted : Proc → Bool
  | .workerLoop _ | .workerErr _ | .workerUpdate .. => true
  | .dialCheck c | .dialing c | .dialHandshake c _ => !c.isCreate
  | .deleteLock _ ret | .deleteClose _ _ ret | .deleteStatus _ _ ret | .deleteClose2 _ _ ret =>
    ret.isSome
  | _ => false

/-- Changing one place below `n` of a predicate changes its count below `n` by the change
there. -/
theorem countP_range_update (g : Nat → Bool) {t n : Nat} (ht : t < n) (b : Bool) :
    (List.range n).countP (Function.update g t b) + (if g t then 1 else 0) =
      (List.range n).countP g + (if b then 1 else 0) := by
  induction n with
  | zero => omega
  | succ n ih =>
    simp only [List.range_succ, List.countP_append, List.countP_cons, List.countP_nil]
    by_cases htn : t = n
    · subst htn
      have : (List.range t).countP (Function.update g t b) = (List.range t).countP g :=
        List.countP_congr fun x hx ↦ by simp [Function.update_noteq (List.mem_range.mp hx).ne]
      simp only [this, Function.update_same]
      omega
    · have := ih (by omega)
      simp only [Function.update_noteq (Ne.symm htn)]
      omega

namespace Manager

variable {cfg : Config} {s s' : Manager} {t : Nat} {o : Outcome}

/-- The started goroutines that `manageTransport` has counted. -/
def workers (s : Manager) : Nat := (List.range s.nextThread).countP fun u ↦ (s.threads u).counted

/-- A step at a place that leaves `mgrQty` alone neither counts its goroutine nor uncounts it. -/
theorem Moves.counted {p q : Proc} (hm : s.Moves cfg o p q) (hw : p.writes.mgrQty = false) :
    q.counted = p.counted := by
  cases hm <;> simp_all [Proc.writes, Proc.counted, Dialer.isCreate]

/-- One step of goroutine `t` changes `mgrQty` by the change in `t`'s being counted. -/
theorem threadStep_mgrQty (h : s.threadStep cfg t o = some s') :
    s'.mgrQty + (if (s.threads t).counted then 1 else 0) =
      s.mgrQty + (if (s'.threads t).counted then 1 else 0) := by
  have hm := threadStep_moves h
  cases hw : (s.threads t).writes.mgrQty
  · rw [(threadStep_frame h).mgrQty hw, hm.counted hw]
  -- the increment of `manageTransport` and its decrement just before it returns
  generalize hp : s.threads t = p at hm hw ⊢
  generalize hq : s'.threads t = q at hm ⊢
  cases hm <;> simp only [Proc.writes, reduceCtorEq] at hw <;> unfold threadStep at h <;>
    simp only [hp] at h <;> (try split at h) <;> cases h <;>
    simp [Proc.counted, BitVec.sub_add_cancel]

/-- One step of goroutine `t` changes `mgrQty` by the change in `t`'s being counted, and moves
no other goroutine but the worker a `go` starts at `nextThread`, which is not counted yet. -/
theorem threadStep_counted (h : s.threadStep cfg t o = some s') (ht : t ≠ s.nextThread) :
    s'.mgrQty + (if (s.threads t).counted then 1 else 0) =
        s.mgrQty + (if (s'.threads t).counted then 1 else 0) ∧
      (∀ u ≠ t, u ≠ s.nextThread → s'.threads u = s.threads u) ∧
      ((s'.nextThread = s.nextThread ∧ s'.threads s.nextThread = s.threads s.nextThread) ∨
        (s'.nextThread = s.nextThread + 1 ∧ (s'.threads s.nextThread).counted = false)) := by
  have hf := threadStep_frame h
  refine ⟨threadStep_mgrQty h, fun u hu hn ↦ hf.threads u hu (.inl hn), ?_⟩
  cases hp : (s.threads t).forks with
  | none => exact .inl ⟨by simp [hf.nextThread, hp], hf.threads _ (Ne.symm ht) (.inr hp)⟩
  | some q =>
    obtain ⟨i, k, -, rfl⟩ := Proc.eq_spawn_of_forks hp
    exact .inr ⟨by simp [hf.nextThread, hp], by simp [hf.forked _ hp (Ne.symm ht), Proc.counted]⟩

/-- `mgrQty` counts the goroutines `manageTransport` has counted, and goroutine numbers from
`nextThread` on are unused. -/
structure CountsWorkers (s : Manager) : Prop where
  idle : ∀ u, s.nextThread ≤ u → s.threads u = .idle
  mgrQty : s.mgrQty = BitVec.ofNat 32 s.workers

theorem countsWorkers_init : init.CountsWorkers := ⟨fun _ _ ↦ rfl, rfl⟩

theorem CountsWorkers.threadStep (hc : s.CountsWorkers) (h : s.threadStep cfg t o = some s') :
    s'.CountsWorkers := by
  have hidle : s.threads t ≠ .idle := fun hpc ↦ by
    unfold Manager.threadStep at h
    rw [hpc] at h
    cases h
  have hlt : t < s.nextThread := Nat.lt_of_not_le fun hle ↦ hidle (hc.idle t hle)
  obtain ⟨hq, hu, hn⟩ := threadStep_counted h (Nat.ne_of_lt hlt)
  -- below `nextThread`, the step changes the counted goroutines only at `t`
  have hbelow : (List.range s.nextThread).countP (fun u ↦ (s'.threads u).counted) +
      (if (s.threads t).counted then 1 else 0) =
        s.workers + (if (s'.threads t).counted then 1 else 0) := by
    rw [workers, ← countP_range_update (fun u ↦ (s.threads u).counted) hlt]
    congr 1
    refine List.countP_congr fun u hu' ↦ ?_
    by_cases hut : u = t
    · subst hut
      simp
    · simp [Function.update_noteq hut, hu u hut (List.mem_range.mp hu').ne]
  have hq' := hc.mgrQty
  revert hq hbelow
  generalize (s.threads t).counted = a
  generalize (s'.threads t).counted = b
  rcases hn with ⟨hn, hnt⟩ | ⟨hn, hnt⟩
  · refine fun hq hbelow ↦ ⟨fun u hle ↦ ?_, ?_⟩
    · by_cases hun : u = s.nextThread
      · rw [hun, hnt]
        exact hc.idle _ le_rfl
      · rw [hu u (by omega) hun]
        exact hc.idle u (by omega)
    · rw [workers, hn]
      cases a <;> cases b <;> simp only [eq_self_iff_true, Bool.false_eq_true, if_true, if_false]
        at hq hbelow <;> bv_omega
  · refine fun hq hbelow ↦ ⟨fun u hle ↦ ?_, ?_⟩
    · rw [hu u (by omega) (by omega)]
      exact hc.idle u (by omega)
    · rw [workers, hn, List.range_succ, List.countP_append]
      simp only [List.countP_cons, List.countP_nil, hnt, Bool.false_eq_true, if_false]
      cases a <;> cases b <;> simp only [eq_self_iff_true, Bool.false_eq_true, if_true, if_false]
        at hq hbelow <;> bv_omega

theorem CountsWorkers.fork (hc : s.CountsWorkers) {p : Proc} (hp : p.counted = false) :
    (s.fork p).CountsWorkers := by
  have hsame : (List.range s.nextThread).countP (fun u ↦ ((s.fork p).threads u).counted) =
      s.workers :=
    List.countP_congr fun u hu ↦ by simp [(List.mem_range.mp hu).ne]
  refine ⟨fun u hle ↦ ?_, ?_⟩
  · simp only [fork_nextThread] at hle
    simp [show u ≠ s.nextThread by omega, hc.idle u (by omega)]
  · rw [workers, fork_nextThread, List.range_succ, List.countP_append, hsame]
    simp [hp, hc.mgrQty]

theorem CountsWorkers.step {a : Act} (hc : s.CountsWorkers) (h : s.step cfg a = some s') :
    s'.CountsWorkers := by
  by_cases hp : s.panicked
  · simp [Manager.step, hp] at h
  rw [Manager.step.eq_def, if_neg hp] at h
  cases a with
  | run t o => exact hc.threadStep h
  | recvTrChan =>
    dsimp only at h
    split at h <;> cases h
    exact ⟨hc.idle, hc.mgrQty⟩
  | serve f =>
    dsimp only at h
    split at h <;> cases h
    exact hc.fork rfl
  | create _ _ _ | delete _ | close =>
    cases h
    exact hc.fork rfl

theorem CountsWorkers.exec (hc : s.CountsWorkers) {acts : List Act}
    (h : s.exec cfg acts = some s') : s'.CountsWorkers := by
  induction acts generalizing s with
  | nil =>
    cases h
    exact hc
  | cons a acts ih =>
    obtain ⟨s₁, h₁, h⟩ := Option.bind_eq_some.mp h
    exact ih (hc.step h₁) h

/-- Over every schedule from `NewManager`, `mgrQty` is the number of `manageTransport`
goroutines that have counted themselves and have not returned, modulo 2^32; read as the
`int32` it is, it is that number, and so not negative, while fewer than 2^31 of them run. -/
theorem mgrQty_eq_workers {acts : List Act} (h : init.exec cfg acts = some s) :
    s.mgrQty = BitVec.ofNat 32 s.workers ∧ (s.workers < 2 ^ 31 → s.mgrQty.toInt = s.workers) := by
  have hc := countsWorkers_init.exec h
  refine ⟨hc.mgrQty, fun hw ↦ ?_⟩
  rw [hc.mgrQty, BitVec.toInt_eq_toNat_cond, BitVec.toNat_ofNat, Nat.mod_eq_of_lt (by omega),
    if_pos (by omega)]

/-- A dialed transport whose worker has counted itself: `mgrQty` is 1. -/
theorem mgrQty_eq_workers_dial :
    let acts : List Act := [.create default "messaging" true, .run 0 .none, .run 0 .none,
      .run 0 (.dialed (default, default)), .run 0 (.settled ⟨default, true⟩), .run 0 .none,
      .run 0 .none, .run 0 .none, .run 0 .none, .run 0 .none, .run 1 .none]
    (exec ⟨default, ["messaging"]⟩ init acts).isSome ∧
      ((exec ⟨default, ["messaging"]⟩ init acts).get (by decide)).workers = 1 ∧
      ((exec ⟨default, ["messaging"]⟩ init acts).get (by decide)).mgrQty =
        BitVec.ofNat 32 ((exec ⟨default, ["messaging"]⟩ init acts).get (by decide)).workers ∧
      (((exec ⟨default, ["messaging"]⟩ init acts).get (by decide)).workers < 2 ^ 31 →
        ((exec ⟨default, ["messaging"]⟩ init acts).get (by decide)).mgrQty.toInt =
          ((exec ⟨default, ["messaging"]⟩ init acts).get (by decide)).workers) :=
  ⟨by decide, by decide, mgrQty_eq_workers (Option.eq_some_of_isSome (by decide))⟩

end Manager

end Dmsg.Transport
