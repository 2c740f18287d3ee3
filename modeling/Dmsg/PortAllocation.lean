import Dmsg.PortManager

/-!
# Concurrent ephemeral-port allocation

Callers of one `PortManager` each run `p := pm.NextEmptyEphemeralPort()` and
then `pm.AddListener(l, p)`.  The lookup of a drawn port and the insertion
take `pm.mu` separately, so the steps of different callers interleave in any
order.  Ports come out distinct exactly when no caller's lookup succeeds on a
port that another caller has found and not yet added.
-/

namespace Dmsg

/-- Where a caller is in `p := pm.NextEmptyEphemeralPort(); pm.AddListener(l, p)`. -/
inductive Caller
  /-- In the loop of `NextEmptyEphemeralPort`. -/
  | drawing
  /-- `Listener(port)` found no listener; `AddListener` comes next. -/
  | found (port : UInt16)
  /-- `AddListener(l, port)` has run. -/
  | added (port : UInt16)
  deriving DecidableEq

/-- The port a caller has obtained. -/
def Caller.port? : Caller → Option UInt16
  | .drawing => none
  | .found p => some p
  | .added p => some p

@[simp] theorem Caller.port?_eq_some {c : Caller} {p : UInt16} :
    c.port? = some p ↔ c = .found p ∨ c = .added p := by
  cases c <;> simp [Caller.port?, eq_comm]

/-- One atomic step: caller `i` draws `n` and runs `Listener` on the port, or runs
`AddListener`. -/
inductive CallerStep
  | lookup (i : Nat) (n : Draw)
  | add (i : Nat)

/-- The shared port manager and where each caller is. -/
structure Allocation (L : Type) where
  pm : PortManager L
  callers : Nat → Caller

namespace Allocation

variable {L : Type} (ls : Nat → L)

/-- No caller has started. -/
def init (pm : PortManager L) : Allocation L := ⟨pm, fun _ ↦ .drawing⟩

/-- A step of caller `i`, whose listener is `ls i`; a step the caller is not at changes
nothing. -/
def step (s : Allocation L) : CallerStep → Allocation L
  | .lookup i n =>
    match s.callers i with
    | .drawing =>
      if (s.pm.listener (randomEphemeralPort n)).isNone then
        { s with callers := Function.update s.callers i (.found (randomEphemeralPort n)) }
      else s
    | _ => s
  | .add i =>
    match s.callers i with
    | .found p => ⟨s.pm.addListener (ls i) p, Function.update s.callers i (.added p)⟩
    | _ => s

/-- The steps of a schedule, in order. -/
def run (s : Allocation L) (trace : List CallerStep) : Allocation L := trace.foldl (step ls) s

@[simp] theorem run_nil (s : Allocation L) : run ls s [] = s := rfl

@[simp] theorem run_cons (s : Allocation L) (e : CallerStep) (es : List CallerStep) :
    run ls s (e :: es) = run ls (step ls s e) es := rfl

/-- What a step can do: nothing, a successful lookup, or an `AddListener`. -/
theorem step_cases (s : Allocation L) (e : CallerStep) :
    step ls s e = s ∨
    (∃ i n, e = .lookup i n ∧ s.callers i = .drawing ∧
      s.pm.listener (randomEphemeralPort n) = none ∧
      step ls s e = { s with callers := Function.update s.callers i (.found (randomEphemeralPort n)) }) ∨
    (∃ i p, e = .add i ∧ s.callers i = .found p ∧
      step ls s e = ⟨s.pm.addListener (ls i) p, Function.update s.callers i (.added p)⟩) := by
  cases e with
  | lookup i n =>
    simp only [step]
    split
    · rename_i h
      by_cases hf : s.pm.listener (randomEphemeralPort n) = none
      · exact .inr (.inl ⟨i, n, rfl, h, hf, by simp [hf]⟩)
      · exact .inl (by simp [hf])
    · exact .inl rfl
  | add i =>
    simp only [step]
    split
    · exact .inr (.inr ⟨i, _, rfl, ‹_›, rfl⟩)
    · exact .inl rfl

/-- Caller `i`'s lookup succeeds on a port that another caller has found and not yet
added. -/
def Collides (s : Allocation L) : CallerStep → Prop
  | .lookup i n => s.callers i = .drawing ∧ s.pm.listener (randomEphemeralPort n) = none ∧
      ∃ j, j ≠ i ∧ s.callers j = .found (randomEphemeralPort n)
  | .add _ => False

/-- No step of the schedule collides. -/
def NoCollision : Allocation L → List CallerStep → Prop
  | _, [] => True
  | s, e :: es => ¬ Collides s e ∧ NoCollision (step ls s e) es

/-- Every `AddListener` of the schedule finds its port free, so overwrites nothing. -/
def AddsFree : Allocation L → List CallerStep → Prop
  | _, [] => True
  | s, e :: es => (∀ i p, e = .add i → s.callers i = .found p → s.pm.listener p = none) ∧
      AddsFree (step ls s e) es

/-- The ports the callers have obtained are pairwise distinct. -/
def Distinct (s : Allocation L) : Prop :=
  ∀ i j p, i ≠ j → (s.callers i).port? = some p → (s.callers j).port? = some p → False

/-- Found ports are free, added ports are registered, and obtained ports are distinct. -/
def Inv (s : Allocation L) : Prop :=
  (∀ i p, s.callers i = .found p → s.pm.listener p = none) ∧
  (∀ i p, s.callers i = .added p → s.pm.listener p ≠ none) ∧
  Distinct s

theorem inv_init (pm : PortManager L) : Inv (init pm) := by
  simp [Inv, Distinct, init]

/-- Giving caller `i` a place whose port no other caller holds keeps the ports distinct. -/
theorem Distinct.update {s : Allocation L} (hD : Distinct s) (pm : PortManager L) {i : Nat}
    {c : Caller} (hc : ∀ j p, j ≠ i → (s.callers j).port? = some p → c.port? ≠ some p) :
    Distinct ⟨pm, Function.update s.callers i c⟩ := by
  intro k m q hkm hk hm
  simp only [Function.update_apply] at hk hm
  split_ifs at hk hm with h1 h2 h2
  · exact hkm (h1.trans h2.symm)
  · exact hc m q h2 hm hk
  · exact hc k q h1 hk hm
  · exact hD k m q hkm hk hm

/-- A step that does not collide keeps the invariant. -/
theorem Inv.step {s : Allocation L} (hs : Inv s) {e : CallerStep} (hc : ¬ Collides s e) :
    Inv (step ls s e) := by
  obtain ⟨hF, hA, hD⟩ := hs
  rcases step_cases ls s e with h | ⟨i, n, rfl, hi, hfree, h⟩ | ⟨i, p, rfl, hi, h⟩
  · rw [h]
    exact ⟨hF, hA, hD⟩
  · rw [h]
    refine ⟨fun k q hk ↦ ?_, fun k q hk ↦ ?_, hD.update s.pm fun j q hj hq hiq ↦ ?_⟩
    · by_cases hki : k = i
      · subst hki
        simp only [Function.update_same, Caller.found.injEq] at hk
        exact hk ▸ hfree
      · exact hF k q (by simpa [hki] using hk)
    · by_cases hki : k = i
      · subst hki
        simp at hk
      · exact hA k q (by simpa [hki] using hk)
    · simp only [Caller.port?, Option.some.injEq] at hiq
      subst hiq
      rcases Caller.port?_eq_some.mp hq with hq | hq
      · exact hc ⟨hi, hfree, j, hj, hq⟩
      · exact hA j _ hq hfree
  · rw [h]
    have hne : ∀ j q, j ≠ i → (s.callers j).port? = some q → q ≠ p := fun j q hj hq hqp ↦
      hD j i q hj hq (by simp [hi, hqp])
    refine ⟨fun k q hk ↦ ?_, fun k q hk ↦ ?_, hD.update _ fun j q hj hq hiq ↦ ?_⟩
    · by_cases hki : k = i
      · subst hki
        simp at hk
      · have hk' : s.callers k = .found q := by simpa [hki] using hk
        simp [hne k q hki (by simp [hk']), hF k q hk']
    · by_cases hki : k = i
      · subst hki
        simp only [Function.update_same, Caller.added.injEq] at hk
        simp [hk]
      · have hk' : s.callers k = .added q := by simpa [hki] using hk
        by_cases hqp : q = p <;> simp [hqp, hA k q hk']
    · simp only [Caller.port?, Option.some.injEq] at hiq
      exact hne j q hj hq hiq.symm

/-- A caller keeps the port it has obtained. -/
theorem port?_step {s : Allocation L} {e : CallerStep} {i : Nat} {p : UInt16}
    (h : (s.callers i).port? = some p) : ((step ls s e).callers i).port? = some p := by
  rcases step_cases ls s e with he | ⟨j, n, rfl, hj, -, he⟩ | ⟨j, q, rfl, hj, he⟩ <;> rw [he]
  · exact h
  · by_cases hij : i = j
    · subst hij
      simp [hj, Caller.port?] at h
    · simpa [hij] using h
  · by_cases hij : i = j
    · subst hij
      simp only [hj, Caller.port?, Option.some.injEq] at h
      simp [h, Caller.port?]
    · simpa [hij] using h

theorem Distinct.of_step {s : Allocation L} {e : CallerStep} (h : Distinct (step ls s e)) :
    Distinct s := fun i j p hij hi hj ↦ h i j p hij (port?_step ls hi) (port?_step ls hj)

theorem Distinct.of_run {s : Allocation L} {trace : List CallerStep}
    (h : Distinct (run ls s trace)) : Distinct s := by
  induction trace generalizing s with
  | nil => exact h
  | cons e es ih => exact (ih h).of_step ls

/-- A colliding lookup leaves two callers holding one port. -/
theorem not_distinct_step {s : Allocation L} {e : CallerStep} (hc : Collides s e) :
    ¬ Distinct (step ls s e) := by
  cases e with
  | lookup i n =>
    obtain ⟨hi, hfree, j, hji, hj⟩ := hc
    intro hD
    refine hD i j (randomEphemeralPort n) (Ne.symm hji) ?_ ?_ <;>
      simp [step, hi, hfree, hj, hji]
  | add i => exact hc.elim

/-- Over a schedule without collisions the invariant holds throughout and every
`AddListener` finds its port free. -/
theorem Inv.run {s : Allocation L} (hs : Inv s) {trace : List CallerStep}
    (hn : NoCollision ls s trace) : Inv (run ls s trace) ∧ AddsFree ls s trace := by
  induction trace generalizing s with
  | nil => exact ⟨hs, trivial⟩
  | cons e es ih =>
    obtain ⟨hrun, hfree⟩ := ih (hs.step ls hn.1) hn.2
    exact ⟨hrun, fun i p he hi ↦ hs.1 i p hi, hfree⟩

theorem noCollision_of_distinct {s : Allocation L} {trace : List CallerStep}
    (h : Distinct (run ls s trace)) : NoCollision ls s trace := by
  induction trace generalizing s with
  | nil => trivial
  | cons e es ih => exact ⟨fun hc ↦ not_distinct_step ls hc ((Distinct.of_run ls h)), ih h⟩

end Allocation

open Allocation in
/-- Under every interleaving of the callers and every draw, the ports they obtain are
distinct exactly when no lookup succeeds on a port another caller has found and not yet
added; and then no `AddListener` overwrites a listener. -/
theorem allocation_distinct_iff {L : Type} (ls : Nat → L) (pm : PortManager L)
    (trace : List CallerStep) :
    (Distinct (run ls (init pm) trace) ↔ NoCollision ls (init pm) trace) ∧
    (NoCollision ls (init pm) trace → AddsFree ls (init pm) trace) :=
  ⟨⟨noCollision_of_distinct ls, fun hn ↦ ((inv_init pm).run ls hn).1.2.2⟩,
    fun hn ↦ ((inv_init pm).run ls hn).2⟩


/-- Callers 0 and 1 take turns: 0 looks up and adds 49152, then 1 draws 49152 again, sees
it taken, and adds 49153. -/
theorem allocation_distinct_turns :
    Allocation.NoCollision id (Allocation.init ⟨∅⟩)
      [.lookup 0 ⟨0, by decide⟩, .add 0, .lookup 1 ⟨0, by decide⟩, .lookup 1 ⟨1, by decide⟩, .add 1] ∧
    Allocation.AddsFree id (Allocation.init ⟨∅⟩)
      [.lookup 0 ⟨0, by decide⟩, .add 0, .lookup 1 ⟨0, by decide⟩, .lookup 1 ⟨1, by decide⟩, .add 1] ∧
    Allocation.Distinct (Allocation.run id (Allocation.init ⟨∅⟩)
      [.lookup 0 ⟨0, by decide⟩, .add 0, .lookup 1 ⟨0, by decide⟩, .lookup 1 ⟨1, by decide⟩, .add 1]) := by
  have hn : Allocation.NoCollision id (Allocation.init ⟨∅⟩)
      [.lookup 0 ⟨0, by decide⟩, .add 0, .lookup 1 ⟨0, by decide⟩, .lookup 1 ⟨1, by decide⟩,
        .add 1] := by
    simp [Allocation.NoCollision, Allocation.Collides, Allocation.step, Allocation.init,
      Function.update_apply, randomEphemeralPort_injective.eq_iff, ite_eq_iff]
  exact ⟨hn, (allocation_distinct_iff id ⟨∅⟩ _).2 hn, (allocation_distinct_iff id ⟨∅⟩ _).1.2 hn⟩

/-- Two callers draw the same port and both look it up before either adds it: both
obtain 49152, and the second `AddListener` replaces the first caller's listener. -/
theorem allocation_same_port_overwrites :
    (Allocation.run id (Allocation.init ⟨∅⟩)
      [.lookup 0 ⟨0, by decide⟩, .lookup 1 ⟨0, by decide⟩, .add 0, .add 1]).callers 0 =
        .added 49152 ∧
    (Allocation.run id (Allocation.init ⟨∅⟩)
      [.lookup 0 ⟨0, by decide⟩, .lookup 1 ⟨0, by decide⟩, .add 0, .add 1]).callers 1 =
        .added 49152 ∧
    (Allocation.run id (Allocation.init ⟨∅⟩)
      [.lookup 0 ⟨0, by decide⟩, .lookup 1 ⟨0, by decide⟩, .add 0, .add 1]).pm.listener 49152 =
        some 1 := by
  decide

end Dmsg
