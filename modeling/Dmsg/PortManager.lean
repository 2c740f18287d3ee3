import Mathlib.Data.List.AList
import Mathlib.Data.List.FinRange

/-!
# The port manager

`PortManager` (`port_manager.go`) keeps the listeners of a node by port and
draws ephemeral ports at random.  The random source is a stream of
`rand.Intn(lastEphemeralPort - firstEphemeralPort)` results, any stream at
all; `NextEmptyEphemeralPort` retries until a draw hits a free port, so it is
run here on a bounded number of draws.
-/

namespace Dmsg

/-- `firstEphemeralPort`. -/
def firstEphemeralPort : Nat := 49152

/-- `lastEphemeralPort`, an exclusive bound. -/
def lastEphemeralPort : Nat := 65535

/-- The results of `rand.Intn(lastEphemeralPort - firstEphemeralPort)`. -/
abbrev Draw := Fin (lastEphemeralPort - firstEphemeralPort)

/-- `PortManager`: the listeners by port. -/
structure PortManager (L : Type) where
  listeners : AList (fun _ : UInt16 ↦ L)

namespace PortManager

variable {L : Type}

/-- `Listener`. -/
def listener (pm : PortManager L) (port : UInt16) : Option L := pm.listeners.lookup port

/-- `AddListener`: `pm.listeners[port] = l`. -/
def addListener (pm : PortManager L) (l : L) (port : UInt16) : PortManager L :=
  ⟨pm.listeners.insert port l⟩

@[simp] theorem listener_empty (q : UInt16) : (⟨∅⟩ : PortManager L).listener q = none := rfl

@[simp] theorem listener_addListener (pm : PortManager L) (l : L) (port q : UInt16) :
    (pm.addListener l port).listener q = if q = port then some l else pm.listener q := by
  by_cases h : q = port
  · subst h
    simp [listener, addListener, AList.lookup_insert]
  · simp [listener, addListener, AList.lookup_insert_ne h, h]

/-- Successive `AddListener` calls. -/
def addListeners (pm : PortManager L) (adds : List (L × UInt16)) : PortManager L :=
  adds.foldl (fun pm a ↦ pm.addListener a.1 a.2) pm

theorem listener_addListeners_eq_none (pm : PortManager L) (adds : List (L × UInt16)) (q : UInt16) :
    (pm.addListeners adds).listener q = none ↔ pm.listener q = none ∧ ∀ a ∈ adds, a.2 ≠ q := by
  induction adds generalizing pm with
  | nil => simp [addListeners]
  | cons a as ih =>
    simp only [addListeners, List.foldl_cons] at ih ⊢
    rw [ih, listener_addListener, List.forall_mem_cons]
    by_cases h : q = a.2
    · simp [h]
    · simp [h, Ne.symm h]

end PortManager

/-- `randomEphemeralPort`: `uint16(firstEphemeralPort + n)` for a draw `n`. -/
def randomEphemeralPort (n : Draw) : UInt16 := UInt16.ofNat (firstEphemeralPort + n)

/-- The conversion to `uint16` never wraps: every ephemeral port is in `[49152, 65535)`. -/
theorem toNat_randomEphemeralPort (n : Draw) :
    (randomEphemeralPort n).toNat = firstEphemeralPort + n := by
  have := n.isLt
  simp only [randomEphemeralPort, firstEphemeralPort, lastEphemeralPort] at *
  exact UInt16.toNat_ofNat_of_lt (by simp only [UInt16.size]; omega)

/-- The stream `0, 1, 2, …` of draws, wrapping around: it produces every draw. -/
def cyclingDraws (j : Nat) : Draw := ⟨j % (lastEphemeralPort - firstEphemeralPort), Nat.mod_lt _ (by decide)⟩

theorem randomEphemeralPort_injective : Function.Injective randomEphemeralPort := by
  intro m n h
  have := congrArg UInt16.toNat h
  simp only [toNat_randomEphemeralPort] at this
  exact Fin.ext (by omega)

namespace PortManager

variable {L : Type}

/-- `NextEmptyEphemeralPort` on the draws `rand i, rand (i+1), …`, for at most `fuel` of
them: the port it returns and the position of the stream after it, or `none` when those
draws hit only registered ports. -/
def nextEmptyEphemeralPort (pm : PortManager L) (rand : Nat → Draw) : Nat → Nat → Option (UInt16 × Nat)
  | 0, _ => none
  | fuel + 1, i =>
    if (pm.listener (randomEphemeralPort (rand i))).isNone then some (randomEphemeralPort (rand i), i + 1)
    else pm.nextEmptyEphemeralPort rand fuel (i + 1)

/-- A port the loop returns is the draw of a free port. -/
theorem nextEmptyEphemeralPort_eq_some {pm : PortManager L} {rand : Nat → Draw} :
    ∀ {fuel i : Nat} {p : UInt16} {k : Nat}, pm.nextEmptyEphemeralPort rand fuel i = some (p, k) →
      ∃ j, i ≤ j ∧ p = randomEphemeralPort (rand j) ∧ pm.listener p = none
  | 0, _, _, _, h => by simp [nextEmptyEphemeralPort] at h
  | fuel + 1, i, p, k, h => by
    unfold nextEmptyEphemeralPort at h
    split at h
    · cases h
      exact ⟨i, le_rfl, rfl, Option.isNone_iff_eq_none.mp ‹_›⟩
    · obtain ⟨j, hj, hp, hl⟩ := nextEmptyEphemeralPort_eq_some h
      exact ⟨j, by omega, hp, hl⟩

/-- A draw of a free port at position `j` ends the loop by then. -/
theorem nextEmptyEphemeralPort_isSome {pm : PortManager L} {rand : Nat → Draw} {j : Nat}
    (hj : pm.listener (randomEphemeralPort (rand j)) = none) :
    ∀ d i, i + d = j → (pm.nextEmptyEphemeralPort rand (d + 1) i).isSome
  | 0, i, h => by simp_all [nextEmptyEphemeralPort]
  | d + 1, i, h => by
    unfold nextEmptyEphemeralPort
    split
    · rfl
    · exact nextEmptyEphemeralPort_isSome hj d (i + 1) (by omega)

/-- With every ephemeral port registered, the loop never returns. -/
theorem nextEmptyEphemeralPort_of_full {pm : PortManager L} {rand : Nat → Draw}
    (hfull : ∀ n, pm.listener (randomEphemeralPort n) ≠ none) :
    ∀ fuel i, pm.nextEmptyEphemeralPort rand fuel i = none
  | 0, _ => rfl
  | fuel + 1, i => by
    simp [nextEmptyEphemeralPort, Option.isNone_iff_eq_none, hfull,
      nextEmptyEphemeralPort_of_full hfull fuel (i + 1)]

/-- Every port `NextEmptyEphemeralPort` returns lies in `[49152, 65534]` and has no
listener, so it is none of the ports added before the call. -/
theorem nextEmptyEphemeralPort_free (pm : PortManager L) (adds : List (L × UInt16))
    (rand : Nat → Draw) (fuel i k : Nat) (p : UInt16)
    (h : (pm.addListeners adds).nextEmptyEphemeralPort rand fuel i = some (p, k)) :
    49152 ≤ p.toNat ∧ p.toNat ≤ 65534 ∧ (pm.addListeners adds).listener p = none ∧
      ∀ a ∈ adds, a.2 ≠ p := by
  obtain ⟨j, -, rfl, hl⟩ := nextEmptyEphemeralPort_eq_some h
  have hr := toNat_randomEphemeralPort (rand j)
  have hj := (rand j).isLt
  simp only [firstEphemeralPort, lastEphemeralPort] at hr hj
  exact ⟨by omega, by omega, hl, ((listener_addListeners_eq_none pm adds _).mp hl).2⟩

/-- After `AddListener` on 49152, the draws 0 then 1 give 49153. -/
theorem nextEmptyEphemeralPort_free_after_add :
    (PortManager.addListeners ⟨∅⟩ [((), 49152)]).nextEmptyEphemeralPort cyclingDraws 2 0 =
      some (49153, 2) ∧
    49152 ≤ (49153 : UInt16).toNat ∧ (49153 : UInt16).toNat ≤ 65534 ∧
      (PortManager.addListeners ⟨∅⟩ [((), 49152)]).listener 49153 = none ∧
      ∀ a ∈ [((), (49152 : UInt16))], a.2 ≠ 49153 :=
  ⟨by decide, nextEmptyEphemeralPort_free _ _ cyclingDraws 2 0 2 49153 (by decide)⟩

/-- `NextEmptyEphemeralPort` has no error result.  While the stream, from the call's first
draw on, draws some free port, the loop returns after finitely many draws; with all 16383
ports registered it never returns. -/
theorem nextEmptyEphemeralPort_terminates (pm : PortManager L) (rand : Nat → Draw) (i : Nat) :
    ((∃ j ≥ i, pm.listener (randomEphemeralPort (rand j)) = none) →
      ∃ fuel p k, pm.nextEmptyEphemeralPort rand fuel i = some (p, k)) ∧
    ((∀ n, pm.listener (randomEphemeralPort n) ≠ none) →
      ∀ fuel, pm.nextEmptyEphemeralPort rand fuel i = none) := by
  refine ⟨fun ⟨j, hij, hj⟩ ↦ ?_, fun hfull fuel ↦ nextEmptyEphemeralPort_of_full hfull fuel i⟩
  obtain ⟨⟨p, k⟩, h⟩ :=
    Option.isSome_iff_exists.mp (nextEmptyEphemeralPort_isSome hj (j - i) i (by omega))
  exact ⟨_, p, k, h⟩

/-- A port manager with a listener on every ephemeral port. -/
def fullPortManager : PortManager Unit :=
  PortManager.addListeners ⟨∅⟩ ((List.finRange _).map fun n ↦ ((), randomEphemeralPort n))

theorem fullPortManager_listener (n : Draw) :
    fullPortManager.listener (randomEphemeralPort n) ≠ none := fun h ↦
  ((listener_addListeners_eq_none _ _ _).mp h).2 ((), randomEphemeralPort n) (by simp) rfl

/-- On an empty manager the loop returns; on a full one it never does. -/
theorem nextEmptyEphemeralPort_terminates_empty_full :
    (∃ fuel p k, (⟨∅⟩ : PortManager Unit).nextEmptyEphemeralPort cyclingDraws fuel 0 =
      some (p, k)) ∧
    ∀ fuel, fullPortManager.nextEmptyEphemeralPort cyclingDraws fuel 0 = none :=
  ⟨(nextEmptyEphemeralPort_terminates _ cyclingDraws 0).1 ⟨0, le_rfl, rfl⟩,
    (nextEmptyEphemeralPort_terminates fullPortManager cyclingDraws 0).2 fullPortManager_listener⟩

/-- With every ephemeral port registered, a stream that draws every value still never
makes `NextEmptyEphemeralPort` return. -/
theorem nextEmptyEphemeralPort_full_never_returns :
    (∀ n : Draw, ∃ j, cyclingDraws j = n) ∧
    ¬ ∃ fuel, (fullPortManager.nextEmptyEphemeralPort cyclingDraws fuel 0).isSome :=
  ⟨fun n ↦ ⟨n, Fin.ext (Nat.mod_eq_of_lt n.isLt)⟩, fun ⟨fuel, h⟩ ↦ by
    simp [nextEmptyEphemeralPort_of_full fullPortManager_listener] at h⟩

end PortManager

end Dmsg
