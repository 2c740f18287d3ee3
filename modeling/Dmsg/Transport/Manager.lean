import Dmsg.Cipher
import Mathlib.Data.List.AList

/-!
# The transport manager's state

`Manager` (the transport package's `manager.go`) keeps managed transports by
ID and runs one worker goroutine per transport.  Its methods run concurrently,
so the state here holds every goroutine as a thread with a program counter:
the place it has reached in `createTransport`, `acceptTransport`,
`dialTransport`, `DeleteTransport`, `manageTransport` or `Close`.  One step of
a thread is one critical section of the source, or one call into a factory,
the settlement handshake or a channel, whose result the environment chooses.

`ManagedTransport` is outside these files; its methods follow the protocol's
description: `killWorker` closes its done channel, `Close` closes the underlying
transport and the done channel, and `updateTransport` swaps the underlying
transport in place.
-/

namespace Dmsg.Transport

/-- `uuid.UUID`. -/
abbrev UUID := Bytes 16

/-- A transport's two edges, `[2]cipher.PubKey`. -/
abbrev Edges := PubKey × PubKey

/-- An underlying transport a factory returned. -/
structure Tp where
  edges : Edges
  closed : Bool
  deriving DecidableEq

/-- `Entry`, as the settlement handshake returns it. -/
structure Entry where
  id : UUID
  public : Bool
  deriving DecidableEq

/-- `Status`, as sent to discovery. -/
structure Status where
  id : UUID
  isUp : Bool
  deriving DecidableEq

/-- `LogEntry`: the byte counts, `big.Int`s. -/
structure LogEntry where
  receivedBytes : Int
  sentBytes : Int
  deriving DecidableEq

/-- A `ManagedTransport`: its ID, underlying transport, flags, whether its done channel is
closed, and its log entry. -/
structure ManagedTransport where
  id : UUID
  tp : Nat
  public : Bool
  accepted : Bool
  done : Bool
  logEntry : LogEntry
  deriving DecidableEq

instance : Inhabited ManagedTransport := ⟨⟨default, 0, false, false, false, ⟨0, 0⟩⟩⟩

/-- What a `Manager` is built with and never changes: its key and its factories' types. -/
structure Config where
  pubKey : PubKey
  factories : List String

/-- `Remote`: the edge that is not the manager's key. -/
def Config.remote (cfg : Config) (edges : Edges) : Option PubKey :=
  if cfg.pubKey = edges.1 then some edges.2
  else if cfg.pubKey = edges.2 then some edges.1
  else none

/-- The arguments of a `manageTransport` call. -/
structure Worker where
  mTr : Nat
  factory : String
  remote : PubKey
  public : Bool
  accepted : Bool
  deriving DecidableEq

/-- Who called `dialTransport`: `createTransport`, or a worker re-dialing. -/
inductive Dialer
  | create (remote : PubKey) (factory : String) (public : Bool)
  | redial (w : Worker)
  deriving DecidableEq

/-- Whether `dialTransport` was called by `createTransport`. -/
def Dialer.isCreate : Dialer → Bool
  | .create .. => true
  | .redial _ => false

/-- What the common tail of `createTransport` and `acceptTransport` installs: the entry's
ID and public flag, the transport, and the worker's arguments. -/
structure Install where
  id : UUID
  entryPublic : Bool
  tp : Nat
  factory : String
  remote : PubKey
  public : Bool
  accepted : Bool
  deriving DecidableEq

/-- Where a goroutine is. -/
inductive Proc
  /-- No goroutine. -/
  | idle
  /-- Returned, or exited. -/
  | done
  /-- `createTransport`, at the factory lookup. -/
  | createStart (remote : PubKey) (tpType : String) (public : Bool)
  /-- `dialTransport`, at `isClosing`. -/
  | dialCheck (c : Dialer)
  /-- `dialTransport`, in `factory.Dial`. -/
  | dialing (c : Dialer)
  /-- `dialTransport`, in the initiator's settlement handshake. -/
  | dialHandshake (c : Dialer) (tp : Nat)
  /-- `acceptTransport`, in `factory.Accept`. -/
  | accepting (factory : String)
  /-- `acceptTransport`, at `isClosing`. -/
  | acceptCheck (factory : String) (tp : Nat)
  /-- `acceptTransport`, in the responder's settlement handshake. -/
  | acceptHandshake (factory : String) (tp : Nat)
  /-- At `oldTr := tm.Transport(entry.ID)`. -/
  | lookupOld (i : Install)
  /-- At `oldTr.killWorker()`. -/
  | killOld (i : Install) (old : Option Nat)
  /-- At `newManagedTransport` and the locked insert. -/
  | insert (i : Install)
  /-- At `tm.TrChan <- mTr`. -/
  | publish (i : Install) (h : Nat)
  /-- At `go tm.manageTransport(...)`. -/
  | spawn (i : Install) (h : Nat)
  /-- `manageTransport`, at the `mgrQty` increment. -/
  | workerStart (w : Worker)
  /-- `manageTransport`, at its `select`. -/
  | workerLoop (w : Worker)
  /-- `manageTransport`, holding an error from `errChan`. -/
  | workerErr (w : Worker)
  /-- `manageTransport`, at `mTr.updateTransport(tr)`. -/
  | workerUpdate (w : Worker) (tp : Nat)
  /-- `DeleteTransport(id)`, at the locked removal; `ret` is the calling worker. -/
  | deleteLock (id : UUID) (ret : Option Worker)
  /-- `DeleteTransport`, at the first `tr.Close()`. -/
  | deleteClose (id : UUID) (tr : Option Nat) (ret : Option Worker)
  /-- `DeleteTransport`, at `UpdateStatuses`. -/
  | deleteStatus (id : UUID) (tr : Option Nat) (ret : Option Worker)
  /-- `DeleteTransport`, at the nil-guarded second `tr.Close()`. -/
  | deleteClose2 (id : UUID) (tr : Option Nat) (ret : Option Worker)
  /-- `Close`, at `close(tm.doneChan)`. -/
  | closeDone
  /-- `Close`, at the locked sweep over the transports. -/
  | closeSweep
  /-- `Close`, at `UpdateStatuses(statuses...)`. -/
  | closeReport (statuses : List Status)
  deriving DecidableEq

/-- The result the environment gives a step: of a factory, the handshake or a channel. -/
inductive Outcome
  /-- A step with nothing to choose. -/
  | none
  /-- `Dial` or `Accept` returned a transport with these edges. -/
  | dialed (edges : Edges)
  /-- `Dial`, `Accept` or the handshake returned an error. -/
  | failed
  /-- The handshake returned this entry. -/
  | settled (entry : Entry)
  /-- The worker's `select` took `<-mTr.doneChan`. -/
  | recvDone
  /-- The worker's `select` took an error from `errChan`. -/
  | recvErr
  /-- The worker's `select` took a read count. -/
  | recvRead (n : Nat)
  /-- The worker's `select` took a write count. -/
  | recvWrite (n : Nat)

instance : Inhabited Tp := ⟨⟨default, false⟩⟩

/-- The manager: the `transports` map and the managed transports it points to, the
underlying transports, `doneChan` (closed or not), `TrChan`'s buffer, `mgrQty` (an `int32`
that `atomic.AddInt32` updates with wrap-around), the calls made to discovery and to the log
store, and the goroutines. -/
structure Manager where
  transports : AList (fun _ : UUID ↦ Nat)
  mTrs : Nat → ManagedTransport
  nextMTr : Nat
  tps : Nat → Tp
  nextTp : Nat
  closing : Bool
  trChan : List Nat
  mgrQty : BitVec 32
  statuses : List (List Status)
  records : List (UUID × LogEntry)
  threads : Nat → Proc
  nextThread : Nat
  panicked : Bool

namespace Manager

/-- `NewManager`: no transport and no goroutine. -/
def init : Manager :=
  ⟨∅, fun _ ↦ default, 0, fun _ ↦ default, 0, false, [], 0, [], [], fun _ ↦ .idle, 0, false⟩

variable (s : Manager)

/-- Goroutine `t` moves to `p`. -/
@[simps] def goto (t : Nat) (p : Proc) : Manager := { s with threads := Function.update s.threads t p }

theorem goto_goto (t : Nat) (p q : Proc) : (s.goto t p).goto t q = s.goto t q := by
  simp [goto]

theorem goto_eq_self {t : Nat} {p : Proc} (h : s.threads t = p) : s.goto t p = s := by
  subst h
  simp [goto]

/-- `go …`: a new goroutine at `p`. -/
@[simps] def fork (p : Proc) : Manager :=
  { s with threads := Function.update s.threads s.nextThread p, nextThread := s.nextThread + 1 }

/-- A factory returns a new open transport. -/
@[simps] def newTp (e : Edges) : Manager :=
  { s with tps := Function.update s.tps s.nextTp ⟨e, false⟩, nextTp := s.nextTp + 1 }

/-- `tr.Close()` on an underlying transport. -/
@[simps] def closeTp (k : Nat) : Manager :=
  { s with tps := Function.update s.tps k { s.tps k with closed := true } }

/-- Modelled from the spec: `killWorker` ("kill its worker") closes the managed transport's done
channel. -/
@[simps transports nextMTr tps nextTp closing trChan mgrQty statuses records threads nextThread
  panicked]
def killWorker (h : Nat) : Manager :=
  { s with mTrs := Function.update s.mTrs h { s.mTrs h with done := true } }

/-- Modelled from the spec: `ManagedTransport.Close` closes the underlying transport, then the
done channel. -/
def closeMTr (h : Nat) : Manager := (s.closeTp (s.mTrs h).tp).killWorker h

/-- Modelled from the spec: `updateTransport` swaps the underlying transport `k` into the same
managed transport, which keeps its ID. -/
@[simps transports nextMTr tps nextTp closing trChan mgrQty statuses records threads nextThread
  panicked]
def updateTransport (h k : Nat) : Manager :=
  { s with mTrs := Function.update s.mTrs h { s.mTrs h with tp := k } }

/-- `newManagedTransport` (modelled from the spec: a new open managed transport with empty
logs), then the locked `tm.transports[entry.ID] = mTr`. -/
@[simps transports nextMTr tps nextTp closing trChan mgrQty statuses records threads nextThread
  panicked]
def install (i : Install) : Manager :=
  { s with
    mTrs := Function.update s.mTrs s.nextMTr ⟨i.id, i.tp, i.entryPublic, i.accepted, false, ⟨0, 0⟩⟩
    nextMTr := s.nextMTr + 1
    transports := s.transports.insert i.id s.nextMTr }

@[simp] theorem killWorker_id (h k : Nat) : ((s.killWorker h).mTrs k).id = (s.mTrs k).id := by
  by_cases hk : k = h <;> simp [killWorker, Function.update_apply, hk]

@[simp] theorem killWorker_public (h k : Nat) :
    ((s.killWorker h).mTrs k).public = (s.mTrs k).public := by
  by_cases hk : k = h <;> simp [killWorker, Function.update_apply, hk]

@[simp] theorem killWorker_tp (h k : Nat) : ((s.killWorker h).mTrs k).tp = (s.mTrs k).tp := by
  by_cases hk : k = h <;> simp [killWorker, Function.update_apply, hk]

@[simp] theorem killWorker_done (h k : Nat) :
    ((s.killWorker h).mTrs k).done = ((s.mTrs k).done || decide (k = h)) := by
  by_cases hk : k = h <;> simp [killWorker, Function.update_apply, hk]

@[simp] theorem killWorker_logEntry (h k : Nat) :
    ((s.killWorker h).mTrs k).logEntry = (s.mTrs k).logEntry := by
  by_cases hk : k = h <;> simp [killWorker, Function.update_apply, hk]

@[simp] theorem updateTransport_logEntry (h k x : Nat) :
    ((s.updateTransport h k).mTrs x).logEntry = (s.mTrs x).logEntry := by
  by_cases hx : x = h <;> simp [updateTransport, Function.update_apply, hx]

@[simp] theorem updateTransport_id (h k x : Nat) :
    ((s.updateTransport h k).mTrs x).id = (s.mTrs x).id := by
  by_cases hx : x = h <;> simp [updateTransport, Function.update_apply, hx]

@[simp] theorem updateTransport_done (h k x : Nat) :
    ((s.updateTransport h k).mTrs x).done = (s.mTrs x).done := by
  by_cases hx : x = h <;> simp [updateTransport, Function.update_apply, hx]

theorem install_mTrs_of_ne (i : Install) {k : Nat} (hk : k ≠ s.nextMTr) :
    (s.install i).mTrs k = s.mTrs k := by
  simp [install, Function.update_apply, hk]

@[simp] theorem install_mTrs_self (i : Install) :
    (s.install i).mTrs s.nextMTr = ⟨i.id, i.tp, i.entryPublic, i.accepted, false, ⟨0, 0⟩⟩ := by
  simp [install]

/-- A read count: add it to `ReceivedBytes` and `Record` the entry. -/
@[simps transports nextMTr tps nextTp closing trChan mgrQty statuses records threads nextThread
  panicked]
def logRead (h n : Nat) : Manager :=
  let m := s.mTrs h
  let m' := { m with logEntry := { m.logEntry with receivedBytes := m.logEntry.receivedBytes + n } }
  { s with mTrs := Function.update s.mTrs h m', records := s.records ++ [(m'.id, m'.logEntry)] }

/-- A write count: add it to `SentBytes` and `Record` the entry. -/
@[simps transports nextMTr tps nextTp closing trChan mgrQty statuses records threads nextThread
  panicked]
def logWrite (h n : Nat) : Manager :=
  let m := s.mTrs h
  let m' := { m with logEntry := { m.logEntry with sentBytes := m.logEntry.sentBytes + n } }
  { s with mTrs := Function.update s.mTrs h m', records := s.records ++ [(m'.id, m'.logEntry)] }

@[simp] theorem logRead_id (h n x : Nat) : ((s.logRead h n).mTrs x).id = (s.mTrs x).id := by
  by_cases hx : x = h <;> simp [logRead, Function.update_apply, hx]

@[simp] theorem logRead_done (h n x : Nat) : ((s.logRead h n).mTrs x).done = (s.mTrs x).done := by
  by_cases hx : x = h <;> simp [logRead, Function.update_apply, hx]

@[simp] theorem logWrite_id (h n x : Nat) : ((s.logWrite h n).mTrs x).id = (s.mTrs x).id := by
  by_cases hx : x = h <;> simp [logWrite, Function.update_apply, hx]

@[simp] theorem logWrite_done (h n x : Nat) : ((s.logWrite h n).mTrs x).done = (s.mTrs x).done := by
  by_cases hx : x = h <;> simp [logWrite, Function.update_apply, hx]

@[simp] theorem lookup_erase_eq_some {l : AList (fun _ : UUID ↦ Nat)} {a b : UUID} {k : Nat} :
    (l.erase a).lookup b = some k ↔ b ≠ a ∧ l.lookup b = some k := by
  by_cases hab : b = a
  · subst hab
    simp [AList.lookup_erase]
  · simp [AList.lookup_erase_ne hab, hab]

/-- One turn of `Close`'s locked loop: a public transport gets a status and is closed. -/
def sweepStep (acc : Manager × List Status) (e : Σ _ : UUID, Nat) : Manager × List Status :=
  if (acc.1.mTrs e.2).public then (acc.1.closeMTr e.2, acc.2 ++ [⟨(acc.1.mTrs e.2).id, false⟩])
  else acc

/-- `Close`'s locked loop over the transports, with the statuses it collects. -/
def sweep : Manager × List Status := s.transports.entries.foldl sweepStep (s, [])

/-- The loop changes only underlying transports and managed transports. -/
theorem sweep_fst : ∃ tps mTrs, s.sweep.1 = { s with tps := tps, mTrs := mTrs } := by
  suffices ∀ (es : List (Σ _ : UUID, Nat)) (acc : Manager × List Status),
      (∃ tps mTrs, acc.1 = { s with tps := tps, mTrs := mTrs }) →
      ∃ tps mTrs, (es.foldl sweepStep acc).1 = { s with tps := tps, mTrs := mTrs } from
    this _ _ ⟨s.tps, s.mTrs, rfl⟩
  intro es
  induction es with
  | nil => exact fun _ h ↦ h
  | cons e es ih =>
    rintro acc ⟨tps, mTrs, h⟩
    apply ih
    unfold sweepStep
    split
    · exact ⟨_, _, by rw [h]; rfl⟩
    · exact ⟨tps, mTrs, h⟩

@[simp] theorem sweep_threads : s.sweep.1.threads = s.threads := by
  obtain ⟨_, _, h⟩ := s.sweep_fst; rw [h]

@[simp] theorem sweep_closing : s.sweep.1.closing = s.closing := by
  obtain ⟨_, _, h⟩ := s.sweep_fst; rw [h]

@[simp] theorem sweep_transports : s.sweep.1.transports = s.transports := by
  obtain ⟨_, _, h⟩ := s.sweep_fst; rw [h]

@[simp] theorem sweep_nextThread : s.sweep.1.nextThread = s.nextThread := by
  obtain ⟨_, _, h⟩ := s.sweep_fst; rw [h]

@[simp] theorem sweep_mgrQty : s.sweep.1.mgrQty = s.mgrQty := by
  obtain ⟨_, _, h⟩ := s.sweep_fst; rw [h]

@[simp] theorem sweep_nextMTr : s.sweep.1.nextMTr = s.nextMTr := by
  obtain ⟨_, _, h⟩ := s.sweep_fst; rw [h]

@[simp] theorem sweep_statuses : s.sweep.1.statuses = s.statuses := by
  obtain ⟨_, _, h⟩ := s.sweep_fst; rw [h]

@[simp] theorem sweep_panicked : s.sweep.1.panicked = s.panicked := by
  obtain ⟨_, _, h⟩ := s.sweep_fst; rw [h]

@[simp] theorem sweep_trChan : s.sweep.1.trChan = s.trChan := by
  obtain ⟨_, _, h⟩ := s.sweep_fst; rw [h]

@[simp] theorem sweep_records : s.sweep.1.records = s.records := by
  obtain ⟨_, _, h⟩ := s.sweep_fst; rw [h]

@[simp] theorem sweep_nextTp : s.sweep.1.nextTp = s.nextTp := by
  obtain ⟨_, _, h⟩ := s.sweep_fst; rw [h]

@[simp] theorem sweep_id (k : Nat) : (s.sweep.1.mTrs k).id = (s.mTrs k).id := by
  suffices ∀ (es : List (Σ _ : UUID, Nat)) (acc : Manager × List Status),
      ((es.foldl sweepStep acc).1.mTrs k).id = (acc.1.mTrs k).id from this _ _
  intro es
  induction es with
  | nil => exact fun _ ↦ rfl
  | cons e es ih =>
    intro acc
    rw [List.foldl_cons, ih]
    unfold sweepStep
    split <;> simp [closeMTr]

@[simp] theorem sweep_logEntry (k : Nat) : (s.sweep.1.mTrs k).logEntry = (s.mTrs k).logEntry := by
  suffices ∀ (es : List (Σ _ : UUID, Nat)) (acc : Manager × List Status),
      ((es.foldl sweepStep acc).1.mTrs k).logEntry = (acc.1.mTrs k).logEntry from this _ _
  intro es
  induction es with
  | nil => exact fun _ ↦ rfl
  | cons e es ih =>
    intro acc
    rw [List.foldl_cons, ih]
    unfold sweepStep
    split <;> simp [closeMTr]

/-- `Close` closes exactly the public transports in the map. -/
@[simp] theorem sweep_done (k : Nat) :
    (s.sweep.1.mTrs k).done =
      ((s.mTrs k).done || (s.mTrs k).public && decide (k ∈ s.transports.entries.map (·.2))) := by
  suffices ∀ (es : List (Σ _ : UUID, Nat)) (acc : Manager × List Status),
      ((es.foldl sweepStep acc).1.mTrs k).done =
        ((acc.1.mTrs k).done || (acc.1.mTrs k).public && decide (k ∈ es.map (·.2))) from this _ _
  intro es
  induction es with
  | nil => simp
  | cons e es ih =>
    intro acc
    rw [List.foldl_cons, ih]
    unfold sweepStep
    by_cases hk : k = e.2
    · subst hk
      split <;> simp_all [closeMTr]
    · have hb : (k == e.2) = false := beq_eq_false_iff_ne.mpr hk
      split <;> simp [closeMTr, hk, Ne.symm hk, hb]

/-- `Close` closes the underlying transport of each public managed transport in the map, and
changes no other underlying transport. -/
@[simp] theorem sweep_tps (j : Nat) :
    s.sweep.1.tps j = { s.tps j with closed := ((s.tps j).closed ||
      s.transports.entries.any fun e ↦ (s.mTrs e.2).public && (s.mTrs e.2).tp == j) } := by
  suffices ∀ (es : List (Σ _ : UUID, Nat)) (acc : Manager × List Status),
      (es.foldl sweepStep acc).1.tps j = { acc.1.tps j with closed := ((acc.1.tps j).closed ||
        es.any fun e ↦ (acc.1.mTrs e.2).public && (acc.1.mTrs e.2).tp == j) } from this _ _
  intro es
  induction es with
  | nil => simp
  | cons e es ih =>
    intro acc
    rw [List.foldl_cons, ih]
    unfold sweepStep
    by_cases hj : (acc.1.mTrs e.2).tp = j
    · split <;> simp_all [closeMTr, Function.update_apply]
    · have hb : ((acc.1.mTrs e.2).tp == j) = false := beq_eq_false_iff_ne.mpr hj
      split <;> simp [closeMTr, Function.update_apply, Ne.symm hj, hb]

/-- `Close` reports `{ID, IsUp: false}` for exactly the public transports in the map, in the
map's order. -/
theorem sweep_snd :
    s.sweep.2 = (s.transports.entries.filter fun e ↦ (s.mTrs e.2).public).map fun e ↦
      (⟨(s.mTrs e.2).id, false⟩ : Status) := by
  suffices ∀ (es : List (Σ _ : UUID, Nat)) (acc : Manager × List Status),
      (es.foldl sweepStep acc).2 = acc.2 ++ (es.filter fun e ↦ (acc.1.mTrs e.2).public).map
        fun e ↦ (⟨(acc.1.mTrs e.2).id, false⟩ : Status) by simpa using this _ (s, [])
  intro es
  induction es with
  | nil => simp
  | cons e es ih =>
    intro acc
    rw [List.foldl_cons, ih]
    unfold sweepStep
    split <;> simp_all [closeMTr]

/-- Where the caller of `dialTransport` goes when it returns an error: `createTransport`
returns it, a worker calls `DeleteTransport` on its own transport. -/
def dialError : Dialer → Proc
  | .create .. => .done
  | .redial w => .deleteLock (s.mTrs w.mTr).id (some w)

/-- `dialTransport` returned an error to goroutine `t`. -/
def dialFailed (t : Nat) (c : Dialer) : Manager := s.goto t (s.dialError c)

end Manager

end Dmsg.Transport
