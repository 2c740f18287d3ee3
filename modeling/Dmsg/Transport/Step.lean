import Dmsg.Transport.Manager

/-!
# One step of the transport manager

A step is either a call entering the manager (`CreateTransport` and the
callers of `createTransport`, an accept loop of `Serve`, `DeleteTransport`,
`Close`), a consumer reading `TrChan`, or one step of a running goroutine,
with the result the environment chose for it.  `step` is `none` when the step
cannot happen: its goroutine is elsewhere, the factory's accept loop is still
inside its last `acceptTransport`, `TrChan` is full or empty, the worker's done
channel is still open, or the process has panicked.

What one step of a goroutine can do is said once, next to `threadStep`: `Moves` is where it
can take the goroutine, with the conditions the source checks on the way, and `Frame` is what
it can change of the rest of the state, read off the place's write set `Proc.writes`.  The
invariants of the other modules are proved from these two lemmas.
-/

namespace Dmsg.Transport

namespace Manager

/-- One step of goroutine `t`: what it does at its place, with the outcome the environment
gives the call it is in. -/
def threadStep (cfg : Config) (s : Manager) (t : Nat) (o : Outcome) : Option Manager :=
  match s.threads t with
  | .createStart remote ty pub =>
    some (if ty ∈ cfg.factories then s.goto t (.dialCheck (.create remote ty pub))
      else s.goto t .done)
  | .dialCheck c => some (if s.closing then s.dialFailed t c else s.goto t (.dialing c))
  | .dialing c =>
    match o with
    | .dialed e => some ((s.newTp e).goto t (.dialHandshake c s.nextTp))
    | .failed => some (s.dialFailed t c)
    | _ => none
  | .dialHandshake c k =>
    match o, c with
    | .failed, _ => some ((s.closeTp k).dialFailed t c)
    | .settled e, .create remote ty pub =>
      some (s.goto t (.lookupOld ⟨e.id, e.public, k, ty, remote, pub, false⟩))
    | .settled _, .redial w => some (s.goto t (.workerUpdate w k))
    | _, _ => none
  | .accepting f =>
    match o with
    | .dialed e => some ((s.newTp e).goto t (.acceptCheck f s.nextTp))
    | .failed => some (s.goto t .done)
    | _ => none
  | .acceptCheck f k =>
    some (if s.closing then s.goto t .done else s.goto t (.acceptHandshake f k))
  | .acceptHandshake f k =>
    match o with
    | .failed => some ((s.closeTp k).goto t .done)
    | .settled e =>
      some (match cfg.remote (s.tps k).edges with
        | none => s.goto t .done
        | some r => s.goto t (.lookupOld ⟨e.id, e.public, k, f, r, true, true⟩))
    | _ => none
  | .lookupOld i => some (s.goto t (.killOld i (s.transports.lookup i.id)))
  | .killOld i old =>
    some ((match old with | some h => s.killWorker h | none => s).goto t (.insert i))
  | .insert i => some ((s.install i).goto t (.publish i s.nextMTr))
  | .publish i h =>
    if s.trChan.length < 9 then some ({ s with trChan := s.trChan ++ [h] }.goto t (.spawn i h))
    else none
  | .spawn i h =>
    some ((s.fork (.workerStart ⟨h, i.factory, i.remote, i.public, i.accepted⟩)).goto t .done)
  | .workerStart w => some ({ s with mgrQty := s.mgrQty + 1 }.goto t (.workerLoop w))
  | .workerLoop w =>
    match o with
    | .recvDone =>
      if (s.mTrs w.mTr).done then some ({ s with mgrQty := s.mgrQty - 1 }.goto t .done) else none
    | .recvErr => some (s.goto t (.workerErr w))
    | .recvRead n => some ((s.logRead w.mTr n).goto t (.workerLoop w))
    | .recvWrite n => some ((s.logWrite w.mTr n).goto t (.workerLoop w))
    | _ => none
  | .workerErr w =>
    some (if (s.mTrs w.mTr).done then s.goto t (.workerLoop w)
      else if w.accepted then s.goto t (.deleteLock (s.mTrs w.mTr).id (some w))
      else s.goto t (.dialCheck (.redial w)))
  | .workerUpdate w k => some ((s.updateTransport w.mTr k).goto t (.workerLoop w))
  | .deleteLock id ret =>
    some ({ s with transports := s.transports.erase id }.goto t
      (.deleteClose id (s.transports.lookup id) ret))
  | .deleteClose id tr ret =>
    match tr with
    | none => some { s with panicked := true }
    | some h => some ((s.closeMTr h).goto t (.deleteStatus id (some h) ret))
  | .deleteStatus id tr ret =>
    some ({ s with statuses := s.statuses ++ [[(⟨id, false⟩ : Status)]] }.goto t
      (.deleteClose2 id tr ret))
  | .deleteClose2 _ tr ret =>
    some ((match tr with | some h => s.closeMTr h | none => s).goto t
      (match ret with | some w => .workerLoop w | none => .done))
  | .closeDone =>
    some (if s.closing then { s with panicked := true }
      else { s with closing := true }.goto t .closeSweep)
  | .closeSweep => some (s.sweep.1.goto t (.closeReport s.sweep.2))
  | .closeReport sts => some ({ s with statuses := s.statuses ++ [sts] }.goto t .done)
  | .idle | .done => none

end Manager

/-! ### What one step of a goroutine does -/

/-- The parts of the manager a step may change besides its goroutine's place; `Frame` says
how each one changes. -/
structure Footprint where
  /-- The `transports` map. -/
  transports : Bool := false
  /-- A new managed transport, stored at `nextMTr` and under its ID. -/
  install : Bool := false
  /-- The managed transports. -/
  mTrs : Bool := false
  /-- The underlying transports. -/
  tps : Bool := false
  /-- `TrChan`'s buffer. -/
  trChan : Bool := false
  /-- `mgrQty`. -/
  mgrQty : Bool := false
  /-- The log store. -/
  records : Bool := false
  /-- `doneChan`. -/
  closing : Bool := false
  /-- The process, by a nil dereference or a second `close(tm.doneChan)`. -/
  panics : Bool := false

/-- The write set of a step at each place. -/
def Proc.writes : Proc → Footprint
  | .dialing _ | .dialHandshake .. | .accepting _ | .acceptHandshake .. => { tps := true }
  | .killOld .. | .workerUpdate .. => { mTrs := true }
  | .insert _ => { transports := true, install := true, mTrs := true }
  | .publish .. => { trChan := true }
  | .workerStart _ => { mgrQty := true }
  | .workerLoop _ => { mTrs := true, mgrQty := true, records := true }
  | .deleteLock .. => { transports := true }
  | .deleteClose .. => { tps := true, mTrs := true, panics := true }
  | .deleteClose2 .. | .closeSweep => { tps := true, mTrs := true }
  | .closeDone => { closing := true, panics := true }
  | _ => {}

/-- What a step at the place sends to discovery's `UpdateStatuses`. -/
def Proc.reports : Proc → List (List Status)
  | .deleteStatus id .. => [[⟨id, false⟩]]
  | .closeReport sts => [sts]
  | _ => []

/-- The goroutine a step at the place starts: `go tm.manageTransport(...)`. -/
def Proc.forks : Proc → Option Proc
  | .spawn i h => some (.workerStart ⟨h, i.factory, i.remote, i.public, i.accepted⟩)
  | _ => none

/-- Only the insert stores a new managed transport. -/
theorem Proc.eq_insert_of_install {p : Proc} (h : p.writes.install = true) : ∃ i, p = .insert i := by
  cases p <;> simp_all [Proc.writes]

/-- Only `go tm.manageTransport(...)` starts a goroutine, at the start of `manageTransport`. -/
theorem Proc.eq_spawn_of_forks {p q : Proc} (h : p.forks = some q) :
    ∃ i k, p = .spawn i k ∧ q = .workerStart ⟨k, i.factory, i.remote, i.public, i.accepted⟩ := by
  cases p <;> simp only [Proc.forks, reduceCtorEq, Option.some.injEq] at h
  exact ⟨_, _, rfl, h.symm⟩

namespace Manager

variable {cfg : Config} {s s' : Manager} {t : Nat} {o : Outcome}

/-- Where one step takes a goroutine: `s.Moves cfg o p q` when a step at `p` with outcome `o`
from `s` can leave it at `q`, with the conditions the source checks on the way.  A step that
panics leaves the goroutine where it is. -/
inductive Moves (cfg : Config) (s : Manager) : Outcome → Proc → Proc → Prop
  | createStart {o r ty pub} : ty ∈ cfg.factories →
    Moves cfg s o (.createStart r ty pub) (.dialCheck (.create r ty pub))
  | createUnknown {o r ty pub} : ty ∉ cfg.factories → Moves cfg s o (.createStart r ty pub) .done
  | dialCheck {o c} : s.closing = false → Moves cfg s o (.dialCheck c) (.dialing c)
  | dialClosing {o r ty pub} : s.closing = true → Moves cfg s o (.dialCheck (.create r ty pub)) .done
  | redialClosing {o w} : s.closing = true →
    Moves cfg s o (.dialCheck (.redial w)) (.deleteLock (s.mTrs w.mTr).id (some w))
  | dialed {c e} : Moves cfg s (.dialed e) (.dialing c) (.dialHandshake c s.nextTp)
  | dialFailed {r ty pub} : Moves cfg s .failed (.dialing (.create r ty pub)) .done
  | redialFailed {w} :
    Moves cfg s .failed (.dialing (.redial w)) (.deleteLock (s.mTrs w.mTr).id (some w))
  | handshakeFailed {r ty pub k} : Moves cfg s .failed (.dialHandshake (.create r ty pub) k) .done
  | rehandshakeFailed {w k} :
    Moves cfg s .failed (.dialHandshake (.redial w) k) (.deleteLock (s.mTrs w.mTr).id (some w))
  | createSettled {e r ty pub k} : Moves cfg s (.settled e) (.dialHandshake (.create r ty pub) k)
    (.lookupOld ⟨e.id, e.public, k, ty, r, pub, false⟩)
  | redialSettled {e w k} : Moves cfg s (.settled e) (.dialHandshake (.redial w) k) (.workerUpdate w k)
  | accepted {f e} : Moves cfg s (.dialed e) (.accepting f) (.acceptCheck f s.nextTp)
  | acceptFailed {f} : Moves cfg s .failed (.accepting f) .done
  | acceptCheck {o f k} : s.closing = false → Moves cfg s o (.acceptCheck f k) (.acceptHandshake f k)
  | acceptClosing {o f k} : s.closing = true → Moves cfg s o (.acceptCheck f k) .done
  | responderFailed {f k} : Moves cfg s .failed (.acceptHandshake f k) .done
  | noRemote {f k e} : cfg.remote (s.tps k).edges = none →
    Moves cfg s (.settled e) (.acceptHandshake f k) .done
  | acceptSettled {f k e r} : cfg.remote (s.tps k).edges = some r →
    Moves cfg s (.settled e) (.acceptHandshake f k) (.lookupOld ⟨e.id, e.public, k, f, r, true, true⟩)
  | lookupOld {o i} : Moves cfg s o (.lookupOld i) (.killOld i (s.transports.lookup i.id))
  | killOld {o i old} : Moves cfg s o (.killOld i old) (.insert i)
  | insert {o i} : Moves cfg s o (.insert i) (.publish i s.nextMTr)
  | publish {o i h} : s.trChan.length < 9 → Moves cfg s o (.publish i h) (.spawn i h)
  | spawn {o i h} : Moves cfg s o (.spawn i h) .done
  | workerStart {o w} : Moves cfg s o (.workerStart w) (.workerLoop w)
  | workerDone {w} : (s.mTrs w.mTr).done = true → Moves cfg s .recvDone (.workerLoop w) .done
  | workerRecvErr {w} : Moves cfg s .recvErr (.workerLoop w) (.workerErr w)
  | workerRead {w n} : Moves cfg s (.recvRead n) (.workerLoop w) (.workerLoop w)
  | workerWrite {w n} : Moves cfg s (.recvWrite n) (.workerLoop w) (.workerLoop w)
  | workerErrClosing {o w} : (s.mTrs w.mTr).done = true →
    Moves cfg s o (.workerErr w) (.workerLoop w)
  | workerErrDelete {o w} : (s.mTrs w.mTr).done = false → w.accepted = true →
    Moves cfg s o (.workerErr w) (.deleteLock (s.mTrs w.mTr).id (some w))
  | workerErrRedial {o w} : (s.mTrs w.mTr).done = false → w.accepted = false →
    Moves cfg s o (.workerErr w) (.dialCheck (.redial w))
  | workerUpdate {o w k} : Moves cfg s o (.workerUpdate w k) (.workerLoop w)
  | deleteLock {o id ret} :
    Moves cfg s o (.deleteLock id ret) (.deleteClose id (s.transports.lookup id) ret)
  | deleteNil {o id ret} : Moves cfg s o (.deleteClose id none ret) (.deleteClose id none ret)
  | deleteClose {o id h ret} :
    Moves cfg s o (.deleteClose id (some h) ret) (.deleteStatus id (some h) ret)
  | deleteStatus {o id tr ret} : Moves cfg s o (.deleteStatus id tr ret) (.deleteClose2 id tr ret)
  | deleteReturn {o id tr} : Moves cfg s o (.deleteClose2 id tr none) .done
  | deleteResume {o id tr w} : Moves cfg s o (.deleteClose2 id tr (some w)) (.workerLoop w)
  | closeTwice {o} : s.closing = true → Moves cfg s o .closeDone .closeDone
  | closeDone {o} : s.closing = false → Moves cfg s o .closeDone .closeSweep
  | closeSweep {o} : Moves cfg s o .closeSweep (.closeReport s.sweep.2)
  | closeReport {o sts} : Moves cfg s o (.closeReport sts) .done

/-- What a step of goroutine `t` from `s` to `s'` does to the rest of the state: each part
outside the place's write set is unchanged, only the insert adds an entry, the managed
transports stored before keep their IDs, stay closed and keep their log entries unless the
step records one, discovery gets the place's reports,
`closing` is only ever set, and the other goroutines are unchanged but for the worker a `go`
starts at `nextThread`. -/
structure Frame (t : Nat) (s s' : Manager) : Prop where
  transports : (s.threads t).writes.transports = false → s'.transports = s.transports
  lookup : (s.threads t).writes.install = false →
    ∀ id k, s'.transports.lookup id = some k → s.transports.lookup id = some k
  mTrs : (s.threads t).writes.mTrs = false → ∀ k, s'.mTrs k = s.mTrs k
  nextMTr : s'.nextMTr = s.nextMTr + if (s.threads t).writes.install then 1 else 0
  kept : ∀ k, ((s.threads t).writes.install = false ∨ k ≠ s.nextMTr) →
    (s'.mTrs k).id = (s.mTrs k).id ∧ ((s.mTrs k).done → (s'.mTrs k).done)
  logEntry : (s.threads t).writes.records = false → ∀ k,
    ((s.threads t).writes.install = false ∨ k ≠ s.nextMTr) → (s'.mTrs k).logEntry = (s.mTrs k).logEntry
  tps : (s.threads t).writes.tps = false → (∀ k, s'.tps k = s.tps k) ∧ s'.nextTp = s.nextTp
  trChan : (s.threads t).writes.trChan = false → s'.trChan = s.trChan
  mgrQty : (s.threads t).writes.mgrQty = false → s'.mgrQty = s.mgrQty
  records : (s.threads t).writes.records = false → s'.records = s.records
  closing : s'.closing = (s.closing || (s.threads t).writes.closing)
  panicked : (s.threads t).writes.panics = false → s'.panicked = s.panicked
  statuses : s'.statuses = s.statuses ++ (s.threads t).reports
  nextThread : s'.nextThread = s.nextThread + if (s.threads t).forks.isSome then 1 else 0
  threads : ∀ u ≠ t, (u ≠ s.nextThread ∨ (s.threads t).forks = none) → s'.threads u = s.threads u
  forked : ∀ p, (s.threads t).forks = some p → s.nextThread ≠ t → s'.threads s.nextThread = p

/-- Where a step takes its goroutine. -/
theorem threadStep_moves (h : s.threadStep cfg t o = some s') :
    s.Moves cfg o (s.threads t) (s'.threads t) := by
  unfold threadStep at h
  split at h <;> (try split at h) <;> (try split at h) <;> cases h <;>
    simp only [goto_threads, Function.update_same, dialFailed, dialError, closeTp_mTrs, *] <;>
    (try split) <;> constructor <;> simp_all

/-- What a step does to the rest of the state. -/
theorem threadStep_frame (h : s.threadStep cfg t o = some s') : Frame t s s' := by
  unfold threadStep at h
  split at h <;> (try split at h) <;> (try split at h) <;> cases h <;> constructor <;>
    simp_all [Proc.writes, Proc.reports, Proc.forks, closeMTr, dialFailed, Function.update_noteq]
  -- the managed transports the insert leaves alone
  all_goals exact fun k hk ↦ by simp [install_mTrs_of_ne _ _ hk]

/-- Another goroutine is where it was, or is the worker that `t`'s `go` starts at `nextThread`. -/
theorem Frame.other (hf : Frame t s s') {u : Nat} (hu : u ≠ t) :
    s'.threads u = s.threads u ∨ u = s.nextThread ∧ ∃ i k, s.threads t = .spawn i k ∧
      s'.threads u = .workerStart ⟨k, i.factory, i.remote, i.public, i.accepted⟩ := by
  cases hp : (s.threads t).forks with
  | none => exact .inl (hf.threads u hu (.inr hp))
  | some q =>
    obtain ⟨i, k, hs, rfl⟩ := Proc.eq_spawn_of_forks hp
    by_cases hun : u = s.nextThread
    · subst hun
      exact .inr ⟨rfl, i, k, hs, hf.forked _ hp hu⟩
    · exact .inl (hf.threads u hu (.inl hun))

/-- An entry of `transports` after the step was there before, or the step is an insert. -/
theorem Frame.lookup_of_some (hf : Frame t s s') {id : UUID} {k : Nat}
    (hk : s'.transports.lookup id = some k) :
    s.transports.lookup id = some k ∨ ∃ i, s.threads t = .insert i := by
  cases hi : (s.threads t).writes.install
  · exact .inl (hf.lookup hi id k hk)
  · exact .inr (Proc.eq_insert_of_install hi)

end Manager

/-- A step of the system. -/
inductive Act
  /-- A call of `createTransport` (from `CreateTransport`, `reconnectTransports` or
  `createDefaultTransports`). -/
  | create (remote : PubKey) (tpType : String) (public : Bool)
  /-- The accept loop of `Serve` for a factory, between two calls, passes its `select` and
  calls `acceptTransport`. -/
  | serve (factory : String)
  /-- A call of `DeleteTransport`. -/
  | delete (id : UUID)
  /-- A call of `Close`. -/
  | close
  /-- A consumer receives from `TrChan`. -/
  | recvTrChan
  /-- Goroutine `t` takes its next step. -/
  | run (t : Nat) (o : Outcome)

/-- The factory whose accept loop the goroutine at the place is, if it is one: `Serve` runs one
goroutine per factory that calls `acceptTransport` again each time the last call returned. -/
def Proc.acceptLoop : Proc → Option String
  | .accepting f | .acceptCheck f _ | .acceptHandshake f _ => some f
  | .lookupOld i | .killOld i _ | .insert i | .publish i _ | .spawn i _ =>
    if i.accepted then some i.factory else none
  | _ => none

namespace Manager

/-- Whether the accept loop of factory `f` is inside a call of `acceptTransport`. -/
def acceptBusy (s : Manager) (f : String) : Bool :=
  (List.range s.nextThread).any fun u ↦ (s.threads u).acceptLoop == some f

/-- One step of the system; nothing happens after a panic. -/
def step (cfg : Config) (s : Manager) (a : Act) : Option Manager :=
  if s.panicked then none else
  match a with
  | .create remote ty pub => some (s.fork (.createStart remote ty pub))
  | .serve f =>
    if f ∈ cfg.factories ∧ s.closing = false ∧ s.acceptBusy f = false then
      some (s.fork (.accepting f))
    else none
  | .delete id => some (s.fork (.deleteLock id none))
  | .close => some (s.fork .closeDone)
  | .recvTrChan =>
    match s.trChan with
    | [] => none
    | _ :: rest => some { s with trChan := rest }
  | .run t o => s.threadStep cfg t o

/-- A schedule of steps from `s`. -/
def exec (cfg : Config) (s : Manager) : List Act → Option Manager
  | [] => some s
  | a :: as => (s.step cfg a).bind fun s' ↦ exec cfg s' as

end Manager

end Dmsg.Transport
