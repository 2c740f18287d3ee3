import Mathlib.Algebra.Order.Ring.Nat
import Dmsg.Transport.Step

/-!
# The worker's events

`manageTransport` loops on a `select` over its transport's done channel, `errChan` and the two
log channels.  Here the worker takes its events one at a time, each to its end, with no other
goroutine in between.  A count is one step.  An error is the step that takes it and then the
steps of its handling, each with the outcome the environment gives the call it is in, until
the worker is back at its `select`.

Over every sequence of events, the log entry of the worker's managed transport ends at its
first value plus every read count in `ReceivedBytes` and every write count in `SentBytes`, and
each `Record` call gets the running totals.  The handling of an error, a re-dial and a
`DeleteTransport` touch neither.
-/

namespace Dmsg.Transport

/-- What the worker of a managed transport takes at its `select`: a read count, a write
count, or an error together with the outcomes the steps of its handling get. -/
inductive WorkerEvent
  | read (n : Nat)
  | write (n : Nat)
  | error (outs : List Outcome)

/-- A read event's count, and `0` for the others. -/
def WorkerEvent.readCount : WorkerEvent → Nat
  | .read n => n
  | _ => 0

/-- A write event's count, and `0` for the others. -/
def WorkerEvent.writeCount : WorkerEvent → Nat
  | .write n => n
  | _ => 0

/-- What the log store is given for the events `es`: after each count, the entry with that
count added to its total. -/
def cumulative (id : UUID) : LogEntry → List WorkerEvent → List (UUID × LogEntry)
  | _, [] => []
  | e, .read n :: es =>
    (id, { e with receivedBytes := e.receivedBytes + n }) ::
      cumulative id { e with receivedBytes := e.receivedBytes + n } es
  | e, .write n :: es =>
    (id, { e with sentBytes := e.sentBytes + n }) ::
      cumulative id { e with sentBytes := e.sentBytes + n } es
  | e, .error _ :: es => cumulative id e es

/-- A place of the handling of an error by the worker for `w`: its check of `isClosing`, its
re-dial, `updateTransport`, or the `DeleteTransport` it called. -/
def Proc.handles (w : Worker) : Proc → Bool
  | .workerErr w' | .workerUpdate w' _ => w' == w
  | .dialCheck c | .dialing c | .dialHandshake c _ => c == .redial w
  | .deleteLock _ ret | .deleteClose _ _ ret | .deleteStatus _ _ ret | .deleteClose2 _ _ ret =>
    ret == some w
  | _ => false

namespace Manager

/-- Goroutine `t` alone runs the handling of an error to its end, back at the `select` of the
worker for `w`, taking one outcome of `outs` at each step. -/
def handleError (cfg : Config) (t : Nat) (w : Worker) : Manager → List Outcome → Option Manager
  | s, [] => if s.threads t = .workerLoop w then some s else none
  | s, o :: os =>
    if s.threads t = .workerLoop w then none
    else (s.threadStep cfg t o).bind fun s' ↦ handleError cfg t w s' os

/-- Goroutine `t`, the worker for `w`, takes one event at its `select` and handles it. -/
def handleEvent (cfg : Config) (t : Nat) (w : Worker) (s : Manager) : WorkerEvent → Option Manager
  | .read n => if s.threads t = .workerLoop w then s.threadStep cfg t (.recvRead n) else none
  | .write n => if s.threads t = .workerLoop w then s.threadStep cfg t (.recvWrite n) else none
  | .error outs =>
    if s.threads t = .workerLoop w then
      (s.threadStep cfg t .recvErr).bind fun s' ↦ handleError cfg t w s' outs
    else none

/-- The worker takes and handles the events `es`, one after another. -/
def processEvents (cfg : Config) (t : Nat) (w : Worker) : Manager → List WorkerEvent →
    Option Manager
  | s, [] => some s
  | s, e :: es => (s.handleEvent cfg t w e).bind fun s' ↦ processEvents cfg t w s' es

variable {cfg : Config} {s s' s'' : Manager} {t : Nat} {w : Worker} {o : Outcome}

/-! ### The worker's steps -/

theorem threadStep_workerLoop (ht : s.threads t = .workerLoop w) (o : Outcome) :
    s.threadStep cfg t o = match o with
      | .recvDone =>
        if (s.mTrs w.mTr).done then some ({ s with mgrQty := s.mgrQty - 1 }.goto t .done)
        else none
      | .recvErr => some (s.goto t (.workerErr w))
      | .recvRead n => some ((s.logRead w.mTr n).goto t (.workerLoop w))
      | .recvWrite n => some ((s.logWrite w.mTr n).goto t (.workerLoop w))
      | _ => none := by
  cases o <;> simp [threadStep, ht]

/-- Log entries, IDs and the calls to the log store are the same in `s` and `s'`. -/
def SameLogs (s s' : Manager) : Prop :=
  (∀ k, (s'.mTrs k).logEntry = (s.mTrs k).logEntry ∧ (s'.mTrs k).id = (s.mTrs k).id) ∧
    s'.records = s.records

theorem SameLogs.refl (s : Manager) : SameLogs s s := ⟨fun _ ↦ ⟨rfl, rfl⟩, rfl⟩

theorem SameLogs.trans (h : SameLogs s s') (h' : SameLogs s' s'') : SameLogs s s'' :=
  ⟨fun k ↦ ⟨(h'.1 k).1.trans (h.1 k).1, (h'.1 k).2.trans (h.1 k).2⟩, h'.2.trans h.2⟩

theorem handles_workerLoop (w' : Worker) : (Proc.workerLoop w').handles w = false := rfl

/-- A step of the handling of an error stays in the handling or ends it at the `select`. -/
theorem Moves.handles {p q : Proc} (hm : s.Moves cfg o p q) (hp : p.handles w) :
    q.handles w ∨ q = .workerLoop w := by
  cases hm <;> simp_all [Proc.handles]

/-- A step of the handling of an error stays in the handling or ends it at the `select`, and
touches no log entry and no call to the log store. -/
theorem threadStep_handles (hp : (s.threads t).handles w) (h : s.threadStep cfg t o = some s') :
    ((s'.threads t).handles w ∨ s'.threads t = .workerLoop w) ∧ SameLogs s s' := by
  have hf := threadStep_frame h
  have hw : (s.threads t).writes.install = false ∧ (s.threads t).writes.records = false := by
    cases hpc : s.threads t <;> simp_all [Proc.handles, Proc.writes]
  exact ⟨(threadStep_moves h).handles hp,
    fun k ↦ ⟨hf.logEntry hw.2 k (.inl hw.1), (hf.kept k (.inl hw.1)).1⟩, hf.records hw.2⟩

/-- The handling of an error, from a place of it or from the `select`, ends at the `select`
having touched no log entry and no call to the log store. -/
theorem handleError_sameLogs :
    ∀ {s s' : Manager} {outs : List Outcome},
      ((s.threads t).handles w ∨ s.threads t = .workerLoop w) →
      s.handleError cfg t w outs = some s' → s'.threads t = .workerLoop w ∧ SameLogs s s'
  | s, s', [], _, h => by
    unfold handleError at h
    split at h
    · cases h
      exact ⟨‹_›, .refl s⟩
    · cases h
  | s, s', o :: os, hp, h => by
    unfold handleError at h
    split at h
    · cases h
    · obtain ⟨s₁, h₁, h⟩ := Option.bind_eq_some.mp h
      obtain ⟨hp₁, hl₁⟩ := threadStep_handles (hp.resolve_right ‹_›) h₁
      obtain ⟨ht, hl⟩ := handleError_sameLogs hp₁ h
      exact ⟨ht, hl₁.trans hl⟩

/-- The running totals after one event and then more. -/
theorem cumulative_cons (id : UUID) (l : LogEntry) (e : WorkerEvent) (es : List WorkerEvent) :
    cumulative id l (e :: es) =
      cumulative id l [e] ++
        cumulative id ⟨l.receivedBytes + e.readCount, l.sentBytes + e.writeCount⟩ es := by
  cases e <;> simp [cumulative, WorkerEvent.readCount, WorkerEvent.writeCount]

/-- One event: a count adds to its total in the log entry of the worker's managed transport
and records the new entry; an error changes neither; the worker is back at its `select`. -/
theorem handleEvent_logs {e : WorkerEvent} (h : s.handleEvent cfg t w e = some s') :
    s'.threads t = .workerLoop w ∧ (s'.mTrs w.mTr).id = (s.mTrs w.mTr).id ∧
      (s'.mTrs w.mTr).logEntry = ⟨(s.mTrs w.mTr).logEntry.receivedBytes + e.readCount,
        (s.mTrs w.mTr).logEntry.sentBytes + e.writeCount⟩ ∧
      s'.records = s.records ++ cumulative (s.mTrs w.mTr).id (s.mTrs w.mTr).logEntry [e] := by
  cases e with
  | read n | write n =>
    simp only [handleEvent] at h
    split_ifs at h with ht
    rw [threadStep_workerLoop ht] at h
    cases h
    simp [logRead, logWrite, cumulative, WorkerEvent.readCount, WorkerEvent.writeCount]
  | error outs =>
    simp only [handleEvent] at h
    split_ifs at h with ht
    rw [threadStep_workerLoop ht, Option.some_bind] at h
    obtain ⟨ht', hl, hr⟩ := handleError_sameLogs (Or.inl (by simp [Proc.handles])) h
    simp [ht', hl _, hr, cumulative, WorkerEvent.readCount, WorkerEvent.writeCount]

/-- Byte accounting is exact: over every sequence of events that the worker of a managed
transport takes and handles, the transport's log entry ends at its first value plus every
read count in `ReceivedBytes` and every write count in `SentBytes`, whatever errors, re-dials
and deletes come between, and each `Record` call gets the running totals. -/
theorem worker_byte_accounting (es : List WorkerEvent)
    (h : s.processEvents cfg t w es = some s') :
    (s'.mTrs w.mTr).logEntry =
        ⟨(s.mTrs w.mTr).logEntry.receivedBytes + (es.map WorkerEvent.readCount).sum,
          (s.mTrs w.mTr).logEntry.sentBytes + (es.map WorkerEvent.writeCount).sum⟩ ∧
      s'.records = s.records ++ cumulative (s.mTrs w.mTr).id (s.mTrs w.mTr).logEntry es := by
  induction es generalizing s with
  | nil =>
    cases h
    simp [cumulative]
  | cons e es ih =>
    obtain ⟨s₁, h₁, h⟩ := Option.bind_eq_some.mp h
    obtain ⟨-, hid, hl, hr⟩ := handleEvent_logs h₁
    obtain ⟨hl', hr'⟩ := ih h
    rw [hl] at hl'
    rw [hid, hl] at hr'
    refine ⟨?_, by rw [hr', hr, cumulative_cons _ _ e es, List.append_assoc]⟩
    rw [hl']
    simp only [List.map_cons, List.sum_cons, LogEntry.mk.injEq]
    omega

/-- An accepted transport's worker reads 3 bytes, takes an error and deletes its transport,
then writes 4 bytes: the entry ends at 3 received and 4 sent, recorded after each count. -/
theorem worker_byte_accounting_delete :
    let w : Worker := ⟨0, "messaging", default, false, true⟩
    let s : Manager := { init with
      transports := (∅ : AList fun _ : UUID ↦ Nat).insert default 0
      mTrs := fun _ ↦ ⟨default, 0, false, true, false, ⟨0, 0⟩⟩
      nextMTr := 1
      threads := fun u ↦ if u = 0 then .workerLoop w else .idle
      nextThread := 1 }
    let es := [.read 3, .error (List.replicate 5 .none), .write 4]
    (s.processEvents ⟨default, ["messaging"]⟩ 0 w es).isSome ∧
      (((s.processEvents ⟨default, ["messaging"]⟩ 0 w es).get (by decide)).mTrs w.mTr).logEntry =
          ⟨(s.mTrs w.mTr).logEntry.receivedBytes + (es.map WorkerEvent.readCount).sum,
            (s.mTrs w.mTr).logEntry.sentBytes + (es.map WorkerEvent.writeCount).sum⟩ ∧
        ((s.processEvents ⟨default, ["messaging"]⟩ 0 w es).get (by decide)).records =
          s.records ++ cumulative (s.mTrs w.mTr).id (s.mTrs w.mTr).logEntry es :=
  ⟨by decide, worker_byte_accounting _ (Option.eq_some_of_isSome (by decide))⟩

end Manager

end Dmsg.Transport
