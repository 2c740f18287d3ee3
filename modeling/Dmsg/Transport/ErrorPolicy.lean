import Dmsg.Transport.Events

/-!
# The worker's error policy

When the worker of a managed transport `m` takes an error from `errChan` and `m` is not
closing, it deletes `m` if `m` was accepted; otherwise it re-dials through `dialTransport`,
and then either puts the new transport into `m` or deletes `m` if the re-dial failed.
Deleting is `DeleteTransport(m.ID)`: the locked removal of the entry, `Close` on what it
removed, and the status `{m.ID, IsUp: false}` sent to discovery.

Each branch, run by the worker alone from any state, ends back at its `select` with the
effect the protocol describes, as long as `m.ID` has an entry.  Without one, `DeleteTransport`
calls `Close` on nil before its nil check, and the worker never sends its status.
-/

namespace Dmsg.Transport

namespace Manager

variable {cfg : Config} {s : Manager} {t : Nat} {w : Worker} {o : Outcome}

/-! ### The error path, one place at a time -/

@[simp] theorem threadStep_goto_workerErr :
    (s.goto t (.workerErr w)).threadStep cfg t o =
      some (if (s.mTrs w.mTr).done then s.goto t (.workerLoop w)
        else if w.accepted then s.goto t (.deleteLock (s.mTrs w.mTr).id (some w))
        else s.goto t (.dialCheck (.redial w))) := by
  simp [threadStep, goto_goto]

@[simp] theorem threadStep_goto_dialCheck :
    (s.goto t (.dialCheck (.redial w))).threadStep cfg t o =
      some (if s.closing then s.goto t (.deleteLock (s.mTrs w.mTr).id (some w))
        else s.goto t (.dialing (.redial w))) := by
  simp [threadStep, goto_goto, dialFailed, dialError]

@[simp] theorem threadStep_goto_dialing :
    (s.goto t (.dialing (.redial w))).threadStep cfg t o = match o with
      | .dialed e => some ((s.newTp e).goto t (.dialHandshake (.redial w) s.nextTp))
      | .failed => some (s.goto t (.deleteLock (s.mTrs w.mTr).id (some w)))
      | _ => none := by
  cases o <;> simp [threadStep, goto_goto, dialFailed, dialError, goto, newTp]

@[simp] theorem threadStep_goto_dialHandshake {k : Nat} :
    (s.goto t (.dialHandshake (.redial w) k)).threadStep cfg t o = match o with
      | .failed => some ((s.closeTp k).goto t (.deleteLock (s.mTrs w.mTr).id (some w)))
      | .settled _ => some (s.goto t (.workerUpdate w k))
      | _ => none := by
  cases o <;> simp [threadStep, goto_goto, dialFailed, dialError, goto, closeTp]

@[simp] theorem threadStep_goto_workerUpdate {k : Nat} :
    (s.goto t (.workerUpdate w k)).threadStep cfg t o =
      some ((s.updateTransport w.mTr k).goto t (.workerLoop w)) := by
  simp [threadStep, goto, updateTransport]

@[simp] theorem threadStep_goto_deleteLock {id : UUID} {ret : Option Worker} :
    (s.goto t (.deleteLock id ret)).threadStep cfg t o =
      some ({ s with transports := s.transports.erase id }.goto t
        (.deleteClose id (s.transports.lookup id) ret)) := by
  simp [threadStep, goto]

@[simp] theorem threadStep_goto_deleteClose {id : UUID} {h : Nat} {ret : Option Worker} :
    (s.goto t (.deleteClose id (some h) ret)).threadStep cfg t o =
      some ((s.closeMTr h).goto t (.deleteStatus id (some h) ret)) := by
  simp [threadStep, goto, closeMTr, killWorker, closeTp]

@[simp] theorem threadStep_goto_deleteStatus {id : UUID} {tr : Option Nat} {ret : Option Worker} :
    (s.goto t (.deleteStatus id tr ret)).threadStep cfg t o =
      some ({ s with statuses := s.statuses ++ [[(⟨id, false⟩ : Status)]] }.goto t
        (.deleteClose2 id tr ret)) := by
  simp [threadStep, goto]

@[simp] theorem threadStep_goto_deleteClose2 {id : UUID} {h : Nat} :
    (s.goto t (.deleteClose2 id (some h) (some w))).threadStep cfg t o =
      some ((s.closeMTr h).goto t (.workerLoop w)) := by
  simp [threadStep, goto, closeMTr, killWorker, closeTp]

/-! ### The policy -/

/-- `DeleteTransport(id)` has run from `s` to `s'`: no entry for `id` is left, and discovery
was sent `{id, IsUp: false}`. -/
def DeletedFrom (s : Manager) (id : UUID) (s' : Manager) : Prop :=
  s'.transports.lookup id = none ∧ s'.statuses = s.statuses ++ [[⟨id, false⟩]]

/-- The worker's error policy, from every state with the worker for `w` at its `select`.
With `m` closing, an error changes nothing.  Otherwise, while `m.ID` has an entry, an accepted
`m` is deleted, and a dialed `m` is deleted when its re-dial fails in `Dial`, in the
settlement handshake or at the manager's `isClosing`.  A dialed `m` whose re-dial succeeds
keeps the table as it was and sends no status, and `m` now wraps the new transport. -/
theorem worker_error_policy (ht : s.threads t = .workerLoop w) :
    -- `m` is closing
    ((s.mTrs w.mTr).done = true → s.handleEvent cfg t w (.error [.none]) = some s) ∧
    -- `m` is not closing and is stored under its ID: every way to `DeleteTransport`
    ((s.mTrs w.mTr).done = false → ∀ k, s.transports.lookup (s.mTrs w.mTr).id = some k →
      (w.accepted = true → ∃ s', s.handleEvent cfg t w (.error (List.replicate 5 .none)) = some s' ∧
        s.DeletedFrom (s.mTrs w.mTr).id s') ∧
      (w.accepted = false → s.closing = false → ∀ e,
        (∃ s', s.handleEvent cfg t w
          (.error [.none, .none, .failed, .none, .none, .none, .none]) = some s' ∧
          s.DeletedFrom (s.mTrs w.mTr).id s') ∧
        ∃ s', s.handleEvent cfg t w
          (.error [.none, .none, .dialed e, .failed, .none, .none, .none, .none]) = some s' ∧
          s.DeletedFrom (s.mTrs w.mTr).id s') ∧
      (w.accepted = false → s.closing = true →
        ∃ s', s.handleEvent cfg t w (.error (List.replicate 6 .none)) = some s' ∧
          s.DeletedFrom (s.mTrs w.mTr).id s')) ∧
    -- `m` is not closing, was dialed, and the re-dial succeeds
    ((s.mTrs w.mTr).done = false → w.accepted = false → s.closing = false → ∀ e en,
      ∃ s', s.handleEvent cfg t w (.error [.none, .none, .dialed e, .settled en, .none]) = some s' ∧
        s'.transports = s.transports ∧ s'.statuses = s.statuses ∧
        (s'.mTrs w.mTr).tp = s.nextTp ∧ s'.tps s.nextTp = ⟨e, false⟩) := by
  refine ⟨fun hd ↦ ?_, fun hd k hk ↦ ⟨fun ha ↦ ?_, fun ha hc e ↦ ⟨?_, ?_⟩, fun ha hc ↦ ?_⟩,
    fun hd ha hc e en ↦ ?_⟩ <;>
    simp [handleEvent, handleError, ht, threadStep_workerLoop ht, goto_goto, goto_eq_self _ ht,
      closeMTr, updateTransport, DeletedFrom, *]

/-- The worker of a dialed public transport, at its `select`. -/
theorem worker_error_policy_dial :
    let cfg : Config := ⟨default, ["messaging"]⟩
    let s := (exec cfg init [.create default "messaging" true, .run 0 .none, .run 0 .none,
      .run 0 (.dialed (default, default)), .run 0 (.settled ⟨default, true⟩), .run 0 .none,
      .run 0 .none, .run 0 .none, .run 0 .none, .run 0 .none, .run 1 .none]).get (by decide)
    let w : Worker := ⟨0, "messaging", default, true, false⟩
    s.threads 1 = .workerLoop w ∧
    ((s.mTrs w.mTr).done = true → s.handleEvent cfg 1 w (.error [.none]) = some s) ∧
    ((s.mTrs w.mTr).done = false → ∀ k, s.transports.lookup (s.mTrs w.mTr).id = some k →
      (w.accepted = true → ∃ s', s.handleEvent cfg 1 w (.error (List.replicate 5 .none)) = some s' ∧
        s.DeletedFrom (s.mTrs w.mTr).id s') ∧
      (w.accepted = false → s.closing = false → ∀ e,
        (∃ s', s.handleEvent cfg 1 w
          (.error [.none, .none, .failed, .none, .none, .none, .none]) = some s' ∧
          s.DeletedFrom (s.mTrs w.mTr).id s') ∧
        ∃ s', s.handleEvent cfg 1 w
          (.error [.none, .none, .dialed e, .failed, .none, .none, .none, .none]) = some s' ∧
          s.DeletedFrom (s.mTrs w.mTr).id s') ∧
      (w.accepted = false → s.closing = true →
        ∃ s', s.handleEvent cfg 1 w (.error (List.replicate 6 .none)) = some s' ∧
          s.DeletedFrom (s.mTrs w.mTr).id s')) ∧
    ((s.mTrs w.mTr).done = false → w.accepted = false → s.closing = false → ∀ e en,
      ∃ s', s.handleEvent cfg 1 w (.error [.none, .none, .dialed e, .settled en, .none]) = some s' ∧
        s'.transports = s.transports ∧ s'.statuses = s.statuses ∧
        (s'.mTrs w.mTr).tp = s.nextTp ∧ s'.tps s.nextTp = ⟨e, false⟩) :=
  ⟨by decide, worker_error_policy (by decide)⟩

/-- A `DeleteTransport` call that found no entry dereferences nil and panics, again at every
step: it never returns. -/
theorem handleError_deleteClose_none {id : UUID} {ret : Option Worker}
    (h : s.threads t = .deleteClose id none ret) (outs : List Outcome) :
    handleError cfg t w s outs = none := by
  induction outs generalizing s with
  | nil => simp [handleError, h]
  | cons o os ih =>
    have hs : s.threadStep cfg t o = some { s with panicked := true } := by
      unfold threadStep
      rw [h]
    simp only [handleError, h, hs, reduceCtorEq, if_false, Option.some_bind]
    exact ih h

/-- Without an entry for `m.ID`, the worker of a live accepted `m` never gets back to its
`select` after an error, whatever the factories and channels do: its `DeleteTransport` finds
nil and calls `Close` on it. -/
theorem worker_error_without_entry (ht : s.threads t = .workerLoop w)
    (hd : (s.mTrs w.mTr).done = false) (ha : w.accepted = true)
    (hk : s.transports.lookup (s.mTrs w.mTr).id = none) (outs : List Outcome) :
    s.handleEvent cfg t w (.error outs) = none := by
  rcases outs with _ | ⟨o₁, _ | ⟨o₂, os⟩⟩
  · simp [handleEvent, handleError, ht, threadStep_workerLoop ht]
  · simp [handleEvent, handleError, ht, threadStep_workerLoop ht, hd, ha]
  · simp [handleEvent, handleError, ht, threadStep_workerLoop ht, hd, ha, hk]
    exact handleError_deleteClose_none
      (show _ = .deleteClose (s.mTrs w.mTr).id none (some w) by simp) os

/-- The accept loop and a concurrent `CreateTransport` call to the same peer both look up the
entry's ID before either stores, so the created managed transport replaces the accepted one
without killing it; a `DeleteTransport` call then removes and closes the created one.  The
accepted one is live, its ID has no entry, and an error on it makes the whole process panic
before its worker reports anything. -/
theorem accepted_worker_error_panics :
    let pre : List Act := [.serve "messaging", .create default "messaging" true,
      .run 0 (.dialed (default, default)), .run 0 .none, .run 0 (.settled ⟨default, true⟩),
      .run 1 .none, .run 1 .none, .run 1 (.dialed (default, default)),
      .run 1 (.settled ⟨default, true⟩),
      .run 0 .none, .run 1 .none, .run 0 .none, .run 0 .none, .run 0 .none, .run 0 .none,
      .run 1 .none, .run 1 .none, .run 1 .none, .run 1 .none, .delete default, .run 4 .none,
      .run 4 .none, .run 4 .none, .run 4 .none, .run 2 .none]
    (exec ⟨default, ["messaging"]⟩ init pre).map (fun s ↦
        (s.threads 2, (s.mTrs 0).done, s.transports.lookup default, s.statuses)) =
      some (.workerLoop ⟨0, "messaging", default, true, true⟩, false, none,
        [[⟨default, false⟩]]) ∧
    (exec ⟨default, ["messaging"]⟩ init
        (pre ++ [.run 2 .recvErr, .run 2 .none, .run 2 .none, .run 2 .none])).map (fun s ↦
        (s.panicked, s.statuses)) =
      some (true, [[⟨default, false⟩]]) :=
  ⟨by decide, by decide⟩

end Manager

end Dmsg.Transport
