import Dmsg.Transport.Step

/-!
# Releasing the underlying transport

`createTransport` and `acceptTransport` get an underlying transport from their factory and
either hand it to a managed transport or give up on it.  A worker re-dialing gets one too and
swaps it into its managed transport.  Giving up closes it on every path of `dialTransport` and
on a failed responder handshake, but `acceptTransport` returns early twice without closing it:
when the manager is closing after `Accept`, and when the manager's key is not an edge.
-/

namespace Dmsg.Transport

/-- The underlying transport a goroutine has from a factory and not yet handed to a managed
transport. -/
def Proc.heldTp : Proc → Option Nat
  | .dialHandshake _ k | .acceptCheck _ k | .acceptHandshake _ k | .workerUpdate _ k => some k
  | .lookupOld i | .killOld i _ | .insert i => some i.tp
  | _ => none

/-- In `createTransport` (with the `dialTransport` it calls) or `acceptTransport`, before the
insert. -/
def Proc.beforeInsert : Proc → Bool
  | .createStart .. | .accepting _ | .acceptCheck .. | .acceptHandshake .. | .lookupOld _
  | .killOld .. => true
  | .dialCheck c | .dialing c | .dialHandshake c _ => c.isCreate
  | _ => false

namespace Manager

variable {cfg : Config} {s s' : Manager} {t k : Nat} {o : Outcome}

/-- A goroutine holding an underlying transport keeps it, hands it to a managed transport, or
closes it, except on the two early returns of `acceptTransport`. -/
theorem threadStep_heldTp (h : s.threadStep cfg t o = some s') (hk : (s.threads t).heldTp = some k) :
    (s'.threads t).heldTp = some k ∨
      (∃ i, s.threads t = .insert i ∧ s'.transports.lookup i.id = some s.nextMTr ∧
        (s'.mTrs s.nextMTr).tp = k) ∨
      (∃ w, s.threads t = .workerUpdate w k ∧ (s'.mTrs w.mTr).tp = k) ∨ (s'.tps k).closed ∨
      (∃ f, s.threads t = .acceptCheck f k ∧ s.closing) ∨
      ∃ f e, s.threads t = .acceptHandshake f k ∧ o = .settled e ∧
        cfg.remote (s.tps k).edges = none := by
  have hm := threadStep_moves h
  generalize hp : s.threads t = p at hm hk ⊢
  generalize hq : s'.threads t = q at hm ⊢
  cases hm <;> simp_all [Proc.heldTp]
  -- the steps that hand the transport on or close it
  all_goals
    unfold threadStep at h
    simp only [hp, Option.some.injEq] at h
    subst h
    simp_all [dialFailed, updateTransport]

/-- Before its insert, a `createTransport` or `acceptTransport` call changes neither
`transports` nor `mgrQty`, whatever its factory, handshake and `isClosing` return. -/
theorem threadStep_beforeInsert (h : s.threadStep cfg t o = some s') (hb : (s.threads t).beforeInsert) :
    s'.transports = s.transports ∧ s'.mgrQty = s.mgrQty := by
  have hf := threadStep_frame h
  have hw : (s.threads t).writes.transports = false ∧ (s.threads t).writes.mgrQty = false := by
    cases hp : s.threads t <;> simp_all [Proc.beforeInsert, Proc.writes]
  exact ⟨hf.transports hw.1, hf.mgrQty hw.2⟩

/-- `acceptTransport` returns with its transport open when `Close` runs between `Accept` and
the check, and when the manager's key is neither edge; a failed handshake closes it. -/
theorem accept_error_leaves_tp_open :
    (exec ⟨default, ["messaging"]⟩ init [.serve "messaging", .run 0 (.dialed (default, default)),
      .close, .run 1 .none, .run 1 .none, .run 1 .none, .run 0 .none]).map (fun s ↦
        (s.threads 0, (s.tps 0).closed, s.transports.entries, s.mgrQty)) = some (.done, false, [], 0) ∧
    (exec ⟨default, ["messaging"]⟩ init [.serve "messaging",
      .run 0 (.dialed (⟨List.replicate 33 1, rfl⟩, ⟨List.replicate 33 1, rfl⟩)), .run 0 .none,
      .run 0 (.settled ⟨default, true⟩)]).map (fun s ↦
        (s.threads 0, (s.tps 0).closed, s.transports.entries, s.mgrQty)) = some (.done, false, [], 0) ∧
    (exec ⟨default, ["messaging"]⟩ init [.serve "messaging", .run 0 (.dialed (default, default)),
      .run 0 .none, .run 0 .failed]).map (fun s ↦
        (s.threads 0, (s.tps 0).closed, s.transports.entries, s.mgrQty)) = some (.done, true, [], 0) :=
  ⟨by decide, by decide, by decide⟩

end Manager

end Dmsg.Transport
