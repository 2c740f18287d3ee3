import Dmsg.Transport.ErrorPolicy
import Dmsg.Transport.SingleWorker

/-!
# The manager's calls, each run to its end

`close_run` runs `Close` alone from any state.  Here the other calls of the manager are run the
same way, by the goroutine that made them with no other goroutine moving: `createTransport`
with a dial and a handshake that succeed, `acceptTransport` with an accepted transport whose
edges name a remote, and `DeleteTransport`.  Each theorem says what the call leaves in the
table, among the managed and the underlying transports, on `TrChan` and with discovery.

The runs go through one step equation per place, on `(s.goto t p).threadStep`, so that a run
is evaluated by `simp` one place at a time without unfolding `threadStep`.
-/

namespace Dmsg.Transport

namespace Manager

variable {cfg : Config} {s : Manager} {t : Nat} {o : Outcome} {i : Install} {c : Dialer}

@[simp] theorem step_run :
    s.step cfg (.run t o) = if s.panicked then none else s.threadStep cfg t o := by
  simp [step]

theorem install_mTrs (k : Nat) :
    (s.install i).mTrs k =
      if k = s.nextMTr then ⟨i.id, i.tp, i.entryPublic, i.accepted, false, ⟨0, 0⟩⟩
      else s.mTrs k := by
  split_ifs with hk
  · exact hk ▸ install_mTrs_self s i
  · exact install_mTrs_of_ne s i hk

theorem killWorker_mTrs (h k : Nat) :
    (s.killWorker h).mTrs k = if k = h then { s.mTrs k with done := true } else s.mTrs k := by
  by_cases hk : k = h <;> simp [killWorker, hk]

/-! ### `createTransport` and `acceptTransport`, one place at a time -/

@[simp] theorem threadStep_goto_createStart {r : PubKey} {ty : String} {pub : Bool} :
    (s.goto t (.createStart r ty pub)).threadStep cfg t o =
      some (if ty ∈ cfg.factories then s.goto t (.dialCheck (.create r ty pub))
        else s.goto t .done) := by
  simp [threadStep, goto_goto]

@[simp] theorem threadStep_goto_dialCheck_create {r : PubKey} {ty : String} {pub : Bool} :
    (s.goto t (.dialCheck (.create r ty pub))).threadStep cfg t o =
      some (if s.closing then s.goto t .done else s.goto t (.dialing (.create r ty pub))) := by
  simp [threadStep, goto_goto, dialFailed, dialError]

@[simp] theorem threadStep_goto_dialing_dialed {e : Edges} :
    (s.goto t (.dialing c)).threadStep cfg t (.dialed e) =
      some ((s.newTp e).goto t (.dialHandshake c s.nextTp)) := by
  simp [threadStep, goto, newTp]

@[simp] theorem threadStep_goto_dialHandshake_create {r : PubKey} {ty : String} {pub : Bool}
    {k : Nat} {en : Entry} :
    (s.goto t (.dialHandshake (.create r ty pub) k)).threadStep cfg t (.settled en) =
      some (s.goto t (.lookupOld ⟨en.id, en.public, k, ty, r, pub, false⟩)) := by
  simp [threadStep, goto_goto]

@[simp] theorem threadStep_goto_accepting_dialed {f : String} {e : Edges} :
    (s.goto t (.accepting f)).threadStep cfg t (.dialed e) =
      some ((s.newTp e).goto t (.acceptCheck f s.nextTp)) := by
  simp [threadStep, goto, newTp]

@[simp] theorem threadStep_goto_acceptCheck {f : String} {k : Nat} :
    (s.goto t (.acceptCheck f k)).threadStep cfg t o =
      some (if s.closing then s.goto t .done else s.goto t (.acceptHandshake f k)) := by
  simp [threadStep, goto_goto]

@[simp] theorem threadStep_goto_acceptHandshake {f : String} {k : Nat} {en : Entry} :
    (s.goto t (.acceptHandshake f k)).threadStep cfg t (.settled en) =
      some (match cfg.remote (s.tps k).edges with
        | none => s.goto t .done
        | some r => s.goto t (.lookupOld ⟨en.id, en.public, k, f, r, true, true⟩)) := by
  cases hr : cfg.remote (s.tps k).edges <;> simp [threadStep, hr, goto_goto]

@[simp] theorem threadStep_goto_lookupOld :
    (s.goto t (.lookupOld i)).threadStep cfg t o =
      some (s.goto t (.killOld i (s.transports.lookup i.id))) := by
  simp [threadStep, goto_goto]

@[simp] theorem threadStep_goto_killOld_none :
    (s.goto t (.killOld i none)).threadStep cfg t o = some (s.goto t (.insert i)) := by
  simp [threadStep, goto_goto]

@[simp] theorem threadStep_goto_killOld_some {h : Nat} :
    (s.goto t (.killOld i (some h))).threadStep cfg t o =
      some ((s.killWorker h).goto t (.insert i)) := by
  simp [threadStep, goto, killWorker]

@[simp] theorem threadStep_goto_insert :
    (s.goto t (.insert i)).threadStep cfg t o =
      some ((s.install i).goto t (.publish i s.nextMTr)) := by
  simp [threadStep, goto, install]

@[simp] theorem threadStep_goto_publish {h : Nat} :
    (s.goto t (.publish i h)).threadStep cfg t o =
      if s.trChan.length < 9 then some ({ s with trChan := s.trChan ++ [h] }.goto t (.spawn i h))
      else none := by
  simp [threadStep, goto]

@[simp] theorem threadStep_goto_spawn {h : Nat} :
    (s.goto t (.spawn i h)).threadStep cfg t o =
      some ((s.fork (.workerStart ⟨h, i.factory, i.remote, i.public, i.accepted⟩)).goto t .done) := by
  simp only [threadStep, goto_threads, Function.update_same, Option.some.injEq]
  by_cases hn : t = s.nextThread
  · subst hn
    simp [goto, fork]
  · simp [goto, fork, Function.update_comm hn]

/-! ### `DeleteTransport`, the places `ErrorPolicy` does not reach -/

@[simp] theorem threadStep_goto_deleteClose_none {id : UUID} {ret : Option Worker} :
    (s.goto t (.deleteClose id none ret)).threadStep cfg t o =
      some { s.goto t (.deleteClose id none ret) with panicked := true } := by
  simp [threadStep]

@[simp] theorem threadStep_goto_deleteClose2_none {id : UUID} {h : Nat} :
    (s.goto t (.deleteClose2 id (some h) none)).threadStep cfg t o =
      some ((s.closeMTr h).goto t .done) := by
  simp [threadStep, goto, closeMTr, killWorker, closeTp]

/-! ### The calls -/

/-- `createTransport(remote, tpType, public)` run alone by goroutine `t`, from every state
reached from `NewManager` with `doneChan` open and room on `TrChan`, for a known factory whose
dial returns a transport with edges `e` and whose handshake settles the entry `en`: the call
returns; the new underlying transport is open; the table maps `en.ID` to a new managed
transport for it, open and with empty logs; the worker of an old managed transport stored under
`en.ID` is killed and every other managed transport is as it was; `TrChan` is sent the new one,
a worker is started for it, and discovery is told nothing. -/
theorem create_run {acts : List Act} {r : PubKey} {ty : String} {pub : Bool}
    (hr : init.exec cfg acts = some s) (hp : s.panicked = false) (hc : s.closing = false)
    (ht : s.threads t = .createStart r ty pub) (hf : ty ∈ cfg.factories)
    (hq : s.trChan.length < 9) (e : Edges) (en : Entry) :
    ∃ s', s.exec cfg [.run t .none, .run t .none, .run t (.dialed e), .run t (.settled en),
        .run t .none, .run t .none, .run t .none, .run t .none, .run t .none] = some s' ∧
      s'.threads t = .done ∧
      s'.threads s.nextThread = .workerStart ⟨s.nextMTr, ty, r, pub, false⟩ ∧
      s'.tps s.nextTp = ⟨e, false⟩ ∧
      s'.transports = s.transports.insert en.id s.nextMTr ∧
      s'.mTrs s.nextMTr = ⟨en.id, s.nextTp, en.public, false, false, ⟨0, 0⟩⟩ ∧
      (∀ k ≠ s.nextMTr, s'.mTrs k =
        if s.transports.lookup en.id = some k then { s.mTrs k with done := true } else s.mTrs k) ∧
      s'.trChan = s.trChan ++ [s.nextMTr] ∧ s'.statuses = s.statuses := by
  have hn : t ≠ s.nextThread := fun h ↦ by
    simp [h, (managed_init.exec hr).idle _ le_rfl] at ht
  obtain ⟨s, rfl⟩ : ∃ s₀, s = s₀.goto t (.createStart r ty pub) := ⟨s, (goto_eq_self s ht).symm⟩
  simp only [goto_panicked, goto_closing, goto_trChan, goto_nextThread] at hp hc hq hn
  cases hl : s.transports.lookup en.id <;>
    simp [exec, hp, hc, hf, hq, hl, install_mTrs, killWorker_mTrs, Ne.symm hn] <;>
    intro k hk <;> simp [hk, eq_comm]

/-- `CreateTransport` of a `messaging` transport, just called on a new manager. -/
theorem create_run_new :
    let cfg : Config := ⟨default, ["messaging"]⟩
    let s := (exec cfg init [.create default "messaging" true]).get (by decide)
    ∃ s', s.exec cfg [.run 0 .none, .run 0 .none, .run 0 (.dialed (default, default)),
        .run 0 (.settled ⟨default, true⟩), .run 0 .none, .run 0 .none, .run 0 .none,
        .run 0 .none, .run 0 .none] = some s' ∧
      s'.threads 0 = .done ∧
      s'.threads s.nextThread = .workerStart ⟨s.nextMTr, "messaging", default, true, false⟩ ∧
      s'.tps s.nextTp = ⟨(default, default), false⟩ ∧
      s'.transports = s.transports.insert default s.nextMTr ∧
      s'.mTrs s.nextMTr = ⟨default, s.nextTp, true, false, false, ⟨0, 0⟩⟩ ∧
      (∀ k ≠ s.nextMTr, s'.mTrs k =
        if s.transports.lookup default = some k then { s.mTrs k with done := true }
        else s.mTrs k) ∧
      s'.trChan = s.trChan ++ [s.nextMTr] ∧ s'.statuses = s.statuses :=
  create_run (Option.eq_some_of_isSome (by decide)) (by decide) (by decide) (by decide)
    (by decide) (by decide) _ _

/-- `acceptTransport(factory)` run alone by goroutine `t`, from every state reached from
`NewManager` with `doneChan` open and room on `TrChan`, for an accepted transport whose edges `e`
name the remote `r` and a handshake that settles the entry `en`: what `createTransport` leaves,
with the new managed transport marked accepted and its worker started for `r`, public and
accepted whatever the entry says. -/
theorem accept_run {acts : List Act} {f : String} {r : PubKey} (hr : init.exec cfg acts = some s)
    (hp : s.panicked = false) (hc : s.closing = false) (ht : s.threads t = .accepting f)
    (hq : s.trChan.length < 9) (e : Edges) (en : Entry) (he : cfg.remote e = some r) :
    ∃ s', s.exec cfg [.run t (.dialed e), .run t .none, .run t (.settled en), .run t .none,
        .run t .none, .run t .none, .run t .none, .run t .none] = some s' ∧
      s'.threads t = .done ∧
      s'.threads s.nextThread = .workerStart ⟨s.nextMTr, f, r, true, true⟩ ∧
      s'.tps s.nextTp = ⟨e, false⟩ ∧
      s'.transports = s.transports.insert en.id s.nextMTr ∧
      s'.mTrs s.nextMTr = ⟨en.id, s.nextTp, en.public, true, false, ⟨0, 0⟩⟩ ∧
      (∀ k ≠ s.nextMTr, s'.mTrs k =
        if s.transports.lookup en.id = some k then { s.mTrs k with done := true } else s.mTrs k) ∧
      s'.trChan = s.trChan ++ [s.nextMTr] ∧ s'.statuses = s.statuses := by
  have hn : t ≠ s.nextThread := fun h ↦ by
    simp [h, (managed_init.exec hr).idle _ le_rfl] at ht
  obtain ⟨s, rfl⟩ : ∃ s₀, s = s₀.goto t (.accepting f) := ⟨s, (goto_eq_self s ht).symm⟩
  simp only [goto_panicked, goto_closing, goto_trChan, goto_nextThread] at hp hc hq hn
  cases hl : s.transports.lookup en.id <;>
    simp [exec, hp, hc, he, hq, hl, install_mTrs, killWorker_mTrs, Ne.symm hn] <;>
    intro k hk <;> simp [hk, eq_comm]

/-- A `messaging` transport accepted from a remote, just after `Serve` started its accept loop
on a new manager. -/
theorem accept_run_new :
    let cfg : Config := ⟨⟨List.replicate 33 1, rfl⟩, ["messaging"]⟩
    let s := (exec cfg init [.serve "messaging"]).get (by decide)
    ∃ s', s.exec cfg [.run 0 (.dialed (default, cfg.pubKey)), .run 0 .none,
        .run 0 (.settled ⟨default, false⟩), .run 0 .none, .run 0 .none, .run 0 .none,
        .run 0 .none, .run 0 .none] = some s' ∧
      s'.threads 0 = .done ∧
      s'.threads s.nextThread = .workerStart ⟨s.nextMTr, "messaging", default, true, true⟩ ∧
      s'.tps s.nextTp = ⟨(default, cfg.pubKey), false⟩ ∧
      s'.transports = s.transports.insert default s.nextMTr ∧
      s'.mTrs s.nextMTr = ⟨default, s.nextTp, false, true, false, ⟨0, 0⟩⟩ ∧
      (∀ k ≠ s.nextMTr, s'.mTrs k =
        if s.transports.lookup default = some k then { s.mTrs k with done := true }
        else s.mTrs k) ∧
      s'.trChan = s.trChan ++ [s.nextMTr] ∧ s'.statuses = s.statuses :=
  accept_run (Option.eq_some_of_isSome (by decide)) (by decide) (by decide) (by decide)
    (by decide) _ _ (by decide)

/-- `DeleteTransport(id)` run alone by goroutine `t`, from any state.  When `id` is stored, the
call returns: its entry is gone, the managed transport it named and that one's underlying
transport are closed and no other is touched, and discovery is told `{id, IsUp: false}`.  When
it is not, `tr.Close()` on the nil managed transport panics. -/
theorem delete_run {id : UUID} (hp : s.panicked = false) (ht : s.threads t = .deleteLock id none) :
    (∀ h, s.transports.lookup id = some h →
      ∃ s', s.exec cfg [.run t .none, .run t .none, .run t .none, .run t .none] = some s' ∧
        s'.threads t = .done ∧ s'.transports = s.transports.erase id ∧
        s'.mTrs h = { s.mTrs h with done := true } ∧ (∀ k ≠ h, s'.mTrs k = s.mTrs k) ∧
        (s'.tps (s.mTrs h).tp).closed = true ∧ (∀ j ≠ (s.mTrs h).tp, s'.tps j = s.tps j) ∧
        s'.statuses = s.statuses ++ [[⟨id, false⟩]]) ∧
    (s.transports.lookup id = none →
      ∃ s', s.exec cfg [.run t .none, .run t .none] = some s' ∧ s'.panicked = true) := by
  obtain ⟨s, rfl⟩ : ∃ s₀, s = s₀.goto t (.deleteLock id none) := ⟨s, (goto_eq_self s ht).symm⟩
  simp only [goto_panicked] at hp
  refine ⟨fun h hl ↦ ?_, fun hl ↦ ?_⟩ <;> simp only [goto_transports] at hl <;>
    simp [exec, hp, hl, closeMTr, killWorker_mTrs, Function.update_apply]
  exact ⟨fun k hk ↦ by simp [hk], fun j hj ↦ by simp [hj]⟩

/-- `DeleteTransport` of a dialed transport, called once its `createTransport` has returned. -/
theorem delete_run_dialed :
    let cfg : Config := ⟨default, ["messaging"]⟩
    let s := (exec cfg init [.create default "messaging" true, .run 0 .none, .run 0 .none,
      .run 0 (.dialed (default, default)), .run 0 (.settled ⟨default, true⟩), .run 0 .none,
      .run 0 .none, .run 0 .none, .run 0 .none, .run 0 .none, .delete default]).get (by decide)
    s.transports.lookup default = some 0 ∧
    (∀ h, s.transports.lookup default = some h →
      ∃ s', s.exec cfg [.run 2 .none, .run 2 .none, .run 2 .none, .run 2 .none] = some s' ∧
        s'.threads 2 = .done ∧ s'.transports = s.transports.erase default ∧
        s'.mTrs h = { s.mTrs h with done := true } ∧ (∀ k ≠ h, s'.mTrs k = s.mTrs k) ∧
        (s'.tps (s.mTrs h).tp).closed = true ∧ (∀ j ≠ (s.mTrs h).tp, s'.tps j = s.tps j) ∧
        s'.statuses = s.statuses ++ [[⟨default, false⟩]]) ∧
    (s.transports.lookup default = none →
      ∃ s', s.exec cfg [.run 2 .none, .run 2 .none] = some s' ∧ s'.panicked = true) :=
  ⟨by decide, delete_run (by decide) (by decide)⟩

end Manager

end Dmsg.Transport
