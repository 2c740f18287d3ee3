import Dmsg.Transport.Step

/-!
# Shutdown

`Close` closes `doneChan`; `dialTransport` and `acceptTransport` look at it with
`isClosing` before they dial or run the handshake.  The check and the insert are separate
steps, so what the checks give is this: after `doneChan` is closed, a transport is inserted
into `transports`, or a worker spawned, only by a goroutine that had already passed its
check when `Close` ran.

`Close` itself, run to its end, closes and reports the public transports in the map and only
those: its loop skips a transport that is not public, which stays open, and whose worker
stays at its `select`.
-/

namespace Dmsg.Transport

/-- Past the `isClosing` check of `createTransport`'s dial or of `acceptTransport`, on the way
to the insert and the spawn. -/
def Proc.pastCheck : Proc → Bool
  | .dialing c | .dialHandshake c _ => c.isCreate
  | .acceptHandshake .. | .lookupOld _ | .killOld .. | .insert _ | .publish .. | .spawn .. => true
  | _ => false

/-- A goroutine at the start of `manageTransport`. -/
def Proc.isWorkerStart : Proc → Bool
  | .workerStart _ => true
  | _ => false

namespace Manager

variable {cfg : Config} {s s' : Manager} {t : Nat} {o : Outcome}

/-- A step taken while `doneChan` is closed moves no goroutine past its check. -/
theorem Moves.pastCheck_of_closing {p q : Proc} (hm : s.Moves cfg o p q) (hc : s.closing = true)
    (hq : q.pastCheck) : p.pastCheck := by
  cases hm <;> simp_all [Proc.pastCheck, Dialer.isCreate]

/-- A goroutine's own step never takes it to the start of `manageTransport`. -/
theorem Moves.isWorkerStart {p q : Proc} (hm : s.Moves cfg o p q) : q.isWorkerStart = false := by
  cases hm <;> simp [Proc.isWorkerStart]

/-- What one step of goroutine `t` can change: `closing` only from `false` to `true`; its own
program counter, never into the part past a check while `closing` holds; of the other
goroutines only a new worker, when `t` spawns it; and `transports` gains an entry only when
`t` inserts it. -/
theorem threadStep_pastCheck (h : s.threadStep cfg t o = some s') :
    (s.closing = true → s'.closing = true ∧ ((s'.threads t).pastCheck → (s.threads t).pastCheck)) ∧
    (s'.threads t).isWorkerStart = false ∧
    (∀ u ≠ t, ((s'.threads u).pastCheck → (s.threads u).pastCheck) ∧
      ((s'.threads u).isWorkerStart → (s.threads u).isWorkerStart ∨ ∃ i k, s.threads t = .spawn i k)) ∧
    ∀ id k, s'.transports.lookup id = some k →
      s.transports.lookup id = some k ∨ ∃ i, s.threads t = .insert i := by
  have hm := threadStep_moves h
  have hf := threadStep_frame h
  refine ⟨fun hc ↦ ⟨by simp [hf.closing, hc], hm.pastCheck_of_closing hc⟩, hm.isWorkerStart,
    fun u hu ↦ ?_, fun _ _ ↦ hf.lookup_of_some⟩
  rcases hf.other hu with hs | ⟨-, i, k, hi, hs⟩ <;> rw [hs]
  · exact ⟨id, .inl⟩
  · exact ⟨by simp [Proc.pastCheck], fun _ ↦ .inr ⟨i, k, hi⟩⟩

/-- A call entering the manager starts a goroutine that is neither past a check nor a worker. -/
theorem fork_frame {p : Proc} (hp : p.pastCheck = false) (hw : p.isWorkerStart = false) (u : Nat) :
    (((s.fork p).threads u).pastCheck → (s.threads u).pastCheck) ∧
      (((s.fork p).threads u).isWorkerStart → (s.threads u).isWorkerStart) := by
  by_cases hu : u = s.nextThread <;> simp [fork, Function.update_apply, hu, hp, hw]

/-- What one step of the system can change: `closing` only from `false` to `true`; no goroutine
gets past a check while `closing` holds; a worker starts only when a goroutine spawns it, and
`transports` gains an entry only when a goroutine inserts it. -/
theorem step_frame {a : Act} (h : s.step cfg a = some s') :
    (s.closing = true → s'.closing = true ∧ ∀ u, (s'.threads u).pastCheck → (s.threads u).pastCheck) ∧
    (∀ u, (s'.threads u).isWorkerStart → (s.threads u).isWorkerStart ∨
      ∃ t o i k, a = .run t o ∧ s.threads t = .spawn i k) ∧
    ∀ id k, s'.transports.lookup id = some k →
      s.transports.lookup id = some k ∨ ∃ t o i, a = .run t o ∧ s.threads t = .insert i := by
  by_cases hp : s.panicked
  · simp [step, hp] at h
  rw [step.eq_def, if_neg hp] at h
  cases a with
  | run t o =>
    obtain ⟨hc, hself, hother, htr⟩ := threadStep_pastCheck h
    refine ⟨fun h0 ↦ ⟨(hc h0).1, fun u ↦ ?_⟩, fun u ↦ ?_, fun x k hk ↦ ?_⟩
    · by_cases hu : u = t
      · exact hu ▸ (hc h0).2
      · exact (hother u hu).1
    · by_cases hu : u = t
      · simp [hu, hself]
      · exact fun hw ↦ ((hother u hu).2 hw).imp id fun ⟨i, k, hk⟩ ↦ ⟨t, o, i, k, rfl, hk⟩
    · exact (htr x k hk).imp id fun ⟨i, hi⟩ ↦ ⟨t, o, i, rfl, hi⟩
  | recvTrChan =>
    dsimp only at h
    split at h <;> cases h
    exact ⟨fun h0 ↦ ⟨h0, fun _ ↦ id⟩, fun _ ↦ .inl, fun _ _ ↦ .inl⟩
  | serve f =>
    dsimp only at h
    split at h <;> cases h
    exact ⟨fun h0 ↦ ⟨h0, fun u ↦ (fork_frame (by rfl) (by rfl) u).1⟩,
      fun u hu ↦ .inl ((fork_frame (by rfl) (by rfl) u).2 hu), fun _ _ ↦ .inl⟩
  | create _ _ _ | delete _ | close =>
    cases h
    exact ⟨fun h0 ↦ ⟨h0, fun u ↦ (fork_frame (by rfl) (by rfl) u).1⟩,
      fun u hu ↦ .inl ((fork_frame (by rfl) (by rfl) u).2 hu), fun _ _ ↦ .inl⟩

/-- Once `doneChan` is closed it stays closed, and a goroutine past its check after any run
was past it already. -/
theorem exec_pastCheck {acts : List Act} (hc : s.closing = true) (h : s.exec cfg acts = some s') :
    s'.closing = true ∧ ∀ u, (s'.threads u).pastCheck → (s.threads u).pastCheck := by
  induction acts generalizing s with
  | nil => cases h; exact ⟨hc, fun _ ↦ id⟩
  | cons a acts ih =>
    obtain ⟨s₁, h₁, h⟩ := Option.bind_eq_some.mp h
    obtain ⟨hc₁, hp₁⟩ := (step_frame h₁).1 hc
    obtain ⟨hc', hp'⟩ := ih hc₁ h
    exact ⟨hc', fun u hu ↦ hp₁ u (hp' u hu)⟩

/-- After `Close` has closed `doneChan`, a step that adds an entry to `transports` or starts a
`manageTransport` goroutine is a step of a goroutine that was past its `isClosing` check when
`doneChan` was closed: a `createTransport` or `acceptTransport` call started later, and every
re-dialing worker, never installs. -/
theorem install_after_close {s₀ : Manager} {acts : List Act} {a : Act} (hc : s₀.closing = true)
    (hrun : s₀.exec cfg acts = some s) (hstep : s.step cfg a = some s')
    (hnew : (∃ id k, s'.transports.lookup id = some k ∧ s.transports.lookup id ≠ some k) ∨
      ∃ u, (s'.threads u).isWorkerStart ∧ (s.threads u).isWorkerStart = false) :
    ∃ t o, a = .run t o ∧ (s₀.threads t).pastCheck := by
  have hpast := (exec_pastCheck hc hrun).2
  obtain ⟨-, hw, htr⟩ := step_frame hstep
  rcases hnew with ⟨id, k, hk, hold⟩ | ⟨u, hu, hold⟩
  · obtain ⟨t, o, i, rfl, hi⟩ := (htr id k hk).resolve_left hold
    exact ⟨t, o, rfl, hpast t (by simp [hi, Proc.pastCheck])⟩
  · obtain ⟨t, o, i, k, rfl, hi⟩ := (hw u hu).resolve_left (by simp [hold])
    exact ⟨t, o, rfl, hpast t (by simp [hi, Proc.pastCheck])⟩

/-- `Close` closes `doneChan` while a `createTransport` call waits at its insert: the insert that
follows is that call's. -/
theorem install_after_close_insert :
    let s₀ := (exec ⟨default, ["messaging"]⟩ init [.create default "messaging" true, .run 0 .none,
      .run 0 .none, .run 0 (.dialed (default, default)), .run 0 (.settled ⟨default, true⟩),
      .run 0 .none, .run 0 .none, .close, .run 1 .none]).get (by decide)
    s₀.closing = true ∧ (s₀.step ⟨default, ["messaging"]⟩ (.run 0 .none)).isSome ∧
      ((s₀.step ⟨default, ["messaging"]⟩ (.run 0 .none)).get (by decide)).transports.lookup default =
        some 0 ∧
      ∃ t o, Act.run 0 .none = .run t o ∧ (s₀.threads t).pastCheck :=
  ⟨by decide, by decide, by decide, install_after_close (by decide)
    (rfl : exec _ _ ([] : List Act) = some _)
    (Option.eq_some_of_isSome (by decide : (step ⟨default, ["messaging"]⟩ _ (.run 0 .none)).isSome))
    (.inl ⟨default, 0, by decide, by decide⟩)⟩

/-- A `createTransport` call past its check when `Close` runs: `Close` returns having reported
and closed nothing, then the call inserts its transport, left open, and spawns its worker. -/
theorem close_then_install :
    (exec ⟨default, ["messaging"]⟩ init [.create default "messaging" true, .run 0 .none, .run 0 .none,
      .run 0 (.dialed (default, default)), .run 0 (.settled ⟨default, true⟩), .close, .run 1 .none,
      .run 1 .none, .run 1 .none, .run 0 .none, .run 0 .none, .run 0 .none, .run 0 .none,
      .run 0 .none]).map (fun s ↦
        ((s.closing, s.threads 1, s.statuses),
          (s.transports.lookup default, (s.mTrs 0).done, (s.tps 0).closed, s.threads 2))) =
    some ((true, .done, [[]]),
      (some 0, false, false, .workerStart ⟨0, "messaging", default, true, false⟩)) := by
  decide

/-- `Close` run to its end by goroutine `t`, from any state with `doneChan` open: `doneChan` is
closed and the map unchanged, a managed transport is closed when it already was or is public
and in the map, an underlying transport is closed when it already was or belongs to a public
managed transport in the map, and discovery gets one batch with `{ID, IsUp: false}` for each
public transport in the map. -/
theorem close_run (hp : s.panicked = false) (ht : s.threads t = .closeDone)
    (hc : s.closing = false) :
    ∃ s', s.exec cfg [.run t .none, .run t .none, .run t .none] = some s' ∧
      s'.threads t = .done ∧ s'.closing = true ∧ s'.transports = s.transports ∧
      (∀ k, (s'.mTrs k).done =
        ((s.mTrs k).done || (s.mTrs k).public && decide (k ∈ s.transports.entries.map (·.2)))) ∧
      (∀ j, s'.tps j = { s.tps j with closed := ((s.tps j).closed ||
        s.transports.entries.any fun e ↦ (s.mTrs e.2).public && (s.mTrs e.2).tp == j) }) ∧
      s'.statuses = s.statuses ++
        [(s.transports.entries.filter fun e ↦ (s.mTrs e.2).public).map fun e ↦
          (⟨(s.mTrs e.2).id, false⟩ : Status)] := by
  simp [exec, step, hp, threadStep, ht, hc, sweep_snd]

/-- `Close` called with one dialed public transport in the map, run to its end. -/
theorem close_run_dialed :
    let s := (exec ⟨default, ["messaging"]⟩ init [.create default "messaging" true, .run 0 .none,
      .run 0 .none, .run 0 (.dialed (default, default)), .run 0 (.settled ⟨default, true⟩),
      .run 0 .none, .run 0 .none, .run 0 .none, .run 0 .none, .run 0 .none, .run 1 .none,
      .close]).get (by decide)
    s.panicked = false ∧ s.threads 2 = .closeDone ∧ s.closing = false ∧
      ∃ s', s.exec ⟨default, ["messaging"]⟩ [.run 2 .none, .run 2 .none, .run 2 .none] = some s' ∧
        s'.threads 2 = .done ∧ s'.closing = true ∧ s'.transports = s.transports ∧
        (∀ k, (s'.mTrs k).done =
          ((s.mTrs k).done || (s.mTrs k).public && decide (k ∈ s.transports.entries.map (·.2)))) ∧
        (∀ j, s'.tps j = { s.tps j with closed := ((s.tps j).closed ||
          s.transports.entries.any fun e ↦ (s.mTrs e.2).public && (s.mTrs e.2).tp == j) }) ∧
        s'.statuses = s.statuses ++
          [(s.transports.entries.filter fun e ↦ (s.mTrs e.2).public).map fun e ↦
            (⟨(s.mTrs e.2).id, false⟩ : Status)] :=
  ⟨by decide, by decide, by decide, close_run (by decide) (by decide) (by decide)⟩

/-- A transport whose settled entry is not public: `Close` runs to its end and reports an empty
batch, and the transport stays in the map, open, with its worker at its `select`, where
`<-mTr.doneChan` never fires. -/
theorem close_leaves_private_open :
    ∃ s, exec ⟨default, ["messaging"]⟩ init [.create default "messaging" false, .run 0 .none,
      .run 0 .none, .run 0 (.dialed (default, default)), .run 0 (.settled ⟨default, false⟩),
      .run 0 .none, .run 0 .none, .run 0 .none, .run 0 .none, .run 0 .none, .run 1 .none, .close,
      .run 2 .none, .run 2 .none, .run 2 .none] = some s ∧
      s.threads 2 = .done ∧ s.statuses = [[]] ∧ s.transports.lookup default = some 0 ∧
      (s.mTrs 0).done = false ∧ (s.tps 0).closed = false ∧
      s.threads 1 = .workerLoop ⟨0, "messaging", default, false, false⟩ ∧
      s.step ⟨default, ["messaging"]⟩ (.run 1 .recvDone) = none :=
  ⟨_, rfl, rfl, rfl, rfl, rfl, rfl, rfl, rfl⟩

end Manager

end Dmsg.Transport
