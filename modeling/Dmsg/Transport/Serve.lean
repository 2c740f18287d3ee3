import Dmsg.Transport.Step

/-!
# `Serve`'s startup

`Serve` runs `reconnectTransports`, then `createDefaultTransports`, then starts one accept loop
per factory.  `reconnectTransports` goes over its copy of `entries`, which `NewManager` loaded
from discovery and nothing changes afterwards (no caller of `addEntry` or `addIfNotExist` is
left).  It skips an entry whose ID has a transport, or whose edges do not name the local key,
and otherwise calls `createTransport`; when that returns a managed transport it tells
discovery `{entry.ID, IsUp: true}`.  `createDefaultTransports` calls `CreateTransport` for each
default node that no transport of the map has as its remote.

`Serve`'s goroutine is a layer over the manager: each `createTransport` call it makes runs on
a goroutine of its own, started as a `CreateTransport` call is, and `Serve` waits at the call
until that goroutine returns, while every other goroutine and call keeps running.

Two results connect the layer to the manager.  Forgetting what discovery was told, every
state a run with `Serve` reaches is one the manager's own calls reach, so every invariant of
the manager holds along `Serve`'s startup too.  And discovery is told that a transport is up
by `reconnectTransports` alone, for loaded entries whose edges name the local key, each
distinct entry at most once, whatever order the walk of the `entries` map takes: the manager's
other code only ever reports transports down.
-/

namespace Dmsg.Transport

/-- `Entry` as `NewManager` loads it from discovery into `entries`: the ID, the edges, the
transport type and the public flag. -/
structure KnownEntry where
  id : UUID
  edges : Edges
  type : String
  public : Bool
  deriving DecidableEq

/-- Whether a goroutine of `createTransport` is at `go tm.manageTransport(...)`, the step after
which it returns the managed transport it stored. -/
def Proc.returnsTransport : Proc → Bool
  | .spawn .. => true
  | _ => false

/-- An order in which a `range` over a copy of the `entries` map can visit the entries `E` that
`NewManager` loaded: the map is keyed by the `Entry` value, so each distinct entry comes once,
in an order the runtime picks. -/
structure EntryWalk (E : List KnownEntry) where
  order : List KnownEntry
  perm : order.Perm E.dedup

/-- Where `Serve`'s goroutine is. -/
inductive ServePc
  /-- `reconnectTransports`, at the next of the entries `es` left in its copy. -/
  | reconnect (es : List KnownEntry)
  /-- `reconnectTransports`, in `createTransport` for `e`, run by goroutine `t`. -/
  | reconnectCall (e : KnownEntry) (es : List KnownEntry) (t : Nat)
  /-- `reconnectTransports`, at `UpdateStatuses(ctx, &Status{ID: entry.ID, IsUp: true})`. -/
  | reconnectStatus (e : KnownEntry) (es : List KnownEntry)
  /-- `createDefaultTransports`, at the next of the default nodes `pks` left. -/
  | createDefault (pks : List PubKey)
  /-- `createDefaultTransports`, in `CreateTransport`, run by goroutine `t`. -/
  | createDefaultCall (pks : List PubKey) (t : Nat)
  /-- The accept loops are started and `Serve` is at `wg.Wait()`. -/
  | accepting
  deriving DecidableEq

/-- Where `Serve` goes when goroutine `t` returns from a call; `ok` says whether the call
returned a managed transport. -/
def ServePc.callReturned (t : Nat) (ok : Bool) : ServePc → ServePc
  | .reconnectCall e es u =>
    if u = t then (if ok then .reconnectStatus e es else .reconnect es) else .reconnectCall e es u
  | .createDefaultCall pks u => if u = t then .createDefault pks else .createDefaultCall pks u
  | pc => pc

/-- Where `Serve` is after the manager took the step `a` from `s` to `s'`: if `a` was the
return of the call `Serve` waits at, it goes on. -/
def ServePc.resume (pc : ServePc) (s s' : Manager) : Act → ServePc
  | .run t _ => if s'.threads t = .done then pc.callReturned t (s.threads t).returnsTransport else pc
  | _ => pc

/-- The IDs of the entries `es` that `reconnectTransports` may re-dial: those whose edges name
the local key. -/
def Config.reconnectIds (cfg : Config) (es : List KnownEntry) : List UUID :=
  (es.filter fun e ↦ (cfg.remote e.edges).isSome).map (·.id)

/-- The IDs `Serve` may still report up: those of the entries left that it may re-dial, and of
the entry it is calling `createTransport` for or reporting. -/
def ServePc.pending (cfg : Config) : ServePc → List UUID
  | .reconnect es => cfg.reconnectIds es
  | .reconnectCall e es _ | .reconnectStatus e es => e.id :: cfg.reconnectIds es
  | _ => []

/-- How many steps `Serve`'s goroutine may still take: two for each entry left (the call or the
skip, then the report), one for each default node left, and one to leave each loop.  A call's
return is a step of another goroutine and does not count. -/
def ServePc.rank (nodes : List PubKey) : ServePc → Nat
  | .reconnect es => 2 * es.length + nodes.length + 2
  | .reconnectCall _ es _ | .reconnectStatus _ es => 2 * es.length + nodes.length + 3
  | .createDefault pks | .createDefaultCall pks _ => pks.length + 1
  | .accepting => 0

/-- Whether a goroutine about to report to discovery reports only `IsUp: false`: false only at
`Close`'s `UpdateStatuses` with an `IsUp: true` status in its batch. -/
def Proc.reportsDown : Proc → Bool
  | .closeReport sts => sts.all fun x ↦ !x.isUp
  | _ => true

/-- The manager with its `Serve` goroutine. -/
structure Serving where
  mgr : Manager
  pc : ServePc

/-- A step of the manager with its `Serve` goroutine. -/
inductive ServeAct
  /-- `Serve`'s goroutine takes its next step. -/
  | serve
  /-- Any other step of the manager. -/
  | act (a : Act)

namespace Manager

/-- `ManagedTransport.Edges`, promoted from the underlying transport it wraps. -/
def edges (s : Manager) (k : Nat) : Edges := (s.tps (s.mTrs k).tp).edges

/-- `createDefaultTransports`' walk over the transports for `pk`: whether one of them has `pk`
as its remote. -/
def connectedTo (cfg : Config) (s : Manager) (pk : PubKey) : Bool :=
  s.transports.entries.any fun e ↦ cfg.remote (s.edges e.2) == some pk

end Manager

namespace Serving

/-- One step of `Serve`'s goroutine over the default nodes `nodes`.  It calls
`createTransport` by starting a goroutine at the call, and waits until that goroutine returns. -/
def serveStep (cfg : Config) (nodes : List PubKey) (s : Serving) : Option Serving :=
  if s.mgr.panicked then none else
  match s.pc with
  | .reconnect [] => some ⟨s.mgr, .createDefault nodes⟩
  | .reconnect (e :: es) =>
    if (s.mgr.transports.lookup e.id).isSome then some ⟨s.mgr, .reconnect es⟩ else
    match cfg.remote e.edges with
    | none => some ⟨s.mgr, .reconnect es⟩
    | some r =>
      some ⟨s.mgr.fork (.createStart r e.type e.public), .reconnectCall e es s.mgr.nextThread⟩
  | .reconnectStatus e es =>
    some ⟨{ s.mgr with statuses := s.mgr.statuses ++ [[⟨e.id, true⟩]] }, .reconnect es⟩
  | .createDefault [] => some ⟨s.mgr, .accepting⟩
  | .createDefault (pk :: pks) =>
    if s.mgr.connectedTo cfg pk then some ⟨s.mgr, .createDefault pks⟩
    else some ⟨s.mgr.fork (.createStart pk "messaging" true), .createDefaultCall pks s.mgr.nextThread⟩
  | .reconnectCall .. | .createDefaultCall .. | .accepting => none

/-- One step of the system; an accept loop exists once `Serve` has started them. -/
def step (cfg : Config) (nodes : List PubKey) (s : Serving) : ServeAct → Option Serving
  | .serve => s.serveStep cfg nodes
  | .act (.serve f) =>
    if s.pc = .accepting then (s.mgr.step cfg (.serve f)).map (⟨·, s.pc⟩) else none
  | .act a => (s.mgr.step cfg a).map fun m ↦ ⟨m, s.pc.resume s.mgr m a⟩

/-- A schedule of steps from `s`. -/
def exec (cfg : Config) (nodes : List PubKey) : Serving → List ServeAct → Option Serving
  | s, [] => some s
  | s, a :: as => (s.step cfg nodes a).bind fun s' ↦ exec cfg nodes s' as

/-- `NewManager` with entries loaded and `Serve` called; `es` is the order in which
`reconnectTransports`' `range` over its copy of the `entries` map visits them (`EntryWalk`). -/
def start (es : List KnownEntry) : Serving := ⟨Manager.init, .reconnect es⟩

end Serving

/-! ### The manager never reads what it told discovery -/

namespace Manager

variable {cfg : Config} {s s₁ s₂ s' : Manager} {t : Nat} {o : Outcome} {a : Act}

/-- The manager with what discovery was told forgotten. -/
@[simps] def unreported (s : Manager) : Manager := { s with statuses := [] }

@[simp] theorem unreported_acceptBusy (f : String) : s.unreported.acceptBusy f = s.acceptBusy f :=
  rfl

theorem sweep_unreported : s.unreported.sweep = (s.sweep.1.unreported, s.sweep.2) := by
  suffices ∀ (es : List (Σ _ : UUID, Nat)) (acc : Manager × List Status),
      es.foldl sweepStep (acc.1.unreported, acc.2) =
        ((es.foldl sweepStep acc).1.unreported, (es.foldl sweepStep acc).2) from this _ (s, [])
  intro es
  induction es with
  | nil => exact fun _ ↦ rfl
  | cons e es ih =>
    intro acc
    have hstep : sweepStep (acc.1.unreported, acc.2) e =
        ((sweepStep acc e).1.unreported, (sweepStep acc e).2) := by
      unfold sweepStep
      simp only [unreported_mTrs]
      split <;> rfl
    rw [List.foldl_cons, List.foldl_cons, hstep, ih]

/-- No goroutine reads what discovery was told: a step taken with the statuses forgotten is the
same step.  This is about what a step reads, not what it writes, so it is not a consequence of
`Frame`; every branch of `threadStep` is checked, each ending in `unreported` of the same
state. -/
theorem threadStep_unreported :
    (s.threadStep cfg t o).map unreported = (s.unreported.threadStep cfg t o).map unreported := by
  unfold threadStep
  simp only [unreported_threads]
  split <;> (try split) <;> (try split) <;> simp_all [sweep_unreported] <;> first | rfl | omega

theorem step_unreported :
    (s.step cfg a).map unreported = (s.unreported.step cfg a).map unreported := by
  cases a with
  | run t o =>
    simp only [step, unreported_panicked]
    split
    · rfl
    · exact threadStep_unreported
  | recvTrChan =>
    simp only [step, unreported_panicked, unreported_trChan]
    split
    · rfl
    · split <;> rfl
  | serve f =>
    simp only [step, unreported_panicked, unreported_closing, unreported_acceptBusy]
    split <;> (try split) <;> rfl
  | create _ _ _ | delete _ | close =>
    simp only [step, unreported_panicked]
    split <;> rfl

theorem step_create {r : PubKey} {ty : String} {pub : Bool} (hp : s.panicked = false) :
    s.step cfg (.create r ty pub) = some (s.fork (.createStart r ty pub)) := by
  simp [step, hp]

/-- Two states that differ only in what discovery was told step alike. -/
theorem step_congr (h : s₁.unreported = s₂.unreported) :
    (s₁.step cfg a).map unreported = (s₂.step cfg a).map unreported := by
  rw [step_unreported, h, ← step_unreported]

theorem exec_append {acts acts' : List Act} :
    s.exec cfg (acts ++ acts') = (s.exec cfg acts).bind fun s' ↦ s'.exec cfg acts' := by
  induction acts generalizing s with
  | nil => rfl
  | cons a acts ih =>
    simp only [List.cons_append, exec]
    cases s.step cfg a <;> simp [ih]

/-- A step from a state the manager reaches, up to what discovery was told. -/
theorem reaches_step {acts : List Act} (hr : (init.exec cfg acts).map unreported = some s.unreported)
    (h : s.step cfg a = some s') :
    (init.exec cfg (acts ++ [a])).map unreported = some s'.unreported := by
  obtain ⟨s₀, h₀, hs₀⟩ := Option.map_eq_some'.mp hr
  have hstep : (s₀.step cfg a).map unreported = (s.step cfg a).map unreported := step_congr hs₀
  rw [h] at hstep
  obtain ⟨s₀', h₀', hs₀'⟩ := Option.map_eq_some'.mp hstep
  simp [exec_append, h₀, exec, h₀', hs₀']

end Manager

namespace Serving

variable {cfg : Config} {nodes : List PubKey} {s s' : Serving} {E : List KnownEntry}

/-- A step of the manager within the system: the manager takes it, and `Serve` goes on if it
was waiting for that step. -/
theorem step_act {a : Act} (h : s.step cfg nodes (.act a) = some s') :
    s.mgr.step cfg a = some s'.mgr ∧ s'.pc = s.pc.resume s.mgr s'.mgr a := by
  cases a
  case serve f =>
    simp only [step] at h
    split_ifs at h
    obtain ⟨m, hm, rfl⟩ := Option.map_eq_some'.mp h
    exact ⟨hm, rfl⟩
  all_goals
    obtain ⟨m, hm, rfl⟩ := Option.map_eq_some'.mp h
    exact ⟨hm, rfl⟩

/-- What a step of `Serve`'s goroutine does to the manager: it reports to discovery, starts a
`createTransport` call, or nothing. -/
theorem serveStep_mgr (h : s.serveStep cfg nodes = some s') :
    s.mgr.panicked = false ∧ (s'.mgr.unreported = s.mgr.unreported ∨
      ∃ r ty pub, s'.mgr = s.mgr.fork (.createStart r ty pub)) := by
  unfold serveStep at h
  split_ifs at h with hp
  have hp : s.mgr.panicked = false := by simpa using hp
  split at h <;> (try split_ifs at h) <;> (try split at h) <;> cases h <;>
    first | exact ⟨hp, .inl rfl⟩ | exact ⟨hp, .inr ⟨_, _, _, rfl⟩⟩

/-- Every step with `Serve` is, for the manager, a step of its own or none, up to what
discovery was told. -/
theorem reaches_step {acts : List Act} {b : ServeAct}
    (hr : (Manager.init.exec cfg acts).map Manager.unreported = some s.mgr.unreported)
    (h : s.step cfg nodes b = some s') :
    ∃ acts', (Manager.init.exec cfg acts').map Manager.unreported = some s'.mgr.unreported := by
  cases b with
  | serve =>
    obtain ⟨hp, hs' | ⟨r, ty, pub, hs'⟩⟩ := serveStep_mgr h
    · exact ⟨acts, hs' ▸ hr⟩
    · exact ⟨_, hs' ▸ Manager.reaches_step hr (Manager.step_create hp)⟩
  | act a => exact ⟨_, Manager.reaches_step hr (step_act h).1⟩

/-- `Serve`'s startup adds nothing to the manager but its reports to discovery: every state a
run with `Serve` reaches is, but for what discovery was told, one that the manager's own calls
and goroutines reach. -/
theorem serve_refines_manager {acts : List ServeAct} (h : (start E).exec cfg nodes acts = some s) :
    ∃ acts', (Manager.init.exec cfg acts').map Manager.unreported = some s.mgr.unreported := by
  suffices ∀ (s₀ : Serving) acts₀, (Manager.init.exec cfg acts₀).map Manager.unreported =
      some s₀.mgr.unreported → s₀.exec cfg nodes acts = some s →
      ∃ acts', (Manager.init.exec cfg acts').map Manager.unreported = some s.mgr.unreported from
    this (start E) [] rfl h
  clear h
  induction acts with
  | nil =>
    intro s₀ acts₀ hr h
    cases h
    exact ⟨acts₀, hr⟩
  | cons b acts ih =>
    intro s₀ acts₀ hr h
    obtain ⟨s₁, h₁, h⟩ := Option.bind_eq_some.mp h
    obtain ⟨acts₁, hr₁⟩ := reaches_step hr h₁
    exact ih s₁ acts₁ hr₁ h

/-- `Serve`'s re-dial of a loaded entry, with its report and the start of the accept loops, is
for the manager a `createTransport` call. -/
theorem serve_refines_manager_redial :
    let acts : List ServeAct := [.serve, .act (.run 0 .none), .act (.run 0 .none),
      .act (.run 0 (.dialed (default, default))), .act (.run 0 (.settled ⟨default, true⟩)),
      .act (.run 0 .none), .act (.run 0 .none), .act (.run 0 .none), .act (.run 0 .none),
      .act (.run 0 .none), .serve, .serve, .serve]
    (exec ⟨default, ["messaging"]⟩ [] (start [⟨default, (default, default), "messaging", true⟩])
        acts).isSome ∧
      ∃ acts', (Manager.init.exec ⟨default, ["messaging"]⟩ acts').map Manager.unreported =
        some ((exec ⟨default, ["messaging"]⟩ []
          (start [⟨default, (default, default), "messaging", true⟩]) acts).get
            (by decide)).mgr.unreported :=
  ⟨by decide, serve_refines_manager (Option.eq_some_of_isSome (by decide))⟩

end Serving

/-! ### What discovery is told -/

namespace Manager

variable {cfg : Config} {s s' : Manager} {t : Nat} {o : Outcome} {a : Act}

/-- The IDs discovery was told are up, in the order it was told. -/
def upReports (sts : List (List Status)) : List UUID := (sts.flatten.filter (·.isUp)).map (·.id)

@[simp] theorem upReports_append (l l' : List (List Status)) :
    upReports (l ++ l') = upReports l ++ upReports l' := by
  simp [upReports]

/-- A place that reports nothing up tells discovery nothing up. -/
theorem upReports_reports {p : Proc} (hp : p.reportsDown) : upReports p.reports = [] := by
  cases p <;> simp_all [Proc.reports, Proc.reportsDown, upReports]

/-- A step never takes a goroutine to a report of something up: `Close` reports the batch its
sweep built, one `IsUp: false` status per public transport. -/
theorem Moves.reportsDown {p q : Proc} (hm : s.Moves cfg o p q) (hp : p.reportsDown) :
    q.reportsDown := by
  cases hm <;> simp_all [Proc.reportsDown, sweep_snd]
  -- the batch of the sweep
  exact fun _ _ _ _ _ h ↦ h ▸ rfl

/-- A goroutine's step tells discovery nothing up: `DeleteTransport` reports `IsUp: false`, and
`Close` reports the batch its sweep built, one `IsUp: false` status per public transport. -/
theorem threadStep_reports (hd : ∀ u, (s.threads u).reportsDown)
    (h : s.threadStep cfg t o = some s') :
    (∀ u, (s'.threads u).reportsDown) ∧ upReports s'.statuses = upReports s.statuses := by
  have hf := threadStep_frame h
  refine ⟨fun u ↦ ?_, by rw [hf.statuses, upReports_append, upReports_reports (hd t), List.append_nil]⟩
  by_cases hu : u = t
  · subst hu
    exact (threadStep_moves h).reportsDown (hd u)
  · rcases hf.other hu with hs | ⟨-, _, _, -, hs⟩ <;> rw [hs]
    · exact hd u
    · rfl

theorem step_reports (hd : ∀ u, (s.threads u).reportsDown) (h : s.step cfg a = some s') :
    (∀ u, (s'.threads u).reportsDown) ∧ upReports s'.statuses = upReports s.statuses := by
  by_cases hp : s.panicked
  · simp [step, hp] at h
  rw [step.eq_def, if_neg hp] at h
  have hfork : ∀ p : Proc, p.reportsDown → ∀ u, ((s.fork p).threads u).reportsDown :=
    fun p hp u ↦ by by_cases hu : u = s.nextThread <;> simp [hu, hp, hd u]
  cases a with
  | run t o => exact threadStep_reports hd h
  | recvTrChan =>
    dsimp only at h
    split at h <;> cases h
    exact ⟨hd, rfl⟩
  | serve f =>
    dsimp only at h
    split at h <;> cases h
    exact ⟨hfork _ rfl, rfl⟩
  | create _ _ _ | delete _ | close =>
    cases h
    exact ⟨hfork _ rfl, rfl⟩

theorem exec_reports {acts : List Act} (hd : ∀ u, (s.threads u).reportsDown)
    (h : s.exec cfg acts = some s') :
    (∀ u, (s'.threads u).reportsDown) ∧ upReports s'.statuses = upReports s.statuses := by
  induction acts generalizing s with
  | nil => cases h; exact ⟨hd, rfl⟩
  | cons a acts ih =>
    obtain ⟨s₁, h₁, h⟩ := Option.bind_eq_some.mp h
    obtain ⟨hd₁, hu₁⟩ := step_reports hd h₁
    exact (ih hd₁ h).imp_right (·.trans hu₁)

/-- Over every schedule from `NewManager`, discovery is only ever told that transports are
down: `createTransport` and `acceptTransport` report nothing, and `DeleteTransport` and `Close`
report `IsUp: false`. -/
theorem discovery_told_down {acts : List Act} (h : init.exec cfg acts = some s) :
    ∀ l ∈ s.statuses, ∀ x ∈ l, x.isUp = false := by
  have hu := (exec_reports (by intro u; rfl) h).2
  simpa [upReports, init] using hu

end Manager

namespace Serving

variable {cfg : Config} {nodes : List PubKey} {s s' : Serving} {E : List KnownEntry}

theorem reconnectIds_cons_sublist (e : KnownEntry) (es : List KnownEntry) :
    (cfg.reconnectIds es).Sublist (cfg.reconnectIds (e :: es)) :=
  ((List.sublist_cons_self e es).filter _).map _

theorem pending_callReturned (pc : ServePc) (t : Nat) (ok : Bool) :
    ((pc.callReturned t ok).pending cfg).Sublist (pc.pending cfg) := by
  cases pc <;> simp only [ServePc.callReturned] <;> (try split_ifs) <;>
    simp [ServePc.pending, List.sublist_cons_self]

theorem pending_resume (pc : ServePc) (m m' : Manager) (a : Act) :
    ((pc.resume m m' a).pending cfg).Sublist (pc.pending cfg) := by
  cases a <;> simp only [ServePc.resume] <;> (try split_ifs) <;>
    first | exact List.Sublist.refl _ | exact pending_callReturned _ _ _

/-- What has been reported up, followed by what `Serve` may still report up, is a sublist of
the IDs of the loaded entries it may re-dial; and no `Close` holds an `IsUp: true` status. -/
structure Reported (cfg : Config) (E : List KnownEntry) (s : Serving) : Prop where
  down : ∀ u, (s.mgr.threads u).reportsDown
  sub : (Manager.upReports s.mgr.statuses ++ s.pc.pending cfg).Sublist (cfg.reconnectIds E)

theorem reported_start : (start E).Reported cfg E := ⟨fun _ ↦ rfl, List.Sublist.refl _⟩

theorem Reported.serveStep (hr : s.Reported cfg E) (h : s.serveStep cfg nodes = some s') :
    s'.Reported cfg E := by
  obtain ⟨m, pc⟩ := s
  have hfork : ∀ r ty pub u, ((m.fork (.createStart r ty pub)).threads u).reportsDown := by
    intro r ty pub u
    by_cases hu : u = m.nextThread
    · simp [hu, Proc.reportsDown]
    · simpa [hu] using hr.down u
  -- dropping an entry `Serve` skips
  have hskip : ∀ e es, pc = .reconnect (e :: es) →
      (Manager.upReports m.statuses ++ cfg.reconnectIds es).Sublist (cfg.reconnectIds E) :=
    fun e es hpc ↦ by
      subst hpc
      exact ((reconnectIds_cons_sublist e es).append_left _).trans hr.sub
  unfold Serving.serveStep at h
  split_ifs at h
  cases pc with
  | reconnect es =>
    cases es with
    | nil =>
      cases h
      exact ⟨hr.down, by simpa [ServePc.pending, Config.reconnectIds] using hr.sub⟩
    | cons e es =>
      dsimp only at h
      split_ifs at h
      · cases h
        exact ⟨hr.down, hskip e es rfl⟩
      · split at h <;> cases h
        · exact ⟨hr.down, hskip e es rfl⟩
        · refine ⟨hfork _ _ _, ?_⟩
          simpa [ServePc.pending, Config.reconnectIds, List.filter_cons, *] using hr.sub
  | reconnectStatus e es =>
    cases h
    exact ⟨hr.down, by simpa [ServePc.pending] using hr.sub⟩
  | createDefault pks =>
    cases pks with
    | nil =>
      cases h
      exact ⟨hr.down, hr.sub⟩
    | cons pk pks =>
      dsimp only at h
      split_ifs at h <;> cases h
      · exact ⟨hr.down, hr.sub⟩
      · exact ⟨hfork _ _ _, hr.sub⟩
  | reconnectCall | createDefaultCall | accepting => cases h

theorem Reported.step {b : ServeAct} (hr : s.Reported cfg E) (h : s.step cfg nodes b = some s') :
    s'.Reported cfg E := by
  cases b with
  | serve => exact hr.serveStep h
  | act a =>
    obtain ⟨hm, hpc⟩ := step_act h
    obtain ⟨hd, hu⟩ := Manager.step_reports hr.down hm
    refine ⟨hd, ?_⟩
    rw [hu, hpc]
    exact ((pending_resume _ _ _ _).append_left _).trans hr.sub

theorem Reported.exec {acts : List ServeAct} (hr : s.Reported cfg E)
    (h : s.exec cfg nodes acts = some s') : s'.Reported cfg E := by
  induction acts generalizing s with
  | nil => cases h; exact hr
  | cons b acts ih =>
    obtain ⟨s₁, h₁, h⟩ := Option.bind_eq_some.mp h
    exact ih (hr.step h₁) h

/-- Over every run with `Serve` from `NewManager` with the entries `E` loaded, whatever order
`reconnectTransports` walks its copy of `entries` in, discovery is told that a transport is up
only by `reconnectTransports`: up to order, the IDs reported up are IDs of distinct loaded
entries whose edges name the local key, none reported more often than such entries carry it. -/
theorem up_reports_from_reconnect (w : EntryWalk E) {acts : List ServeAct}
    (h : (start w.order).exec cfg nodes acts = some s) :
    (Manager.upReports s.mgr.statuses).Subperm (cfg.reconnectIds E.dedup) :=
  ((List.sublist_append_left _ _).trans (reported_start.exec h).sub).subperm.trans
    ((w.perm.filter _).map _).subperm

/-- `Serve` re-dials a loaded entry, reports it up, and starts its accept loops. -/
theorem up_reports_from_reconnect_redial :
    let E : List KnownEntry := [⟨default, (default, default), "messaging", true⟩]
    let w : EntryWalk E := ⟨E, by decide⟩
    let acts : List ServeAct := [.serve, .act (.run 0 .none), .act (.run 0 .none),
      .act (.run 0 (.dialed (default, default))), .act (.run 0 (.settled ⟨default, true⟩)),
      .act (.run 0 .none), .act (.run 0 .none), .act (.run 0 .none), .act (.run 0 .none),
      .act (.run 0 .none), .serve, .serve, .serve]
    (exec ⟨default, ["messaging"]⟩ [] (start w.order) acts).isSome ∧
      Manager.upReports ((exec ⟨default, ["messaging"]⟩ [] (start w.order) acts).get
        (by decide)).mgr.statuses = [default] ∧
      (Manager.upReports ((exec ⟨default, ["messaging"]⟩ [] (start w.order) acts).get
          (by decide)).mgr.statuses).Subperm
        (Config.reconnectIds ⟨default, ["messaging"]⟩ E.dedup) :=
  ⟨by decide, by decide, up_reports_from_reconnect _ (Option.eq_some_of_isSome (by decide))⟩

/-! ### `Serve`'s loops end -/

theorem rank_callReturned (pc : ServePc) (t : Nat) (ok : Bool) :
    (pc.callReturned t ok).rank nodes ≤ pc.rank nodes := by
  cases pc <;> simp only [ServePc.callReturned] <;> (try split_ifs) <;> simp [ServePc.rank]

theorem rank_resume (pc : ServePc) (m m' : Manager) (a : Act) :
    (pc.resume m m' a).rank nodes ≤ pc.rank nodes := by
  cases a <;> simp only [ServePc.resume] <;> (try split_ifs) <;>
    first | exact le_rfl | exact rank_callReturned _ _ _

theorem rank_serveStep (h : s.serveStep cfg nodes = some s') : s'.pc.rank nodes < s.pc.rank nodes := by
  unfold Serving.serveStep at h
  split at h <;> (try split at h) <;> (try split at h) <;> (try split at h) <;> cases h <;>
    simp_all [ServePc.rank]
  omega

theorem rank_step {b : ServeAct} (h : s.step cfg nodes b = some s') :
    s'.pc.rank nodes + (if b matches .serve then 1 else 0) ≤ s.pc.rank nodes := by
  cases b with
  | serve => exact rank_serveStep h
  | act a =>
    obtain ⟨-, hpc⟩ := step_act h
    simpa [hpc] using rank_resume s.pc s.mgr s'.mgr a

theorem rank_exec {acts : List ServeAct} (h : s.exec cfg nodes acts = some s') :
    s'.pc.rank nodes + acts.countP (fun b ↦ b matches .serve) ≤ s.pc.rank nodes := by
  induction acts generalizing s with
  | nil => cases h; simp
  | cons b acts ih =>
    obtain ⟨s₁, h₁, h⟩ := Option.bind_eq_some.mp h
    have h₂ := rank_step h₁
    have h₃ := ih h
    cases b <;> simp [List.countP_cons] at h₂ ⊢ <;> omega

/-- Over every schedule with `Serve` from `NewManager` with the entries `E` loaded, `Serve`'s own
goroutine takes at most `2·|E| + |nodes| + 2` steps: `reconnectTransports` and
`createDefaultTransports` go over copies, whatever the manager's other goroutines do to the
table meanwhile, and `Serve` then waits at its accept loops. -/
theorem serve_steps_bounded {acts : List ServeAct} (h : (start E).exec cfg nodes acts = some s) :
    acts.countP (fun b ↦ b matches .serve) ≤ 2 * E.length + nodes.length + 2 := by
  have := rank_exec h
  simp only [start, ServePc.rank] at this
  omega

end Serving

end Dmsg.Transport
