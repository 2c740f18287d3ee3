import Dmsg.Transport.Shutdown
import Dmsg.Transport.Workers

/-!
# One worker per managed transport

`createTransport` and `acceptTransport` store a new managed transport, publish it and start
its `manageTransport` goroutine; the worker re-dials into the same managed transport and only
returns once its done channel has fired.  Over every schedule from `NewManager`, whatever the
factories, the handshakes and the other goroutines do:

* every managed transport has at most one goroutine that runs its worker or is about to start
  it, and one that is installed and not closed has exactly one, so a transport's errors and
  byte counts are never handled twice and never left unhandled;
* every entry of `tm.transports` points to an installed managed transport carrying the entry's
  ID, the transport that `DeleteTransport(id)` closes and `Close` reports.
-/

namespace Dmsg.Transport

/-- The managed transport of the worker that re-dials, if a worker dials. -/
def Dialer.worker : Dialer → Option Nat
  | .create .. => none
  | .redial w => some w.mTr

/-- The managed transport whose worker a goroutine runs or is about to start: the goroutine of
`createTransport` or `acceptTransport` from its insert to its `go`, then the worker, in its
loop, its re-dial and the `DeleteTransport` it calls. -/
def Proc.manages : Proc → Option Nat
  | .publish _ h | .spawn _ h => some h
  | .workerStart w | .workerLoop w | .workerErr w | .workerUpdate w _ => some w.mTr
  | .dialCheck c | .dialing c | .dialHandshake c _ => c.worker
  | .deleteLock _ ret | .deleteClose _ _ ret | .deleteStatus _ _ ret | .deleteClose2 _ _ ret =>
    ret.map (·.mTr)
  | _ => none

namespace Manager

variable {cfg : Config} {s s' : Manager} {t : Nat} {o : Outcome}

/-- A goroutine's step other than the insert and the `go` keeps the managed transport it
manages, or lets it go once its done channel has fired, and never reaches a send on `TrChan`. -/
theorem Moves.manages {p q : Proc} (hm : s.Moves cfg o p q) (hi : ∀ i, p ≠ .insert i)
    (hs : ∀ i k, p ≠ .spawn i k) :
    (q.manages = p.manages ∨ q.manages = none ∧ ∀ k, p.manages = some k → (s.mTrs k).done = true) ∧
      ∀ i k, q = .publish i k → p = .publish i k := by
  cases hm <;> simp_all [Proc.manages, Dialer.worker]

/-- A step of goroutine `t` other than the locked insert and the `go` that starts a worker
installs nothing, starts nothing, moves no other goroutine and adds no entry to the table;
managed transports keep their IDs and stay closed; and `t` keeps the managed transport it
manages, or lets it go once its done channel has fired; `t` reaches no send on `TrChan`. -/
theorem threadStep_keeps (hi : ∀ i, s.threads t ≠ .insert i) (hs : ∀ i k, s.threads t ≠ .spawn i k)
    (h : s.threadStep cfg t o = some s') :
    s'.nextMTr = s.nextMTr ∧ s'.nextThread = s.nextThread ∧ (∀ u ≠ t, s'.threads u = s.threads u) ∧
      (∀ id k, s'.transports.lookup id = some k → s.transports.lookup id = some k) ∧
      (∀ k, (s'.mTrs k).id = (s.mTrs k).id ∧ ((s.mTrs k).done → (s'.mTrs k).done)) ∧
      ((s'.threads t).manages = (s.threads t).manages ∨
        (s'.threads t).manages = none ∧
          ∀ k, (s.threads t).manages = some k → (s.mTrs k).done = true) ∧
      ∀ i k, s'.threads t = .publish i k → s.threads t = .publish i k := by
  have hf := threadStep_frame h
  have hin : (s.threads t).writes.install = false :=
    Bool.eq_false_iff.mpr fun hw ↦ let ⟨i, h'⟩ := Proc.eq_insert_of_install hw; hi i h'
  have hfk : (s.threads t).forks = none :=
    Option.eq_none_iff_forall_not_mem.mpr fun _ hq ↦ let ⟨i, k, h', _⟩ := Proc.eq_spawn_of_forks hq; hs i k h'
  exact ⟨by simp [hf.nextMTr, hin], by simp [hf.nextThread, hfk], fun u hu ↦ hf.threads u hu (.inr hfk),
    hf.lookup hin, fun k ↦ hf.kept k (.inl hin), (threadStep_moves h).manages hi hs⟩

/-- The invariant: goroutine numbers from `nextThread` on are unused; every entry of the table
points to an installed managed transport carrying the entry's ID; the managed transport a
goroutine manages is installed, no two goroutines manage the same one, and one that is
installed and not closed is managed. -/
structure Managed (s : Manager) : Prop where
  idle : ∀ u, s.nextThread ≤ u → s.threads u = .idle
  table : ∀ id k, s.transports.lookup id = some k → k < s.nextMTr ∧ (s.mTrs k).id = id
  installed : ∀ u k, (s.threads u).manages = some k → k < s.nextMTr
  single : ∀ u v k, (s.threads u).manages = some k → (s.threads v).manages = some k → u = v
  live : ∀ k < s.nextMTr, (s.mTrs k).done = false → ∃ u, (s.threads u).manages = some k

theorem managed_init : init.Managed :=
  ⟨fun _ _ ↦ rfl, fun _ _ h ↦ by simp [init] at h, fun _ _ h ↦ by simp [init, Proc.manages] at h,
    fun _ _ _ h ↦ by simp [init, Proc.manages] at h, fun _ hk ↦ absurd hk (Nat.not_lt_zero _)⟩

theorem Managed.manages_nextThread (hm : s.Managed) : (s.threads s.nextThread).manages = none := by
  simp [hm.idle _ le_rfl, Proc.manages]

/-- A call entering the manager starts a goroutine that manages nothing. -/
theorem Managed.fork (hm : s.Managed) {p : Proc} (hp : p.manages = none) : (s.fork p).Managed := by
  have hth : ∀ u k, ((s.fork p).threads u).manages = some k →
      s.threads u = (s.fork p).threads u := fun u k hu ↦ by
      by_cases hun : u = s.nextThread
      · subst hun
        simp [hp] at hu
      · simp [hun]
  refine ⟨fun u hu ↦ ?_, hm.table, fun u k hu ↦ hm.installed u k ((hth u k hu).symm ▸ hu),
    fun u v k hu hv ↦ hm.single u v k ((hth u k hu).symm ▸ hu) ((hth v k hv).symm ▸ hv),
    fun k hk hd ↦ ?_⟩
  · simp only [fork_nextThread] at hu
    simp [show u ≠ s.nextThread by omega, hm.idle u (by omega)]
  · obtain ⟨u, hu⟩ := hm.live k hk hd
    have hun : u ≠ s.nextThread := fun h ↦ by simp [h, hm.manages_nextThread] at hu
    exact ⟨u, by simpa [hun] using hu⟩

/-- The locked insert gives the goroutine the new managed transport, under the entry's ID. -/
theorem Managed.insert (hm : s.Managed) {i : Install} (ht : s.threads t = .insert i) :
    ((s.install i).goto t (.publish i s.nextMTr)).Managed := by
  have htlt : t < s.nextThread := Nat.lt_of_not_le fun hle ↦ by simp [hm.idle t hle] at ht
  have hth : ∀ u ≠ t, ((s.install i).goto t (.publish i s.nextMTr)).threads u = s.threads u :=
    fun u hu ↦ by simp [hu]
  have hold : ∀ u k, (s.threads u).manages = some k → u ≠ t := fun u k hu hut ↦ by
    simp [hut, ht, Proc.manages] at hu
  refine ⟨fun u hu ↦ ?_, fun id k hk ↦ ?_, fun u k hu ↦ ?_, fun u v k hu hv ↦ ?_,
    fun k hk hd ↦ ?_⟩
  · simp only [goto_nextThread, install_nextThread] at hu
    rw [hth u (by omega)]
    exact hm.idle u hu
  · simp only [goto_transports, install_transports] at hk
    by_cases hid : id = i.id
    · subst hid
      rw [AList.lookup_insert] at hk
      cases hk
      simp
    · rw [AList.lookup_insert_ne hid] at hk
      obtain ⟨hlt, hid'⟩ := hm.table id k hk
      simp only [goto_nextMTr, install_nextMTr, goto_mTrs, s.install_mTrs_of_ne i (Nat.ne_of_lt hlt)]
      exact ⟨by omega, hid'⟩
  · simp only [goto_nextMTr, install_nextMTr]
    by_cases hut : u = t
    · subst hut
      simp [Proc.manages] at hu
      omega
    · rw [hth u hut] at hu
      exact Nat.lt_succ_of_lt (hm.installed u k hu)
  · -- the new managed transport is `t`'s alone; the others keep their goroutines
    have hnew : ∀ u, (s.threads u).manages = some s.nextMTr → False :=
      fun u hu ↦ Nat.lt_irrefl _ (hm.installed u _ hu)
    by_cases hut : u = t <;> by_cases hvt : v = t
    · rw [hut, hvt]
    · rw [hut] at hu
      rw [hth v hvt] at hv
      simp [Proc.manages] at hu
      exact (hnew v (hu ▸ hv)).elim
    · rw [hvt] at hv
      rw [hth u hut] at hu
      simp [Proc.manages] at hv
      exact (hnew u (hv ▸ hu)).elim
    · rw [hth u hut] at hu
      rw [hth v hvt] at hv
      exact hm.single u v k hu hv
  · simp only [goto_nextMTr, install_nextMTr] at hk
    by_cases hk' : k = s.nextMTr
    · exact ⟨t, by simp [hk', Proc.manages]⟩
    · simp only [goto_mTrs, s.install_mTrs_of_ne i hk'] at hd
      obtain ⟨u, hu⟩ := hm.live k (by omega) hd
      exact ⟨u, by rw [hth u (hold u k hu)]; exact hu⟩

/-- `go tm.manageTransport(...)` hands the goroutine's managed transport to the new worker. -/
theorem Managed.spawn (hm : s.Managed) {i : Install} {k : Nat} (ht : s.threads t = .spawn i k) :
    ((s.fork (.workerStart ⟨k, i.factory, i.remote, i.public, i.accepted⟩)).goto t .done).Managed := by
  have htlt : t < s.nextThread := Nat.lt_of_not_le fun hle ↦ by simp [hm.idle t hle] at ht
  have hne : t ≠ s.nextThread := Nat.ne_of_lt htlt
  have htk : (s.threads t).manages = some k := by simp [ht, Proc.manages]
  -- the goroutine that managed the same transport before the step
  have hpre : ∀ u k', (((s.fork (.workerStart ⟨k, i.factory, i.remote, i.public, i.accepted⟩)).goto
      t .done).threads u).manages = some k' →
        u ≠ t ∧ (s.threads (if u = s.nextThread then t else u)).manages = some k' := by
    intro u k' hu
    by_cases hut : u = t
    · simp [hut, Proc.manages] at hu
    · by_cases hun : u = s.nextThread
      · simp [hun, Ne.symm hne, Proc.manages] at hu
        exact ⟨hut, by simp [hun, htk, hu]⟩
      · simp [hut, hun] at hu
        exact ⟨hut, by simp [hun, hu]⟩
  refine ⟨fun u hu ↦ ?_, by simpa using hm.table, fun u k' hu ↦ ?_, fun u v k' hu hv ↦ ?_,
    fun k' hk hd ↦ ?_⟩
  · simp only [goto_nextThread, fork_nextThread] at hu
    simp [show u ≠ t by omega, show u ≠ s.nextThread by omega, hm.idle u (by omega)]
  · simpa using hm.installed _ k' (hpre u k' hu).2
  · obtain ⟨hut, hu'⟩ := hpre u k' hu
    obtain ⟨hvt, hv'⟩ := hpre v k' hv
    have := hm.single _ _ k' hu' hv'
    split_ifs at this <;> simp_all
  · obtain ⟨u, hu⟩ := hm.live k' (by simpa using hk) (by simpa using hd)
    by_cases hut : u = t
    · rw [hut, htk] at hu
      cases hu
      exact ⟨s.nextThread, by simp [Ne.symm hne, Proc.manages]⟩
    · have hun : u ≠ s.nextThread := fun h ↦ by simp [h, hm.manages_nextThread] at hu
      exact ⟨u, by simpa [hut, hun] using hu⟩

/-- A step that installs nothing and starts nothing: `t` keeps its managed transport or lets it
go once it is closed, no other goroutine moves, no entry is added, and installed managed
transports keep their IDs and stay closed. -/
theorem Managed.of_step (hm : s.Managed) (htlt : t < s.nextThread)
    (hn : s'.nextMTr = s.nextMTr) (hth : s'.nextThread = s.nextThread)
    (hu : ∀ u ≠ t, s'.threads u = s.threads u)
    (htr : ∀ id k, s'.transports.lookup id = some k → s.transports.lookup id = some k)
    (hmt : (s'.threads t).manages = (s.threads t).manages ∨
      (s'.threads t).manages = none ∧ ∀ k, (s.threads t).manages = some k → (s.mTrs k).done = true)
    (hmtr : ∀ k, (s'.mTrs k).id = (s.mTrs k).id ∧ ((s.mTrs k).done → (s'.mTrs k).done)) :
    s'.Managed := by
  have hpre : ∀ u k, (s'.threads u).manages = some k → (s.threads u).manages = some k := by
    intro u k h
    by_cases hut : u = t
    · subst hut
      rcases hmt with hmt | ⟨hmt, -⟩ <;> rw [hmt] at h
      · exact h
      · cases h
    · rwa [hu u hut] at h
  refine ⟨fun u h ↦ ?_, fun id k hk ↦ ?_, fun u k h ↦ hn ▸ hm.installed u k (hpre u k h),
    fun u v k hu hv ↦ hm.single u v k (hpre u k hu) (hpre v k hv), fun k hk hd ↦ ?_⟩
  · rw [hu u (by omega)]
    exact hm.idle u (hth ▸ h)
  · obtain ⟨hlt, hid⟩ := hm.table id k (htr id k hk)
    exact ⟨hn ▸ hlt, (hmtr k).1.trans hid⟩
  · rw [hn] at hk
    have hd' : (s.mTrs k).done = false :=
      Bool.eq_false_iff.mpr fun h ↦ by simp [(hmtr k).2 h] at hd
    obtain ⟨u, h⟩ := hm.live k hk hd'
    by_cases hut : u = t
    · subst hut
      rcases hmt with hmt | ⟨-, hdone⟩
      · exact ⟨u, hmt.trans h⟩
      · simp [hdone k h] at hd'
    · exact ⟨u, by rw [hu u hut]; exact h⟩

theorem Managed.threadStep (hm : s.Managed) (h : s.threadStep cfg t o = some s') : s'.Managed := by
  have hidle : s.threads t ≠ .idle := fun hpc ↦ by
    unfold Manager.threadStep at h
    rw [hpc] at h
    cases h
  have htlt : t < s.nextThread := Nat.lt_of_not_le fun hle ↦ hidle (hm.idle t hle)
  cases hpc : s.threads t
  case insert i =>
    unfold Manager.threadStep at h
    rw [hpc] at h
    cases h
    exact hm.insert hpc
  case spawn i k =>
    unfold Manager.threadStep at h
    rw [hpc] at h
    cases h
    exact hm.spawn hpc
  all_goals
    obtain ⟨hn, hth, hu, htr, hmtr, hmt, -⟩ := threadStep_keeps (by simp [hpc]) (by simp [hpc]) h
    exact hm.of_step htlt hn hth hu htr hmt hmtr

theorem Managed.step {a : Act} (hm : s.Managed) (h : s.step cfg a = some s') : s'.Managed := by
  by_cases hp : s.panicked
  · simp [Manager.step, hp] at h
  rw [Manager.step.eq_def, if_neg hp] at h
  cases a with
  | run t o => exact hm.threadStep h
  | recvTrChan =>
    dsimp only at h
    split at h <;> cases h
    exact ⟨hm.idle, hm.table, hm.installed, hm.single, hm.live⟩
  | serve f =>
    dsimp only at h
    split at h <;> cases h
    exact hm.fork rfl
  | create _ _ _ | delete _ | close =>
    cases h
    exact hm.fork rfl

theorem Managed.exec (hm : s.Managed) {acts : List Act} (h : s.exec cfg acts = some s') :
    s'.Managed := by
  induction acts generalizing s with
  | nil =>
    cases h
    exact hm
  | cons a acts ih =>
    obtain ⟨s₁, h₁, h⟩ := Option.bind_eq_some.mp h
    exact ih (hm.step h₁) h

/-- Over every schedule from `NewManager`, no two goroutines run the worker of one managed
transport or are about to start it, and a managed transport that is installed and not closed
has such a goroutine: each transport's errors and counts go to one worker, through re-dials
and deletes, until its done channel fires. -/
theorem one_worker_per_transport {acts : List Act} (h : init.exec cfg acts = some s) :
    (∀ u v k, (s.threads u).manages = some k → (s.threads v).manages = some k → u = v) ∧
      ∀ k < s.nextMTr, (s.mTrs k).done = false → ∃ u, (s.threads u).manages = some k :=
  ⟨(managed_init.exec h).single, (managed_init.exec h).live⟩

/-- A dialed transport and its running worker: goroutine 1 alone manages managed transport 0. -/
theorem one_worker_per_transport_dial :
    let acts : List Act := [.create default "messaging" true, .run 0 .none, .run 0 .none,
      .run 0 (.dialed (default, default)), .run 0 (.settled ⟨default, true⟩), .run 0 .none,
      .run 0 .none, .run 0 .none, .run 0 .none, .run 0 .none, .run 1 .none]
    (exec ⟨default, ["messaging"]⟩ init acts).isSome ∧
      (∀ u v k, (((exec ⟨default, ["messaging"]⟩ init acts).get (by decide)).threads u).manages =
          some k → (((exec ⟨default, ["messaging"]⟩ init acts).get (by decide)).threads v).manages =
          some k → u = v) ∧
      ∀ k < ((exec ⟨default, ["messaging"]⟩ init acts).get (by decide)).nextMTr,
        (((exec ⟨default, ["messaging"]⟩ init acts).get (by decide)).mTrs k).done = false →
        ∃ u, (((exec ⟨default, ["messaging"]⟩ init acts).get (by decide)).threads u).manages =
          some k :=
  ⟨by decide, one_worker_per_transport (Option.eq_some_of_isSome (by decide))⟩

/-- Over every schedule from `NewManager`, every entry of `tm.transports` points to an
installed managed transport whose ID is the entry's key. -/
theorem transports_consistent {acts : List Act} (h : init.exec cfg acts = some s) {id : UUID}
    {k : Nat} (hk : s.transports.lookup id = some k) : k < s.nextMTr ∧ (s.mTrs k).id = id :=
  (managed_init.exec h).table id k hk

end Manager

end Dmsg.Transport
