import SqliteAccess.Proofs.Session.Holding

/-
  The use of the engine is counted.

  Every deed of a session leaves the engine as it is, or asks
  it once to start or to stop.  It is asked to start only
  when it is down, and to stop only when it is up and no
  connection exists.  What it answers tells whether it is up
  then.

  Key definitions include:
    * `Deed.Turns`
    * `World.Powered`
    * `Session.LibraryDiscipline`

  The use of the engine is characterized by:
    * `Deed.Measured.turns`
    * `Deed.Turns.powered`
    * `Session.library_counted`
-/

namespace SqliteAccess

variable {E : Engine}

open Quiet Attempt

------------------------------------------------------------
-- Turning the Engine On and Off
------------------------------------------------------------

/-
  What a deed does to the engine: nothing, or it is asked to
  start or to stop, and does so or refuses.
-/
inductive Deed.Turns (d : Deed E) : Prop
  | idle
      (hEvents : ∀ e ∈ d.events,
        e.call.effect? ≠ some .power)
      (hSame :
        d.after.world.library.started =
          d.before.world.library.started)
  | start {code events}
      (hEvents : d.events = events ++ [⟨.startup, code⟩])
      (hOther : ∀ e ∈ events, e.call.effect? ≠ some .power)
      (hDown : d.before.world.library.started = false)
      (hAnswer :
        d.after.world.library.started =
          decide (code = ResultCode.ok))
      (hCount : code ≠ ResultCode.ok →
        d.after.world.library.holders =
          d.before.world.library.holders)
  | stop {code}
      (hAct : d.act = .library .stop ∨
        d.act = .library .release)
      (hEvents : d.events = [⟨.shutdown, code⟩])
      (hUp : d.before.world.library.started = true)
      (hAnswer :
        d.after.world.library.started =
          decide (code ≠ ResultCode.ok))
      (hFree : d.after.world.library.holders = 0)
      (hCount :
        d.after.world.library.holders =
          d.before.world.library.holders - d.act.surplus)

namespace Deed

variable {d : Deed E}

/- The calls of a deed are those that it added. -/
theorem events_eq
    {l : Trace}
    (hTrace :
      d.after.world.trace = l ++ d.before.world.trace) :
    d.events = l :=
  List.append_cancel_right (d.trace_after.symm.trans hTrace)

/- A deed that calls nothing leaves the engine. -/
theorem turns_of_same
    (hTrace : d.after.world.trace = d.before.world.trace)
    (hSame :
      d.after.world.library.started =
        d.before.world.library.started) :
    d.Turns := by
  have hNone : d.events = [] := events_eq hTrace
  refine .idle ?_ hSame
  rw [hNone]
  exact nofun

/- What has nothing to do with the engine leaves it. -/
theorem turns_of_affects
    {A : Effect → Prop}
    (hPower : ¬ A .power)
    (hAffects : d.act.perform.Affects A) :
    d.Turns := by
  have hChanges := hAffects d.before
  rcases hChanges.heard with ⟨l, hTrace, hHeard⟩
  refine .idle ?_ ?_
  · rw [events_eq hTrace]
    intro e hMember hIs
    exact hPower (hHeard e hMember _ hIs)
  · exact congrArg _ (hChanges.keeps_library hPower)

/- A deed that does to the engine what starting it does. -/
theorem turns_of_starts
    {r : Except Failure Unit × Session E}
    (hStarts : Library.Starts d.before r)
    (hTrace : d.after.world.trace = r.2.world.trace)
    (hStarted :
      d.after.world.library.started =
        r.2.world.library.started)
    (hCount : r.1.isOk = false →
      d.after.world.library.holders =
        d.before.world.library.holders) :
    d.Turns := by
  cases hStarts with
  | running hResult hUp hStill hSame =>
      exact turns_of_same (hTrace.trans hSame)
        (hStarted.trans (hStill.trans hUp.symm))
  | @refused code e hCode hResult hDown hStill hAdded =>
      have hEvents : d.events = [⟨.startup, code⟩] :=
        events_eq (hTrace.trans hAdded)
      refine .start (hEvents.trans (List.nil_append _).symm)
        nofun hDown ?_ ?_
      · rw [hStarted, hStill, decide_eq_false hCode]
      · intro _
        apply hCount
        rw [hResult]
        rfl
  | @done code version hCode hResult hDown hUp hAdded =>
      have hEvents : d.events =
          [⟨.version, version⟩] ++ [⟨.startup, code⟩] :=
        events_eq (hTrace.trans hAdded)
      refine .start hEvents ?_ hDown ?_ ?_
      · simp [Call.effect?]
      · rw [hStarted, hUp, decide_eq_true hCode]
      · exact fun hNot => absurd hCode hNot

/- A deed that does to the engine what stopping it does. -/
theorem turns_of_stops
    {s : Session E}
    (hAct : d.act = .library .stop ∨
      d.act = .library .release)
    (hTrace : s.world.trace = d.before.world.trace)
    (hStarted :
      s.world.library.started =
        d.before.world.library.started)
    (hCount :
      s.world.library.holders =
        d.before.world.library.holders - d.act.surplus)
    (hAfter : d.after = (Library.stop s).2) :
    d.Turns := by
  rcases Library.stop_stops s with ⟨hStops, hHolders⟩
  rw [← hAfter] at hHolders
  have hEvents : ∀ {e : Event},
      d.after.world.trace = e :: s.world.trace →
        d.events = [e] := by
    intro e hAdded
    rw [hTrace] at hAdded
    exact events_eq hAdded
  have hNone : s.world.library.holders = 0 →
      d.after.world.library.holders = 0 := fun hFree =>
    hHolders.trans hFree
  cases hStops with
  | down hResult hDown hStill hSame =>
      rw [← hAfter] at hStill hSame
      exact turns_of_same (hSame.trans hTrace)
        (hStill.trans (hDown.symm.trans hStarted))
  | deferred hResult hUp hHeld hStill hSame =>
      rw [← hAfter] at hStill hSame
      exact turns_of_same (hSame.trans hTrace)
        (hStill.trans (hUp.symm.trans hStarted))
  | refused hCode hResult hUp hFree hStill hAdded =>
      rw [← hAfter] at hStill hAdded
      refine .stop hAct (hEvents hAdded)
        (hStarted.symm.trans hUp) ?_ (hNone hFree)
        (hHolders.trans hCount)
      rw [hStill, decide_eq_true hCode]
  | done hCode hResult hUp hFree hDown hAdded =>
      rw [← hAfter] at hDown hAdded
      refine .stop hAct (hEvents hAdded)
        (hStarted.symm.trans hUp) ?_ (hNone hFree)
        (hHolders.trans hCount)
      rw [hDown, decide_eq_false (not_not.mpr hCode)]

/- A deed asks the engine at most once to start or to stop. -/
theorem turns (d : Deed E) : d.Turns := by
  rcases d with ⟨act, s⟩
  cases act with
  | guard call =>
      exact turns_of_affects
        (A := fun f => f = .compile ∨ f = .guard) (by simp)
        (call.perform_affects (.inl rfl) (.inr rfl))
  | connection call =>
      exact turns_of_affects
        (A := fun f => f = .compile ∨ f = .connect) (by simp)
        (call.perform_affects (.inl rfl) (.inr rfl))
  | other x hOther =>
      exact turns_of_affects (by simp) hOther
  | library call =>
      cases call with
      | start =>
          rcases Library.start_starts s with ⟨hStarts, hCount⟩
          exact turns_of_starts hStarts rfl rfl fun _ => hCount
      | hold =>
          rcases Library.start_starts s with ⟨hStarts, hCount⟩
          have hAfter := (Library.hold_run s).2
          refine turns_of_starts hStarts ?_ ?_ fun hError => ?_
          · show (Library.hold.run s).2.world.trace = _
            rw [hAfter]
            split <;> rfl
          · show (Library.hold.run s).2.world.library.started =
              _
            rw [hAfter]
            split <;> rfl
          · show (Library.hold.run s).2.world.library.holders =
              _
            rw [hAfter, hError]
            exact hCount
      | stop =>
          exact turns_of_stops (.inl rfl) rfl rfl rfl rfl
      | release =>
          have hAfter := Library.release_run s
          by_cases hDue :
            (Library.oneLess s.world).library.holders = 0 ∧
              (Library.oneLess s.world).library.shutdownPending
          · rw [if_pos hDue] at hAfter
            exact turns_of_stops
              (s := { s with world := Library.oneLess s.world })
              (.inr rfl) rfl rfl rfl hAfter
          · rw [if_neg hDue] at hAfter
            exact turns_of_same
              (congrArg (·.world.trace) hAfter)
              (congrArg (·.world.library.started) hAfter)

/-
  A deed that asked the engine to stop did so when no
  connection was left and all databases had been released.
-/
theorem Measured.free
    (hMeasured : d.Measured)
    (hAct : d.act = .library .stop ∨
      d.act = .library .release)
    (hFree : d.after.world.library.holders = 0)
    (hCount :
      d.after.world.library.holders =
        d.before.world.library.holders - d.act.surplus) :
    d.before.world.housing.living = ∅ ∧
      d.after.world.trace.AllReleased := by
  have hHoused :
      d.after.world.housing = d.before.world.housing := by
    obtain ⟨call, hCall⟩ : ∃ call, d.act = .library call := by
      rcases hAct with hIs | hIs
      · exact ⟨_, hIs⟩
      · exact ⟨_, hIs⟩
    unfold Deed.after
    rw [hCall]
    exact (call.perform_affects (A := (· = .power)) rfl
      d.before).keeps_housing (by simp)
  have hNone : d.before.world.housing.living = ∅ := by
    rw [hFree, hMeasured.held.counted,
      Nat.add_sub_cancel] at hCount
    exact Finset.card_eq_zero.mp hCount.symm
  exact ⟨hNone,
    hMeasured.settled hAct (hHoused ▸ hNone)⟩

/- The engine is asked to start only when it is down. -/
theorem starts_down
    {code : ResultCode}
    (hMember : ⟨.startup, code⟩ ∈ d.events) :
    d.before.world.library.started = false ∧
      d.after.world.library.started =
        decide (code = ResultCode.ok) ∧
      (code ≠ ResultCode.ok →
        d.after.world.library.holders =
          d.before.world.library.holders) := by
  cases d.turns with
  | idle hEvents hSame => exact absurd rfl (hEvents _ hMember)
  | start hEvents hOther hDown hAnswer hCount =>
      rw [hEvents] at hMember
      rcases List.mem_append.mp hMember with hBefore | hIs
      · exact absurd rfl (hOther _ hBefore)
      · cases List.mem_singleton.mp hIs
        exact ⟨hDown, hAnswer, hCount⟩
  | stop hAct hEvents =>
      rw [hEvents] at hMember
      cases List.mem_singleton.mp hMember

/-
  The engine is asked to stop only when it is up and there is
  no connection.
-/
theorem Measured.stops_free
    {code : ResultCode}
    (hMeasured : d.Measured)
    (hMember : ⟨.shutdown, code⟩ ∈ d.events) :
    d.before.world.library.started = true ∧
      d.before.world.housing.living = ∅ ∧
      d.after.world.library.started =
        decide (code ≠ ResultCode.ok) ∧
      d.after.world.library.holders =
        d.before.world.library.holders - d.act.surplus := by
  cases d.turns with
  | idle hEvents hSame => exact absurd rfl (hEvents _ hMember)
  | start hEvents hOther =>
      rw [hEvents] at hMember
      rcases List.mem_append.mp hMember with hBefore | hIs
      · exact absurd rfl (hOther _ hBefore)
      · cases List.mem_singleton.mp hIs
  | stop hAct hEvents hUp hAnswer hFree hCount =>
      rw [hEvents] at hMember
      cases List.mem_singleton.mp hMember
      exact ⟨hUp, (hMeasured.free hAct hFree hCount).1,
        hAnswer, hCount⟩

end Deed

------------------------------------------------------------
-- Switches of a Session
------------------------------------------------------------

/-
  Whether the engine was started and stopped in order, and it
  is known whether it is up.
-/
structure World.Powered (w : World E) : Prop where
  switched : w.trace.Switched
  up : w.trace.isUp = w.library.started

/- A stop switches nothing if all databases were released. -/
theorem Trace.AllReleased.before_shutdown
    {t : Trace}
    {code : ResultCode}
    (hReleased : AllReleased (⟨.shutdown, code⟩ :: t)) :
    AllReleased t := by
  intro path flags db answer hOpened hCreated hCode
  obtain ⟨e, hMember, hReleases⟩ := hReleased path flags db
    answer (List.mem_cons_of_mem _ hOpened) hCreated hCode
  rcases List.mem_cons.mp hMember with rfl | hEarlier
  · cases hReleases
  · exact ⟨e, hEarlier, hReleases⟩

/- A measured deed switches the engine in order. -/
theorem Deed.Measured.powered
    {d : Deed E}
    (hMeasured : d.Measured)
    (hPowered : d.before.world.Powered) :
    d.after.world.Powered := by
  cases d.turns with
  | idle hEvents hSame =>
      constructor
      · rw [d.trace_after]
        exact hPowered.switched.append hEvents
      · rw [d.trace_after, Trace.isUp_append hEvents,
          hPowered.up, hSame]
  | @start code events hEvents hOther hDown hAnswer hCount =>
      have hTrace : d.after.world.trace =
          events ++ ⟨.startup, code⟩ ::
            d.before.world.trace := by
        rw [d.trace_after, hEvents, List.append_assoc]
        rfl
      have hWas := hPowered.up.trans hDown
      constructor
      · rw [hTrace]
        exact Trace.Switched.append hOther
          (Trace.each_cons.mpr
            ⟨⟨fun _ => hWas, nofun⟩, hPowered.switched⟩)
      · rw [hTrace, Trace.isUp_append hOther,
          Trace.isUp_startup, hWas, hAnswer]
        split <;> simp_all
  | @stop code hAct hEvents hUp hAnswer hFree hCount =>
      have hTrace : d.after.world.trace =
          ⟨.shutdown, code⟩ :: d.before.world.trace := by
        rw [d.trace_after, hEvents]
        rfl
      have hReleased := (hMeasured.free hAct hFree hCount).2
      rw [hTrace] at hReleased
      have hWas := hPowered.up.trans hUp
      constructor
      · rw [hTrace]
        exact Trace.each_cons.mpr ⟨⟨nofun, fun _ =>
          ⟨hWas, hReleased.before_shutdown⟩⟩,
            hPowered.switched⟩
      · rw [hTrace, Trace.isUp_shutdown, hWas, hAnswer]
        split <;> simp_all

namespace Chained

variable {s s' : Session E} {l : List (Deed E)}

/- Measured deeds switch the engine in order. -/
theorem powered
    (hMeasured : ∀ d ∈ l, d.Measured)
    (hPowered : s.world.Powered)
    (hChained : Chained s l s') :
    s'.world.Powered := by
  induction l generalizing s' with
  | nil =>
      cases hChained
      exact hPowered
  | cons d earlier ih =>
      have hBefore := ih (fun d hMember =>
        hMeasured d (List.mem_cons_of_mem _ hMember))
        hChained.1
      rw [← hChained.2]
      exact (hMeasured d (List.mem_cons_self ..)).powered
        hBefore

/- Before each deed the engine was switched in order. -/
theorem powered_before
    {d : Deed E}
    (hMeasured : ∀ d ∈ l, d.Measured)
    (hPowered : s.world.Powered)
    (hChained : Chained s l s')
    (hMember : d ∈ l) :
    d.before.world.Powered := by
  rcases List.append_of_mem hMember with
    ⟨later, earlier, hSplit⟩
  subst hSplit
  refine powered (fun d' hEarlier => ?_) hPowered
    hChained.split.1
  exact hMeasured d' (List.mem_append_right _
    (List.mem_cons_of_mem _ hEarlier))

/- The calls of a session are those of its deeds. -/
theorem trace
    (hChained : Chained s l s') :
    s'.world.trace =
      (l.map Deed.events).flatten ++ s.world.trace := by
  induction l generalizing s' with
  | nil =>
      cases hChained
      rfl
  | cons d earlier ih =>
      rw [← hChained.2, d.trace_after, ih hChained.1]
      simp

end Chained

------------------------------------------------------------
-- Whole Sessions
------------------------------------------------------------

namespace Session

variable {s : Session E}

/- All deeds of a session are measured. -/
theorem journal_measured
    (hAccounted : s.Accounted)
    (ops : List Operation) :
    (∀ d ∈ s.journal ops, d.Measured) ∧
      (s.runAll ops).2.Accounted := by
  induction ops generalizing s with
  | nil =>
      exact ⟨(dismantlePlan_obeys hAccounted).1, hAccounted⟩
  | cons op r ih =>
      rcases op.plan_obeys hAccounted with ⟨hFirst, hNext⟩
      rw [Operation.plan_last] at hNext
      rcases ih hNext with ⟨hRest, hEnd⟩
      refine ⟨fun d hMember => ?_, hEnd⟩
      rcases List.mem_append.mp hMember with hLater | hNow
      · exact hRest d hLater
      · exact hFirst d hNow

/- At the start nothing is held and nothing runs. -/
theorem start_accounted
    (engine : E.State)
    (patience : Nat)
    (log : Log) :
    (start engine patience log : Session E).Accounted := by
  refine ⟨⟨⟨?_, ?_, ?_⟩, rfl, nofun⟩, [],
    start_sound engine patience log⟩
  · rintro (_ | _) c hSlot <;> cases hSlot
  · rintro (_ | _) m c hSlot <;> cases hSlot
  · intro c hMember
    rw [World.mem_living] at hMember
    cases hMember

/- Stopping tells whether the engine is down. -/
theorem run_stop (s : Session E) :
    (s.run (.library .stop)).1 =
      .ok (.flag
        (! (s.run
          (.library .stop)).2.world.library.started)) := by
  have hResult := (Library.stop_stops s).1.result
  show Except.ok (Reply.flag (Library.stop s).1) = _
  rw [hResult]
  rfl

/- At its end nothing holds the library. -/
theorem dismantle_holders
    (hAccounted : s.Accounted) :
    s.dismantle.world.library.holders = 0 := by
  rcases hAccounted.2 with ⟨h, hSound⟩
  have hGone := (dismantle_steps hSound).2
  have hHeld : s.dismantle.world.Held 0 := by
    rw [← dismantlePlan_last]
    exact (dismantlePlan_obeys hAccounted).2.1
  have hNone : s.dismantle.world.housing.living = ∅ := by
    apply Finset.eq_empty_of_forall_notMem
    intro c hMember
    rw [World.mem_living, Table.contains, hGone c] at hMember
    cases hMember
  rw [hHeld.counted, hNone]
  rfl

/-
  How a session that carries out operations, and is destroyed
  then, uses the engine:

    * `counted`: between operations every connection holds
      the library once, and it runs while it is held.
    * `reply`: who stops the library is told whether it is
      down then.
    * `during`: inside of an operation there is one holder
      more while a connection is made or goes away.
    * `given`: only what is held is given back.
    * `known`: the library knows whether the engine is up.
    * `starting`: the engine is asked to start when it is
      down; if it refuses, nothing has changed.
    * `stopping`: it is asked to stop when it is up and no
      connection exists; if it refuses, it is still up, and
      the count is what it would be otherwise.
    * `whole`, `switched`: no call of the session is made but
      by its deeds, and the engine is stopped only when every
      database that was opened has been released.
    * `alternating`, `first`: starts and stops that succeed
      alternate, and the first one is a start.
    * `ended`: at the end nothing holds the library.
-/
structure LibraryDiscipline
    (s : Session E)
    (ops : List Operation) : Prop where
  counted : ∀ done, done <+: ops →
    (s.runAll done).2.world.Held 0
  reply : ∀ done, done <+: ops →
    ((s.runAll done).2.run (.library .stop)).1 =
      .ok (.flag
        (! ((s.runAll done).2.run
          (.library .stop)).2.world.library.started))
  during : ∀ d ∈ s.journal ops,
    d.before.world.Held d.act.surplus
  given : ∀ d ∈ s.journal ops, d.act = .library .release →
    0 < d.before.world.library.holders
  known : ∀ d ∈ s.journal ops,
    d.before.world.trace.isUp =
        d.before.world.library.started ∧
      d.after.world.trace.isUp =
        d.after.world.library.started
  starting : ∀ d ∈ s.journal ops, ∀ code,
    ⟨.startup, code⟩ ∈ d.events →
      d.before.world.library.started = false ∧
        d.after.world.library.started =
          decide (code = ResultCode.ok) ∧
        (code ≠ ResultCode.ok →
          d.after.world.library.holders =
            d.before.world.library.holders)
  stopping : ∀ d ∈ s.journal ops, ∀ code,
    ⟨.shutdown, code⟩ ∈ d.events →
      d.before.world.library.started = true ∧
        d.before.world.housing.living = ∅ ∧
        d.after.world.library.started =
          decide (code ≠ ResultCode.ok) ∧
        d.after.world.library.holders =
          d.before.world.library.holders - d.act.surplus
  whole :
    (s.runAll ops).2.dismantle.world.trace =
      ((s.journal ops).map Deed.events).flatten
  switched : (s.runAll ops).2.dismantle.world.trace.Switched
  alternating :
    (s.runAll ops).2.dismantle.world.trace.switches.IsChain
      (· ≠ ·)
  first : ∀ b,
    (s.runAll ops).2.dismantle.world.trace.switches.getLast?
      = some b → b = true
  ended :
    (s.runAll ops).2.dismantle.world.library.holders = 0

/- A session that starts without connections is disciplined. -/
theorem libraryDiscipline_of_accounted
    (hAccounted : s.Accounted)
    (hPowered : s.world.Powered)
    (hTrace : s.world.trace = [])
    (ops : List Operation) :
    s.LibraryDiscipline ops := by
  have hChained := journal_chained s ops
  have hJournal := journal_measured hAccounted ops
  have hMeasured := hJournal.1
  have hFinal := hChained.powered hMeasured hPowered
  have hAlternates := hFinal.switched.alternates
  constructor
  case counted =>
    exact fun done _ => (journal_measured hAccounted done).2.1
  case reply => exact fun done _ => run_stop _
  case during => exact fun d hMember => (hMeasured d hMember).held
  case given =>
    intro d hMember hAct
    have hHeld := (hMeasured d hMember).held.counted
    rw [hAct] at hHeld
    rw [hHeld]
    exact Nat.succ_pos _
  case known =>
    intro d hMember
    have hBefore :=
      hChained.powered_before hMeasured hPowered hMember
    exact ⟨hBefore.up,
      ((hMeasured d hMember).powered hBefore).up⟩
  case starting =>
    exact fun d _ code hEvent => d.starts_down hEvent
  case stopping =>
    exact fun d hMember code hEvent =>
      (hMeasured d hMember).stops_free hEvent
  case whole =>
    rw [hChained.trace, hTrace, List.append_nil]
  case switched => exact hFinal.switched
  case alternating => exact hAlternates.1
  case first => exact hAlternates.2
  case ended => exact dismantle_holders hJournal.2

/-
  Whatever the engine answers and whatever the operations
  are, as many connections hold the library as exist, and it
  is started and stopped in order.
-/
theorem library_counted
    (engine : E.State)
    (patience : Nat)
    (log : Log)
    (ops : List Operation) :
    Chained (start engine patience log)
        ((start engine patience log).journal ops)
        ((start engine patience log).runAll
          ops).2.dismantle ∧
      (start engine patience log).LibraryDiscipline ops :=
  ⟨journal_chained _ ops,
    libraryDiscipline_of_accounted
      (start_accounted engine patience log)
      ⟨Trace.each_nil, rfl⟩ rfl ops⟩

end Session

end SqliteAccess
