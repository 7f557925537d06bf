import Mathlib.Data.List.Chain
import SqliteAccess.Proofs.Session.Discipline
import SqliteAccess.Proofs.Session.Effects
import SqliteAccess.Proofs.Session.Running

/-
  Starting and stopping the engine.

  The engine is started only when it is down, and stopped
  only when it is up and every database that was opened has
  been released.  Starts and stops that succeed alternate
  therefore.

  Key definitions include:
    * `Trace.switches`
    * `Trace.isUp`
    * `Trace.Switched`
    * `Library.Starts`
    * `Library.Stops`

  The calls are characterized by:
    * `Trace.Switched.alternates`
    * `Library.start_starts`
    * `Library.stop_stops`
    * `Library.hold_run`
    * `Library.release_run`
-/

namespace SqliteAccess

variable {E : Engine}

open Quiet Attempt

------------------------------------------------------------
-- Switches
------------------------------------------------------------

/-
  Whether a call that succeeded has started the engine, or
  has stopped it.
-/
def Event.switches? : Event → Option Bool
  | ⟨.startup, code⟩ =>
      if code = ResultCode.ok then some true else none
  | ⟨.shutdown, code⟩ =>
      if code = ResultCode.ok then some false else none
  | _ => none

namespace Trace

/- The starts and stops that succeeded, the latest first. -/
def switches (t : Trace) : List Bool :=
  t.filterMap Event.switches?

/- Whether the engine is up: it was started last. -/
def isUp (t : Trace) : Bool :=
  t.switches.head?.getD false

/- Whether every database that was opened was released. -/
def AllReleased (t : Trace) : Prop :=
  ∀ path flags db answer,
    ⟨.openDatabase path flags db, answer⟩ ∈ t →
      answer.created → answer.code = ResultCode.ok →
        ∃ e ∈ t, e.releases db = true

/-
  Whether the engine was started only when it was down, and
  stopped only when it was up and every database that was
  opened had been released.
-/
def Switched : Trace → Prop :=
  Each fun earlier e =>
    (e.call = .startup → isUp earlier = false) ∧
      (e.call = .shutdown →
        isUp earlier = true ∧ AllReleased earlier)

variable {e : Event} {l t : Trace}

/- A call that neither starts nor stops switches nothing. -/
theorem switches_append
    (hOther : ∀ e ∈ l, e.call.effect? ≠ some .power) :
    (l ++ t).switches = t.switches := by
  have hNone : l.filterMap Event.switches? = [] := by
    apply List.filterMap_eq_nil_iff.mpr
    rintro ⟨call, answer⟩ hMember
    have hCall := hOther _ hMember
    cases call <;> first | rfl | exact absurd rfl hCall
  unfold switches
  rw [List.filterMap_append, hNone, List.nil_append]

theorem isUp_append
    (hOther : ∀ e ∈ l, e.call.effect? ≠ some .power) :
    (l ++ t).isUp = t.isUp := by
  unfold isUp
  rw [switches_append hOther]

/- A start that succeeds is the latest switch. -/
theorem isUp_startup (code : ResultCode) :
    isUp (⟨.startup, code⟩ :: t) =
      if code = ResultCode.ok then true else t.isUp := by
  by_cases hCode : code = ResultCode.ok <;>
    simp [isUp, switches, Event.switches?, hCode]

/- A stop that succeeds is the latest switch. -/
theorem isUp_shutdown (code : ResultCode) :
    isUp (⟨.shutdown, code⟩ :: t) =
      if code = ResultCode.ok then false else t.isUp := by
  by_cases hCode : code = ResultCode.ok <;>
    simp [isUp, switches, Event.switches?, hCode]

theorem Switched.append
    (hOther : ∀ e ∈ l, e.call.effect? ≠ some .power)
    (hSwitched : t.Switched) :
    (l ++ t).Switched := by
  induction l with
  | nil => exact hSwitched
  | cons e r ih =>
      have hCall := hOther e (List.mem_cons_self ..)
      refine each_cons.mpr ⟨⟨fun hIs => ?_, fun hIs => ?_⟩,
        ih fun e hMember =>
          hOther e (List.mem_cons_of_mem _ hMember)⟩
      · rw [hIs] at hCall
        exact absurd rfl hCall
      · rw [hIs] at hCall
        exact absurd rfl hCall

/-
  Starts and stops that succeeded alternate, and the first of
  them is a start.
-/
theorem Switched.alternates
    (hSwitched : t.Switched) :
    t.switches.IsChain (· ≠ ·) ∧
      ∀ b, t.switches.getLast? = some b → b = true := by
  induction t with
  | nil => exact ⟨.nil, nofun⟩
  | cons e t ih =>
      rcases each_cons.mp hSwitched with
        ⟨⟨hStarting, hStopping⟩, hEarlier⟩
      rcases ih hEarlier with ⟨hChain, hFirst⟩
      have hNext : ∀ b, e.switches? = some b →
          isUp t = ! b := by
        rcases e with ⟨call, answer⟩
        intro b hIs
        cases call <;> simp only [Event.switches?] at hIs <;>
          try cases hIs
        case startup =>
          split at hIs <;> cases hIs
          exact hStarting rfl
        case shutdown =>
          split at hIs <;> cases hIs
          exact (hStopping rfl).1
      have hSwitches : switches (e :: t) =
          e.switches?.toList ++ switches t := by
        cases hIs : e.switches? <;> simp [switches, hIs]
      rw [hSwitches]
      cases hIs : e.switches? with
      | none => exact ⟨hChain, hFirst⟩
      | some b =>
          have hUp := hNext b hIs
          simp only [Option.toList_some, List.singleton_append]
          cases hRest : switches t with
          | nil =>
              simp only [isUp, hRest] at hUp
              refine ⟨.singleton _, ?_⟩
              intro b' hLast
              cases hLast
              simpa using hUp
          | cons b' r =>
              simp only [isUp, hRest, List.head?_cons,
                Option.getD_some] at hUp
              rw [hRest] at hChain hFirst
              refine ⟨.cons_cons ?_ hChain, ?_⟩
              · rw [hUp]
                cases b <;> simp
              · rw [List.getLast?_cons_cons]
                exact hFirst

end Trace

------------------------------------------------------------
-- Starting
------------------------------------------------------------

namespace Library

/-
  How the engine is started: it runs already, or the engine
  refuses, or it runs then.
-/
inductive Starts
    (s : Session E)
    (r : Except Failure Unit × Session E) : Prop
  | running
      (hResult : r.1 = .ok ())
      (hUp : s.world.library.started = true)
      (hStill : r.2.world.library.started = true)
      (hTrace : r.2.world.trace = s.world.trace)
  | refused {code e}
      (hCode : code ≠ ResultCode.ok)
      (hResult : r.1 = .error e)
      (hDown : s.world.library.started = false)
      (hStill : r.2.world.library.started = false)
      (hTrace :
        r.2.world.trace =
          ⟨.startup, code⟩ :: s.world.trace)
  | done {code version}
      (hCode : code = ResultCode.ok)
      (hResult : r.1 = .ok ())
      (hDown : s.world.library.started = false)
      (hUp : r.2.world.library.started = true)
      (hTrace :
        r.2.world.trace =
          ⟨.version, version⟩ :: ⟨.startup, code⟩ ::
            s.world.trace)

/- What is done with the answer of an engine that starts. -/
def answered (code : ResultCode) : Attempt E Unit := do
  if code ≠ ResultCode.ok then
    fail <| .ofCode code .other
      (Bytes.ascii "sqlite3_initialize failed: " ++
        E.describe code)
      [] none
  lift <| update <| World.modifyLibrary fun l =>
    { l with started := true }
  let version : Bytes ← lift (invoke .version)
  lift <| note .debug "sqlite initialized"
    [.ofText "version" version]

/- The engine no longer is to stop, and is asked if down. -/
theorem start_run (s : Session E) :
    start.run s =
      (if ! s.world.library.started then
        lift (invoke .startup) >>= answered
      else pure ()).run
        { s with
          world := s.world.modifyLibrary fun l =>
            { l with shutdownPending := false } } := rfl

/- Starting ends in one of three ways, and counts nothing. -/
theorem start_starts (s : Session E) :
    Starts s (start.run s) ∧
      (start.run s).2.world.library.holders =
        s.world.library.holders := by
  rw [start_run s]
  cases hStarted : s.world.library.started with
  | true => exact ⟨.running rfl hStarted hStarted rfl, rfl⟩
  | false =>
      let code : ResultCode :=
        (E.answer .startup s.world.engine).1
      let s₁ : Session E :=
        { s with
          world := s.world.modifyLibrary fun l =>
            { l with shutdownPending := false } }
      let s₂ : Session E := (invoke .startup s₁).2
      show Starts s ((answered code).run s₂) ∧
        ((answered code).run s₂).2.world.library.holders = _
      by_cases hCode : code = ResultCode.ok
      · have hDone : (answered code).run s₂ =
            (lift (update (World.modifyLibrary fun l =>
              { l with started := true })) >>= fun _ =>
                lift (invoke .version) >>= fun version =>
                  lift (note .debug "sqlite initialized"
                    [.ofText "version" version])).run s₂ := by
          simp only [answered, ne_eq, hCode,
            not_true_eq_false, if_false]
        rw [hDone]
        exact ⟨.done hCode rfl hStarted rfl rfl, rfl⟩
      · have hFailed : (answered code).run s₂ =
            (.error (.database (.ofCode code .other
              (Bytes.ascii "sqlite3_initialize failed: " ++
                E.describe code) [] none)),
              s₂) := by
          simp only [answered, ne_eq, hCode, not_false_eq_true,
            if_true]
          rfl
        rw [hFailed]
        exact ⟨.refused hCode rfl hStarted hStarted rfl, rfl⟩

------------------------------------------------------------
-- Stopping
------------------------------------------------------------

/-
  How the engine is stopped: it is down already, or a
  connection needs it, or the engine refuses, or it is down
  then.  The result tells whether it is down.
-/
inductive Stops
    (s : Session E)
    (r : Bool × Session E) : Prop
  | down
      (hResult : r.1 = true)
      (hDown : s.world.library.started = false)
      (hStill : r.2.world.library.started = false)
      (hTrace : r.2.world.trace = s.world.trace)
  | deferred
      (hResult : r.1 = false)
      (hUp : s.world.library.started = true)
      (hHeld : 0 < s.world.library.holders)
      (hStill : r.2.world.library.started = true)
      (hTrace : r.2.world.trace = s.world.trace)
  | refused {code}
      (hCode : code ≠ ResultCode.ok)
      (hResult : r.1 = false)
      (hUp : s.world.library.started = true)
      (hFree : s.world.library.holders = 0)
      (hStill : r.2.world.library.started = true)
      (hTrace :
        r.2.world.trace =
          ⟨.shutdown, code⟩ :: s.world.trace)
  | done {code}
      (hCode : code = ResultCode.ok)
      (hResult : r.1 = true)
      (hUp : s.world.library.started = true)
      (hFree : s.world.library.holders = 0)
      (hDown : r.2.world.library.started = false)
      (hTrace :
        r.2.world.trace =
          ⟨.shutdown, code⟩ :: s.world.trace)

/- An engine that is up and free is asked to stop. -/
theorem stop_run (s : Session E) :
    stop s =
      if s.world.library.started = false then
        (true,
          { s with
            world := s.world.modifyLibrary fun l =>
              { l with shutdownPending := false } })
      else if 0 < s.world.library.holders then
        (false,
          { s with
            world := s.world.modifyLibrary fun l =>
              { l with shutdownPending := true } })
      else stopNow s := by
  have hRun : stop s =
      (if ! s.world.library.started then do
        update <| World.modifyLibrary fun l =>
          { l with shutdownPending := false }
        return true
      else if 0 < s.world.library.holders then do
        update <| World.modifyLibrary fun l =>
          { l with shutdownPending := true }
        return false
      else
        stopNow) s := rfl
  rw [hRun]
  cases s.world.library.started with
  | false => rfl
  | true =>
      by_cases hHeld : 0 < s.world.library.holders
      · rw [if_neg Bool.noConfusion, if_pos hHeld,
          if_neg Bool.noConfusion, if_pos hHeld]
        rfl
      · rw [if_neg Bool.noConfusion, if_neg hHeld,
          if_neg Bool.noConfusion, if_neg hHeld]

/- Stopping ends in one of four ways, and counts nothing. -/
theorem stop_stops (s : Session E) :
    Stops s (stop s) ∧
      (stop s).2.world.library.holders =
        s.world.library.holders := by
  rw [stop_run]
  cases hStarted : s.world.library.started with
  | false =>
      rw [if_pos rfl]
      exact ⟨.down rfl hStarted hStarted rfl, rfl⟩
  | true =>
      rw [if_neg Bool.noConfusion]
      by_cases hHeld : 0 < s.world.library.holders
      · rw [if_pos hHeld]
        exact ⟨.deferred rfl hStarted hHeld hStarted rfl, rfl⟩
      · have hNone : s.world.library.holders = 0 :=
          Nat.eq_zero_of_not_pos hHeld
        rw [if_neg hHeld]
        unfold stopNow
        rw [Quiet.run_bind]
        by_cases hCode : (invoke .shutdown s).1 = ResultCode.ok
        · rw [if_neg (not_not.mpr hCode)]
          exact ⟨.done hCode rfl hStarted hNone rfl rfl, rfl⟩
        · rw [if_pos hCode]
          exact ⟨.refused hCode rfl hStarted hNone hStarted
            rfl, rfl⟩

/- Whether it is down now is what stopping tells. -/
theorem Stops.result
    {s : Session E}
    {r : Bool × Session E}
    (hStops : Stops s r) :
    r.1 = ! r.2.world.library.started := by
  cases hStops with
  | down hResult _ hStill => rw [hResult, hStill]; rfl
  | deferred hResult _ _ hStill => rw [hResult, hStill]; rfl
  | refused _ hResult _ _ hStill => rw [hResult, hStill]; rfl
  | done _ hResult _ _ hDown => rw [hResult, hDown]; rfl

------------------------------------------------------------
-- Counting
------------------------------------------------------------

/- One holder more. -/
def oneMore (w : World E) : World E :=
  w.modifyLibrary fun l =>
    { l with holders := l.holders + 1 }

/- Holding is starting, and one holder more if it runs then. -/
theorem hold_run (s : Session E) :
    (hold.run s).1 = (start.run s).1 ∧
      (hold.run s).2 =
        if (start.run s).1.isOk then
          { (start.run s).2 with
            world := oneMore (start.run s).2.world }
        else (start.run s).2 := by
  rcases hRun : start.run s with ⟨result, t⟩
  cases result with
  | error e =>
      have hFailed : hold.run s = (.error e, t) :=
        run_bind_of_error hRun
      rw [hFailed]
      exact ⟨rfl, rfl⟩
  | ok _ =>
      have hDone : hold.run s =
          (.ok (), { t with world := oneMore t.world }) :=
        run_bind_of_ok hRun
      rw [hDone]
      exact ⟨rfl, rfl⟩

/- One holder less. -/
def oneLess (w : World E) : World E :=
  w.modifyLibrary fun l =>
    { l with holders := l.holders - 1 }

/-
  Giving up a hold is one holder less, and stopping if that
  was the last one and a stop is due.
-/
theorem release_run (s : Session E) :
    (release s).2 =
      if (oneLess s.world).library.holders = 0 ∧
          (oneLess s.world).library.shutdownPending then
        (stop { s with world := oneLess s.world }).2
      else { s with world := oneLess s.world } := by
  have hRun : release s =
      (if (oneLess s.world).library.holders = 0 ∧
          (oneLess s.world).library.shutdownPending then
        stop >>= fun _ => pure ()
      else pure ()) { s with world := oneLess s.world } := rfl
  rw [hRun]
  by_cases hDue : (oneLess s.world).library.holders = 0 ∧
      (oneLess s.world).library.shutdownPending
  · rw [if_pos hDue, if_pos hDue]
    rfl
  · rw [if_neg hDue, if_neg hDue]
    rfl

end Library

end SqliteAccess
