import SqliteAccess.Proofs.Statement.Arguments
import SqliteAccess.Proofs.Statement.Running

/-
  What statements say about errors of the engine.

  A step that fails raises the error of the engine, and the
  engine repeats it when the statement is reset.  A statement
  knows whether a step of it has failed since it was compiled
  or reset.  It says nothing then, and raises any other error
  of a reset, wherever the reset comes from.

  Key definitions include:
    * `Session.Knows`
    * `Session.Resets`
    * `Session.Advances`
    * `Attempt.ResetsFirst`
    * `Session.ExecutesOnce`

  The statements are characterized by:
    * `Sound.knows`
    * `Session.Knows.resets`
    * `Session.Knows.stepped`
    * `Session.Knows.step_resetsFirst`
    * `Session.Knows.bindArgument_resetsFirst`
    * `Session.Knows.executesOnce`
-/

namespace SqliteAccess

variable {E : Engine} {α : Type} {s t : Session E}
variable {p : Place} {c : ConnectionId}
variable {st : StatementHandle} {r : Statement}

open Attempt

------------------------------------------------------------
-- What a Statement Knows
------------------------------------------------------------

/-
  Whether a statement at a place knows whether a step of it
  has failed, and is done if one has.
-/
structure Session.Knows
    (s : Session E)
    (p : Place)
    (c : ConnectionId)
    (st : StatementHandle)
    (r : Statement) : Prop extends Stands s p c st r where
  failed : r.stepFailed = s.world.trace.hasFailed st
  stuck : r.stepFailed = true → r.state = .done

/- Every statement knows, wherever it has been moved. -/
theorem Sound.knows
    {g : Stage E}
    (hSound : Sound g)
    (hWorld : g.world = s.world)
    (hHandle : (s.world.statement p).handle = some st) :
    ∃ c, s.Knows p c st (s.world.statement p) := by
  rcases World.get?_of_statement_handle hHandle with
    ⟨r, hFound, hOwn⟩
  rw [World.statement_of_get? hFound]
  rw [← hWorld] at hFound
  have hFollows := hSound.linked.follows hFound hOwn
  have hTied := hSound.owned.none_iff hFound
  rw [hWorld] at hFound hFollows
  cases hConnection : r.connection with
  | none =>
      rw [hTied.mp hConnection] at hOwn
      cases hOwn
  | some c =>
      exact ⟨c,
        { found := hFound
          handle := hOwn
          connection := hConnection
          failed := hFollows.failed
          stuck := hFollows.stuck }⟩

namespace Session.Knows

/- Asking leaves what a statement knows as it is. -/
theorem of_consulted
    (hKnows : s.Knows p c st r)
    (hConsulted : s.Consulted t) :
    t.Knows p c st r where
  toStands := hKnows.toStands.of_consulted hConsulted
  failed := by
    rw [(Hears.of_consulted hConsulted).hasFailed st]
    exact hKnows.failed
  stuck := hKnows.stuck

/- A statement that is not done has not failed. -/
theorem unfailed
    (hKnows : s.Knows p c st r)
    (hState : r.state ≠ .done) :
    r.stepFailed = false :=
  Bool.eq_false_iff.mpr fun hFailed =>
    hState (hKnows.stuck hFailed)

end Session.Knows

------------------------------------------------------------
-- Resetting
------------------------------------------------------------

/-
  Whether a statement was reset, with what the engine answers
  to that:

    * `call`: the engine is called once
    * `result`: its error is raised unless a step has failed
      before
    * `ready`: the statement is ready
    * `forgotten`: no step of it has failed any more
-/
structure Session.Resets
    (s : Session E)
    (p : Place)
    (st : StatementHandle)
    (code : ResultCode)
    (result : Except Failure Unit)
    (t : Session E) : Prop where
  call : s.Did [⟨.reset st, code⟩] t
  result :
    if s.world.trace.hasFailed st then
      result = .ok ()
    else
      Decided E result code .stepping
        (s.world.statement p).sql
  ready : (t.world.statement p).state = .ready
  handle : (t.world.statement p).handle = some st
  forgotten : t.world.trace.hasFailed st = false

namespace Session.Knows

/- The handle of a statement is the one that is reset. -/
theorem reset_run
    (hKnows : s.Knows p c st r) :
    (Statement.reset p).run s =
      (Statement.rewind p st).run s := by
  unfold Statement.reset
  rw [run_bind_of_ok (hKnows.requireHandle _)]

/- After a reset, a statement knows that it has not failed. -/
theorem rewound
    (hKnows : s.Knows p c st r) :
    s.Did [⟨.reset st, (Quiet.invoke (.reset st) s).1⟩]
        ((Statement.rewind p st).run s).2 ∧
      ((Statement.rewind p st).run s).2.Knows p c st
        r.rewound := by
  let code : ResultCode := (Quiet.invoke (.reset st) s).1
  let heard := (Quiet.invoke (.reset st) s).2
  let t := (Quiet.update
    (World.modifyStatement p Statement.rewound) heard).2
  have hDid : s.Did [⟨.reset st, code⟩] t :=
    (Session.Did.call rfl s).trans (.statement p _ heard)
  have hStands : t.Stands p c st r.rewound :=
    (hKnows.toStands.call (.reset st)).modify rfl rfl
  have hKnows' : t.Knows p c st r.rewound :=
    { hStands with
      failed := by
        rw [hDid.heard.hasFailed st, List.singleton_append,
          Trace.hasFailed_cons]
        simp [Event.failureSet, Statement.rewound]
      stuck := nofun }
  rw [Statement.rewind_run hKnows.toStands]
  cases r.stepFailed with
  | true => exact ⟨hDid, hKnows'⟩
  | false =>
      have hConsulted :=
        check_consulted st.database code .stepping r.sql t
      exact ⟨hDid.trans (.of_consulted hConsulted),
        hKnows'.of_consulted hConsulted⟩

/- A reset raises an error if and only if nobody has. -/
theorem resets
    (hKnows : s.Knows p c st r) :
    s.Resets p st (Quiet.invoke (.reset st) s).1
      ((Statement.reset p).run s).1
      ((Statement.reset p).run s).2 := by
  rcases hKnows.rewound with ⟨hDid, hRewound⟩
  rw [hKnows.reset_run]
  constructor
  case call => exact hDid
  case result =>
    rw [← hKnows.failed, hKnows.statement,
      Statement.rewind_run hKnows.toStands]
    cases r.stepFailed with
    | true => rfl
    | false => exact check_decided _ _ _ _ _
  case ready =>
    rw [hRewound.statement]
    rfl
  case handle =>
    rw [hRewound.statement]
    exact hRewound.handle
  case forgotten => exact hRewound.failed.symm

end Session.Knows

------------------------------------------------------------
-- Stepping
------------------------------------------------------------

/-
  Whether a statement was stepped, with what the engine
  answers to that:

    * `call`: the engine is called once
    * `row`, `completed`: two answers are results
    * `raised`: any other answer is an error, which is raised
    * `marked`: that is the case in which a step has failed
-/
structure Session.Advances
    (s : Session E)
    (p : Place)
    (st : StatementHandle)
    (code : ResultCode)
    (result : Except Failure StepResult)
    (t : Session E) : Prop where
  call : s.Did [⟨.step st, code⟩] t
  row : code = ResultCode.row → result = .ok .row
  completed : code = ResultCode.done → result = .ok .completed
  raised : code ≠ ResultCode.row → code ≠ ResultCode.done →
    Raised E result code .stepping (s.world.statement p).sql
  marked : t.world.trace.hasFailed st = true ↔
    code ≠ ResultCode.row ∧ code ≠ ResultCode.done

namespace Session.Knows

/-
  A statement that is not done is stepped, and knows about it
  afterwards.
-/
theorem stepped
    (hKnows : s.Knows p c st r)
    (hState : r.state ≠ .done) :
    s.Advances p st (Quiet.invoke (.step st) s).1
        ((Statement.step p).run s).1
        ((Statement.step p).run s).2 ∧
      ((Statement.step p).run s).2.Knows p c st
        (r.stepped (Quiet.invoke (.step st) s).1) := by
  let code : ResultCode := (Quiet.invoke (.step st) s).1
  let heard := (Quiet.invoke (.step st) s).2
  let t := (Quiet.update
    (World.modifyStatement p (·.stepped code)) heard).2
  have hUnfailed := hKnows.unfailed hState
  have hHeard := hKnows.toStands.call (.step st)
  have hDid : s.Did [⟨.step st, code⟩] t :=
    (Session.Did.call rfl s).trans (.statement p _ heard)
  have hMarked : t.world.trace.hasFailed st =
      (decide (code ≠ ResultCode.row) &&
        decide (code ≠ ResultCode.done)) := by
    rw [hDid.heard.hasFailed st, List.singleton_append,
      Trace.hasFailed_cons, ← hKnows.failed, hUnfailed]
    by_cases hRow : code = ResultCode.row <;>
      by_cases hDone : code = ResultCode.done <;>
        simp [Event.failureSet, hRow, hDone]
  have hKnows' : t.Knows p c st (r.stepped code) :=
    { hHeard.modify (r.stepped_refers code).1
        (r.stepped_refers code).2 with
      failed := by
        rw [hMarked, Statement.stepped_eq, hUnfailed,
          Bool.false_or]
      stuck := by
        rw [Statement.stepped_eq]
        by_cases hRow : code = ResultCode.row <;>
          simp [hUnfailed, hRow] }
  rcases Statement.settle_decided hHeard code with
    ⟨hRow, hDone, hRaised, hConsulted⟩
  have hLast := hKnows'.of_consulted hConsulted
  rw [Statement.step_run hKnows.toStands hState]
  refine ⟨⟨hDid.trans (.of_consulted hConsulted), hRow, hDone,
    ?_, ?_⟩, hLast⟩
  · rw [hKnows.statement]
    exact hRaised
  · show (Session.world ((Statement.settle p st code).run
      heard).2).trace.hasFailed st = true ↔ _
    rw [← hLast.failed, hKnows'.failed, hMarked]
    simp [code]

end Session.Knows

------------------------------------------------------------
-- Resets on the Way
------------------------------------------------------------

/-
  Whether an attempt resets a statement before anything else:
  it fails if the reset does, and goes on as if it had been
  made after the reset otherwise.
-/
def Attempt.ResetsFirst
    (x : Attempt E α)
    (p : Place)
    (s : Session E) : Prop :=
  x.run s = (Statement.reset p >>= fun _ => x).run s

namespace Session.Knows

/- What begins by resetting a statement that is done. -/
theorem resetsFirst
    {x : Attempt E α}
    {k : Unit → Attempt E α}
    (hKnows : s.Knows p c st r)
    (hDone : r.state = .done)
    (hBegins : ∀ {t r'}, t.Stands p c st r' →
      r' = r ∨ r' = r.rewound →
        x.run t =
          (Statement.rewindIfDone p st >>= k).run t) :
    x.ResetsFirst p s := by
  have hFirst : (Statement.rewindIfDone p st).run s =
      (Statement.rewind p st).run s := by
    unfold Statement.rewindIfDone Statement.lookup
    rw [run_read, hKnows.statement, if_pos hDone]
  have hRewound := hKnows.rewound.2
  unfold Attempt.ResetsFirst
  rw [hBegins hKnows.toStands (.inl rfl), run_bind, run_bind,
    hKnows.reset_run, hFirst]
  rcases hRun : (Statement.rewind p st).run s with ⟨result, t⟩
  rw [hRun] at hRewound
  cases result with
  | error e => rfl
  | ok _ =>
      have hReady : (Statement.rewindIfDone p st).run t =
          (.ok (), t) := by
        unfold Statement.rewindIfDone Statement.lookup
        rw [run_read, hRewound.statement, if_neg nofun]
        rfl
      show (k ()).run t = x.run t
      rw [hBegins hRewound.toStands (.inr rfl),
        run_bind_of_ok hReady]

/- A statement that is done is reset before it is stepped. -/
theorem step_resetsFirst
    (hKnows : s.Knows p c st r)
    (hDone : r.state = .done) :
    (Statement.step p).ResetsFirst p s := by
  apply hKnows.resetsFirst hDone
  intro t r' hStands _
  rw [Statement.step_eq,
    run_bind_of_ok (hStands.requireHandle _)]

/- So it is before its bindings are cleared. -/
theorem clearBindings_resetsFirst
    (hKnows : s.Knows p c st r)
    (hDone : r.state = .done) :
    (Statement.clearBindings p).ResetsFirst p s := by
  apply hKnows.resetsFirst hDone
  intro t r' hStands hWhich
  have hNoRow : r'.state ≠ .row := by
    rcases hWhich with rfl | rfl
    · rw [hDone]
      nofun
    · nofun
  have hFree : (Statement.requireNoRow p "clearBindings").run
      t = (.ok (), t) :=
    (Statement.requireNoRow_run (p := p) _ t).trans
      (run_require_of_true
        (by simp [hStands.statement, hNoRow]) _ t)
  unfold Statement.clearBindings
  rw [run_bind_of_ok (hStands.requireHandle _),
    run_bind_of_ok hFree]

/-
  Before a parameter is bound it is reset as well, unless the
  call is refused at once.
-/
theorem bindArgument_resetsFirst
    (hKnows : s.Knows p c st r)
    (hDone : r.state = .done)
    (index : Int)
    (argument : Argument) :
    (∃ refusal : Refusal,
        (Statement.bindArgument p index argument).run s =
          (.error (.database refusal.error), s)) ∨
      (Statement.bindArgument p index argument).ResetsFirst
        p s := by
  rw [Statement.bindArgument_eq]
  cases argument.checked with
  | error refusal => exact .inl ⟨refusal, rfl⟩
  | ok v =>
      rw [accept_ok_bind]
      by_cases hTakes :
          (s.world.statement p).Takes index
      · refine .inr (hKnows.resetsFirst
          (k := fun _ => Statement.hand p st index v.payload)
          hDone ?_)
        intro t r' hStands hWhich
        have hSame : r'.handle = some st ∧ r'.state ≠ .row ∧
            r'.parameterCount = r.parameterCount := by
          rcases hWhich with rfl | rfl
          · exact ⟨hStands.handle, by rw [hDone]; nofun, rfl⟩
          · exact ⟨hStands.handle, nofun, rfl⟩
        have hTakes' : (t.world.statement p).Takes index := by
          rw [hKnows.statement] at hTakes
          rw [hStands.statement]
          exact
            { live := by simp [hSame.1]
              noRow := hSame.2.1
              first := hTakes.first
              last := hSame.2.2 ▸ hTakes.last }
        exact Statement.bindPayload_of_takes hTakes'
          (hStands.statement ▸ hStands.handle) _ _
      · exact .inl
          (Statement.bindPayload_of_not_takes hTakes _ _)

end Session.Knows

------------------------------------------------------------
-- The End of a Run
------------------------------------------------------------

namespace Session.Knows

/- A step that gives a result is not one that has failed. -/
theorem step_ok
    {result : StepResult}
    (hKnows : s.Knows p c st r)
    (hRun : (Statement.step p).run s = (.ok result, t)) :
    ∃ r', t.Knows p c st r' ∧ r'.stepFailed = false ∧
      r'.sql = r.sql := by
  -- the statement may have to be reset before it is stepped
  obtain ⟨u, r₁, hKnows₁, hState, hText, hStep⟩ :
      ∃ (u : Session E) (r₁ : Statement),
        u.Knows p c st r₁ ∧ r₁.state ≠ .done ∧
          r₁.sql = r.sql ∧
            (Statement.step p).run u = (.ok result, t) := by
    by_cases hDone : r.state = .done
    · have hReset := hKnows.step_resetsFirst hDone
      unfold Attempt.ResetsFirst at hReset
      rw [hRun] at hReset
      rcases run_bind_eq_ok.mp hReset.symm with
        ⟨_, u, hFirst, hRest⟩
      have hRewound := hKnows.rewound.2
      rw [← hKnows.reset_run, hFirst] at hRewound
      exact ⟨u, _, hRewound, nofun, rfl, hRest⟩
    · exact ⟨s, r, hKnows, hDone, rfl, hRun⟩
  rcases hKnows₁.stepped hState with ⟨hAdvances, hStepped⟩
  rw [hStep] at hAdvances hStepped
  refine ⟨_, hStepped, ?_, by
    rw [Statement.stepped_eq, hText]⟩
  rw [hStepped.failed]
  refine Bool.eq_false_iff.mpr fun hFailed => ?_
  rcases hAdvances.marked.mp hFailed with ⟨hRow, hDone⟩
  rcases hAdvances.raised hRow hDone with ⟨_, hError⟩
  cases hError

/- Nor has a step failed once all rows were stepped over. -/
theorem drain_ok
    {n : Nat}
    (hKnows : s.Knows p c st r)
    (hRun : (Statement.drain p n).run s = (.ok (), t)) :
    ∃ r', t.Knows p c st r' ∧ r'.stepFailed = false ∧
      r'.sql = r.sql := by
  induction n generalizing s r with
  | zero => cases hRun
  | succ n ih =>
      unfold Statement.drain at hRun
      rcases run_bind_eq_ok.mp hRun with
        ⟨result, u, hStep, hRest⟩
      rcases hKnows.step_ok hStep with
        ⟨r', hKnows', hFresh, hText⟩
      split at hRest
      case isTrue =>
        rw [← hText]
        exact ih hKnows' hRest
      case isFalse =>
        cases hRest
        exact ⟨r', hKnows', hFresh, hText⟩

end Session.Knows

/-
  Whether executing a statement ends as it must: it fails as
  stepping over its rows does, or is reset after that while no
  step of it has failed.
-/
def Session.ExecutesOnce
    (s : Session E)
    (p : Place)
    (st : StatementHandle) : Prop :=
  match (Statement.drain p s.world.patience).run s with
  | (.error e, t) =>
      (Statement.execute p).run s = (.error e, t)
  | (.ok (), t) =>
      ∃ (n : Int) (asked : Session E), t.Consulted asked ∧
        asked.world.trace.hasFailed st = false ∧
        asked.Resets p st (Quiet.invoke (.reset st) asked).1
          ((Statement.reset p).run asked).1
          ((Statement.reset p).run asked).2 ∧
        (Statement.execute p).run s =
          (Statement.reset p >>= fun _ => pure n).run asked

theorem Session.Knows.executesOnce
    (hKnows : s.Knows p c st r) :
    s.ExecutesOnce p st := by
  unfold Session.ExecutesOnce Statement.execute
  rw [run_bind_of_ok (hKnows.requireHandle _), run_read]
  rcases hRun : (Statement.drain p s.world.patience).run s
    with ⟨result, t⟩
  cases result with
  | error e => exact run_bind_of_error hRun
  | ok _ =>
      rcases hKnows.drain_ok hRun with
        ⟨r', hKnows', hFresh, -⟩
      have hAsked : t.Consulted
          (Quiet.invoke (.changes st.database) t).2 :=
        .asked rfl t
      have hLast := hKnows'.of_consulted hAsked
      refine ⟨(Quiet.invoke (.changes st.database) t).1, _,
        hAsked, hLast.failed.symm.trans hFresh, hLast.resets,
        ?_⟩
      rw [run_bind_of_ok hRun, run_bind_of_ok (run_lift _ t),
        run_bind, run_bind, hLast.reset_run]

end SqliteAccess
