import SqliteAccess.Statement.Lifecycle

/-
  Running statements.

  A statement that is done is reset before it is used again.
  A reset repeats the error of a failed step; the repetition
  is not reported.

  Key definitions include:
    * `Statement.rewind`
    * `Statement.step`
    * `Statement.next`
    * `Statement.fetch`
    * `Statement.drain`
    * `Statement.execute`
    * `Statement.reset`
-/

namespace SqliteAccess

namespace Statement

variable {E : Engine}

open Quiet Attempt

------------------------------------------------------------
-- Resetting
------------------------------------------------------------

/- Reset the handle of a statement. -/
def rewind
    (p : Place)
    (st : StatementHandle) : Attempt E Unit := do
  let s ← lift (lookup p)
  let code : ResultCode ← lift (invoke (.reset st))
  lift (update (World.modifyStatement p rewound))
  if ! s.stepFailed then
    check st.database code .stepping s.sql

/- Reset a statement that is done. -/
def rewindIfDone
    (p : Place)
    (st : StatementHandle) : Attempt E Unit := do
  if (← lift (lookup p)).state = .done then
    rewind p st

/- Return to the start, keeping what is bound. -/
def reset (p : Place) : Attempt E Unit := do
  let st ← requireHandle p "reset"
  rewind p st

------------------------------------------------------------
-- Stepping
------------------------------------------------------------

/- Advance to the next row. -/
def step (p : Place) : Attempt E StepResult := do
  let st ← requireHandle p "step"
  rewindIfDone p st
  let code : ResultCode ← lift (invoke (.step st))
  lift (update (World.modifyStatement p (·.stepped code)))
  if code = ResultCode.row then
    return .row
  else if code = ResultCode.done then
    return .completed
  else
    let s ← lift (lookup p)
    fail (← lift (handleError st.database code .stepping
      s.sql))

/- Advance, and tell whether there is a row. -/
def next (p : Place) : Attempt E Bool := do
  return (← step p) = .row

/- Advance, and return the row if there is one. -/
def fetch (p : Place) : Attempt E (Option Row) := do
  match ← step p with
  | .completed => return none
  | .row =>
      let s ← lift (lookup p)
      return some
        { anchor := s.anchor, generation := s.generation }

/- Step over all rows that are left, up to a number. -/
def drain (p : Place) : Nat → Attempt E Unit
  | 0 => throw .endless
  | n + 1 => do
      if (← step p) = .row then
        drain p n

/-
  Run a statement to its end and reset it.  The result is the
  number of changed rows.
-/
def execute (p : Place) : Attempt E Int := do
  let st ← requireHandle p "execute"
  drain p (← lift (read (·.patience)))
  let changed : Int ←
    lift (invoke (.changes st.database))
  rewind p st
  return changed

end Statement

end SqliteAccess
