import SqliteAccess.Error.Refusal
import SqliteAccess.Error.Classification
import SqliteAccess.Session.World

/-
  What the library does is written in two sorts of steps on a
  session: quiet ones, which cannot fail, and attempts, which
  may.  Both are made from four basic steps: reading the
  world, changing it, calling the engine, and changing the
  log.

  Key definitions include:
    * `Quiet`
    * `Attempt`
    * `Quiet.read`
    * `Quiet.update`
    * `Quiet.invoke`
    * `Quiet.note`
    * `Attempt.lift`
    * `Attempt.refuse`
    * `Attempt.ensuring`
    * `Attempt.onFailure`
    * `Attempt.tolerate`
-/

namespace SqliteAccess

/- Steps that cannot fail. -/
abbrev Quiet (E : Engine) :=
  StateM (Session E)

/- Steps that may fail. -/
abbrev Attempt (E : Engine) :=
  ExceptT Failure (StateM (Session E))

variable {E : Engine} {α : Type}

------------------------------------------------------------
-- Basic Steps
------------------------------------------------------------

namespace Quiet

/- Look at the world. -/
def read (f : World E → α) : Quiet E α :=
  fun s => (f s.world, s)

/- Change the world. -/
def update (f : World E → World E) : Quiet E Unit :=
  fun s => ((), { s with world := f s.world })

/- Call the engine. -/
def invoke (c : Call) : Quiet E c.Answer :=
  fun s =>
    let (answer, engine) := E.answer c s.world.engine
    (answer,
      { s with
        world :=
          { s.world with
            engine
            trace := ⟨c, answer⟩ :: s.world.trace } })

/- Change the log. -/
def relog (f : Log → Log) : Quiet E Unit :=
  fun s => ((), { s with log := f s.log })

/- Write a line to the log. -/
def note
    (level : LogLevel)
    (message : String)
    (fields : List LogField := []) : Quiet E Unit :=
  relog fun log =>
    log.write level (Bytes.ascii message) fields

/- Do something for each element of a list in turn. -/
def each
    {β : Type}
    (f : β → Quiet E Unit) : List β → Quiet E Unit
  | [] => pure ()
  | x :: r => do
      f x
      each f r

end Quiet

------------------------------------------------------------
-- Failing
------------------------------------------------------------

namespace Attempt

/- A quiet step, taken as an attempt that does not fail. -/
def lift (x : Quiet E α) : Attempt E α :=
  ExceptT.lift x

/- Fail with an error. -/
def fail (e : DatabaseError) : Attempt E α :=
  throw (.database e)

/- Refuse a call. -/
def refuse (r : Refusal) : Attempt E α :=
  fail r.error

/- Refuse a call unless a condition holds. -/
def require
    (condition : Bool)
    (r : Refusal) : Attempt E Unit :=
  if condition then pure () else refuse r

/- Take the result of a check. -/
def accept : Except Refusal α → Attempt E α
  | .ok a => pure a
  | .error r => refuse r

------------------------------------------------------------
-- Cleaning Up
------------------------------------------------------------

/- Clean up after an attempt, whatever its end. -/
def ensuring
    (body : Attempt E α)
    (cleanup : Quiet E Unit) : Attempt E α :=
  ExceptT.mk do
    let result ← body.run
    cleanup
    return result

/- Clean up after an attempt that fails. -/
def onFailure
    (body : Attempt E α)
    (cleanup : Quiet E Unit) : Attempt E α :=
  ExceptT.mk do
    let result ← body.run
    match result with
    | .ok _ => pure ()
    | .error _ => cleanup
    return result

/-
  Make an attempt whose failure is nobody's concern but that
  of a handler for errors.
-/
def tolerate
    (body : Attempt E Unit)
    (handler : DatabaseError → Quiet E Unit) :
    Quiet E Unit := do
  match ← body.run with
  | .error (.database e) => handler e
  | _ => pure ()

------------------------------------------------------------
-- Errors of Handles
------------------------------------------------------------

/-
  The error of a call that failed on a database handle, read
  before another call can change it.
-/
def handleError
    (db : DatabaseHandle)
    (code : ResultCode)
    (phase : Phase)
    (sql : Bytes) : Quiet E DatabaseError := do
  let full ← Quiet.invoke (.extendedErrorCode db)
  let message ← Quiet.invoke (.errorMessage db)
  let offset : Int ←
    if phase = .preparing then
      Quiet.invoke (.errorOffset db)
    else
      pure (-1)
  return .ofHandle E.describe
    { code := full, message, offset } code phase sql

/- Fail unless a call on a database handle succeeded. -/
def check
    (db : DatabaseHandle)
    (code : ResultCode)
    (phase : Phase)
    (sql : Bytes := []) : Attempt E Unit := do
  if code ≠ ResultCode.ok then
    fail (← lift (handleError db code phase sql))

end Attempt

end SqliteAccess
