import SqliteAccess.Session.Attempt

/-
  Starting and stopping the engine.

  Every connection holds the library, and the engine is shut
  down only when none does.  A shutdown that comes too early
  is remembered and carried out by the last connection.

  Key definitions include:
    * `Library.start`
    * `Library.stop`
    * `Library.hold`
    * `Library.release`
-/

namespace SqliteAccess

namespace World

variable {E : Engine}

/- Change what is known about the use of the engine. -/
def modifyLibrary
    (f : Library → Library)
    (w : World E) : World E :=
  { w with library := f w.library }

end World

namespace Library

variable {E : Engine}

open Quiet Attempt

/-
  Start the engine unless it runs already.  A shutdown that
  was remembered is forgotten.
-/
def start : Attempt E Unit := do
  lift <| update <| World.modifyLibrary fun l =>
    { l with shutdownPending := false }
  if ! (← lift (read (·.library.started))) then
    let code : ResultCode ← lift (invoke .startup)
    if code ≠ ResultCode.ok then
      fail <| .ofCode code .other
        (Bytes.ascii "sqlite3_initialize failed: " ++
          E.describe code)
        [] none
    lift <| update <| World.modifyLibrary fun l =>
      { l with started := true }
    let version : Bytes ← lift (invoke .version)
    lift <| note .debug "sqlite initialized"
      [.ofText "version" version]

/- Shut down an engine that no connection holds. -/
def stopNow : Quiet E Bool := do
  let code : ResultCode ← invoke .shutdown
  if code ≠ ResultCode.ok then
    note .error "sqlite3_shutdown failed"
      [.ofInt "code" code,
        .ofText "name" (ResultCode.name code)]
    return false
  else
    update <| World.modifyLibrary fun l =>
      { l with started := false, shutdownPending := false }
    note .debug "sqlite shut down"
    return true

/-
  Shut the engine down, or remember to do so.  The result
  tells whether it is down now.
-/
def stop : Quiet E Bool := do
  let library ← read (·.library)
  if ! library.started then
    update <| World.modifyLibrary fun l =>
      { l with shutdownPending := false }
    return true
  else if 0 < library.holders then
    update <| World.modifyLibrary fun l =>
      { l with shutdownPending := true }
    return false
  else
    stopNow

/- Hold the library for a connection. -/
def hold : Attempt E Unit := do
  start
  lift <| update <| World.modifyLibrary fun l =>
    { l with holders := l.holders + 1 }

/-
  Give up the hold of a connection.  The last one carries out
  a shutdown that was remembered.
-/
def release : Quiet E Unit := do
  update <| World.modifyLibrary fun l =>
    { l with holders := l.holders - 1 }
  let library ← read (·.library)
  if library.holders = 0 ∧ library.shutdownPending then
    let _ ← stop

end Library

end SqliteAccess
