import SqliteAccess.Error.Basic

/-
  How failing result codes become errors.

  The kind of an error follows from the primary code, from
  the sort of call that failed and, for the generic code,
  from the message of the engine.

  Key definitions include:
    * `Phase`
    * `DatabaseError.classify`
    * `DatabaseError.ofCode`
    * `HandleError`
    * `DatabaseError.ofHandle`
-/

namespace SqliteAccess

------------------------------------------------------------
-- Classification
------------------------------------------------------------

/- The sort of call that a result code comes from. -/
inductive Phase where
  | opening
  | preparing
  | binding
  | stepping
  | other
  deriving DecidableEq

namespace DatabaseError

/-
  What the engine says when an object is missing or there
  already.
-/
def schemaPhrases : List String :=
  ["no such table", "no such column", "no such index",
    "no such view", "no such trigger", "no such collation",
    "has no column named", "already exists"]

/- Whether a message is about an object of the schema. -/
def mentionsSchema (message : Bytes) : Bool :=
  schemaPhrases.any fun phrase =>
    Bytes.occursIn (Bytes.ascii phrase) message

/- The kind that a primary code has in every phase. -/
def fixedKind? (primary : ResultCode) : Option ErrorKind :=
  if primary = ResultCode.interrupted then
    some .interrupted
  else if primary = ResultCode.busy then
    some .busy
  else if primary = ResultCode.locked then
    some .locked
  else if primary = ResultCode.constraint then
    some .constraint
  else if primary = ResultCode.mismatch then
    some .conversion
  else if primary = ResultCode.range then
    some .binding
  else if primary = ResultCode.misuse then
    some .usage
  else if primary = ResultCode.schemaChanged then
    some .schema
  else if primary = ResultCode.cannotOpen then
    some .opening
  else if primary = ResultCode.notADatabase then
    some .opening
  else
    none

/- The kind of a failure. -/
def classify
    (code : ResultCode)
    (phase : Phase)
    (message : Bytes) : ErrorKind :=
  match fixedKind? (ResultCode.primary code) with
  | some kind => kind
  | none =>
      if phase = .opening then
        .opening
      else if
          ResultCode.primary code = ResultCode.generic then
        if mentionsSchema message then .schema
        else if phase = .preparing then .badSql
        else .engine
      else
        .engine

/- The error of a failing code. -/
def ofCode
    (code : ResultCode)
    (phase : Phase)
    (message sql : Bytes)
    (offset : Option Int) : DatabaseError :=
  ofKind (classify code phase message) message code sql
    offset

end DatabaseError

------------------------------------------------------------
-- Errors of Handles
------------------------------------------------------------

/-
  What a database handle tells about its latest failure: the
  full code, the message and the byte at which the engine
  stopped reading SQL, negative if it knows none.
-/
structure HandleError where
  code : ResultCode
  message : Bytes
  offset : Int
  deriving DecidableEq

namespace DatabaseError

/-
  The error of a call that failed without a handle, given
  what the engine has to say about every code.
-/
def withoutHandle
    (describe : ResultCode → Bytes)
    (code : ResultCode)
    (phase : Phase)
    (sql : Bytes) : DatabaseError :=
  ofCode code phase (describe code) sql none

/-
  The error of a call that failed on a handle.  The code of
  the handle is preferred if it refines the returned one, and
  an empty message is replaced by the description of the
  returned code.
-/
def ofHandle
    (describe : ResultCode → Bytes)
    (h : HandleError)
    (code : ResultCode)
    (phase : Phase)
    (sql : Bytes) : DatabaseError :=
  let full :=
    if ResultCode.primary h.code = ResultCode.primary code
    then h.code else code
  let message :=
    if h.message.isEmpty
    then describe code else h.message
  let offset :=
    if phase = .preparing ∧ 0 ≤ h.offset
    then some h.offset else none
  ofCode full phase message sql offset

end DatabaseError

end SqliteAccess
