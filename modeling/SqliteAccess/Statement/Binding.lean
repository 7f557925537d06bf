import SqliteAccess.Statement.Execution
import SqliteAccess.Value.Conversion

/-
  Binding values to parameters, which are counted from one.

  A statement that stands on a row must be reset first; one
  that is done is reset on its own.  What a value is
  converted to is checked before the statement is.

  Key definitions include:
    * `Statement.bindNull`
    * `Statement.bindInteger`
    * `Statement.bindReal`
    * `Statement.bindView`
    * `Statement.bindText`
    * `Statement.bindBlob`
    * `Statement.bindValue`
    * `Statement.bindArgument`
    * `Statement.bindOptional`
    * `Statement.bindNamed`
    * `Statement.clearBindings`
-/

namespace SqliteAccess

namespace Statement

variable {E : Engine}

open Quiet Attempt

------------------------------------------------------------
-- Checks
------------------------------------------------------------

/- Refuse an operation on a statement that has a row. -/
def requireNoRow
    (p : Place)
    (operation : String) : Attempt E Unit := do
  let s ← lift (lookup p)
  require (s.state ≠ .row) (.activeRow operation s.sql)

/- Refuse an index that no parameter has. -/
def requireParameter
    (p : Place)
    (index : Int) : Attempt E Unit := do
  let s ← lift (lookup p)
  require
    (1 ≤ index && index ≤ (s.parameterCount : Int))
    (.parameterIndex index s.parameterCount s.sql)

/- Hand a payload to the engine, after every check. -/
def bindPayload
    (p : Place)
    (index : Int)
    (operation : String)
    (payload : Binding) : Attempt E Unit := do
  let st ← requireHandle p operation
  requireNoRow p operation
  requireParameter p index
  rewindIfDone p st
  let s ← lift (lookup p)
  let code : ResultCode ←
    lift (invoke (.bind st index payload))
  check st.database code .binding s.sql

------------------------------------------------------------
-- One Class Each
------------------------------------------------------------

/- Bind a null. -/
def bindNull
    (p : Place)
    (index : Int) : Attempt E Unit :=
  bindPayload p index "bind null" .null

/- Bind an integer. -/
def bindInteger
    (p : Place)
    (index : Int)
    (n : Int64) : Attempt E Unit :=
  bindPayload p index "bind int64" (.integer n)

/- Bind a real. -/
def bindReal
    (p : Place)
    (index : Int)
    (x : Double) : Attempt E Unit :=
  bindPayload p index "bind double" (.real x)

/-
  Bind a view of a text, which must be UTF-8.  One without
  data is handed over as an empty text, since a null pointer
  would stand for a null.
-/
def bindView
    (p : Place)
    (index : Int)
    (data : Option Bytes) : Attempt E Unit := do
  accept (Value.requireUtf8 (data.getD []))
  bindPayload p index "bind text"
    (.text (some (data.getD [])))

/- Bind a text, which must be UTF-8. -/
def bindText
    (p : Place)
    (index : Int)
    (t : Bytes) : Attempt E Unit :=
  bindView p index (some t)

/- What a blob points to; an empty one may have no data. -/
def blobData (b : Bytes) : Option Bytes :=
  if b.isEmpty then none else some b

/-
  The payload of a blob.  An empty one is no null, which its
  data would stand for.
-/
def blobPayload (b : Bytes) : Binding :=
  if b.isEmpty then .zeroBlob 0 else .blob (blobData b)

/- Bind a blob. -/
def bindBlob
    (p : Place)
    (index : Int)
    (b : Bytes) : Attempt E Unit :=
  bindPayload p index "bind blob" (blobPayload b)

/- Bind a value. -/
def bindValue
    (p : Place)
    (index : Int) : Value → Attempt E Unit
  | .null => bindNull p index
  | .integer n => bindInteger p index n
  | .real x => bindReal p index x
  | .text t => bindText p index t
  | .blob b => bindBlob p index b

------------------------------------------------------------
-- Arguments
------------------------------------------------------------

/- Bind something of a host type. -/
def bindHost
    (p : Place)
    (index : Int) :
    (t : HostType) → t.Carrier → Attempt E Unit
  | .value, v => bindValue p index v
  | .bool, b => bindInteger p index (Value.ofBool b)
  | .integer k, n => do
      let n ← accept (Value.ofInteger k n)
      bindInteger p index n
  | .single, x => bindReal p index x.widen
  | .double, x => bindReal p index x
  | .text, t => bindText p index t
  | .blob, b => bindBlob p index b
  | .optional _, none => bindNull p index
  | .optional t, some x => bindHost p index t x

/-
  Bind an argument.  A view without data is the empty text,
  and a missing NUL-terminated text is a null.
-/
def bindArgument
    (p : Place)
    (index : Int) : Argument → Attempt E Unit
  | .null => bindNull p index
  | .typed t x => bindHost p index t x
  | .view data => bindView p index data
  | .terminated (some t) =>
      bindText p index (Bytes.untilNul t)
  | .terminated none => bindNull p index

/- Bind what an optional holds, or a null without a content. -/
def bindOptional
    (p : Place)
    (index : Int) : OptionalArgument → Attempt E Unit
  | .plain a => bindArgument p index a
  | .empty => bindNull p index
  | .holding o => bindOptional p index o

------------------------------------------------------------
-- Names
------------------------------------------------------------

/- The index of a named parameter, 0 if there is none. -/
def parameterIndex
    (p : Place)
    (name : Bytes) : Attempt E Nat := do
  let st ← requireHandle p "parameterIndex"
  lift (invoke (.parameterIndex st (Bytes.untilNul name)))

/- The characters that the names of parameters start with. -/
def sigils : List UInt8 :=
  [Bytes.byte ':', Bytes.byte '@', Bytes.byte '$']

/-
  Whether a name may be short of the character that names of
  parameters start with.
-/
def lacksSigil : Bytes → Bool
  | [] => false
  | b :: _ => ! (b ∈ sigils || b == Bytes.byte '?')

/- The first index found for a name with one of the sigils. -/
def searchSigils
    (st : StatementHandle)
    (name : Bytes) : List UInt8 → Quiet E Nat
  | [] => return 0
  | b :: r => do
      let index : Nat ← invoke
        (.parameterIndex st (Bytes.untilNul (b :: name)))
      if index ≠ 0 then
        return index
      else
        searchSigils st name r

/-
  The index of the parameter with a name, whose first
  character may be left out.
-/
def requireParameterIndex
    (p : Place)
    (name : Bytes) : Attempt E Nat := do
  let st ← requireHandle p "parameterIndex"
  let exact ← parameterIndex p name
  let index ←
    if exact = 0 ∧ lacksSigil name then
      lift (searchSigils st name sigils)
    else
      pure exact
  let s ← lift (lookup p)
  require (index ≠ 0) (.parameterName name s.sql)
  return index

/- Bind an argument to the parameter with a name. -/
def bindNamed
    (p : Place)
    (name : Bytes)
    (argument : Argument) : Attempt E Unit := do
  let index ← requireParameterIndex p name
  bindArgument p index argument

------------------------------------------------------------
-- Clearing
------------------------------------------------------------

/- Set every parameter back to null. -/
def clearBindings (p : Place) : Attempt E Unit := do
  let st ← requireHandle p "clearBindings"
  requireNoRow p "clearBindings"
  rewindIfDone p st
  let s ← lift (lookup p)
  let code : ResultCode ←
    lift (invoke (.clearBindings st))
  check st.database code .binding s.sql

end Statement

end SqliteAccess
