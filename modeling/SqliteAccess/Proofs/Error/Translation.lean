import Mathlib.Data.List.Infix
import SqliteAccess.Proofs.Session.Doing

/-
  How what the engine tells about a failure becomes an error.

  The kind of the error stands in a table whose first row that
  applies decides.  No row looks at more than the primary code,
  so that an error is the same whether the engine returns the
  full code or only its primary code.

  Key definitions include:
    * `KindRow`
    * `KindRow.Applies`
    * `DatabaseError.kindTable`
    * `DatabaseError.Translates`
    * `Session.errorState`

  The errors are characterized by:
    * `Bytes.occursIn_iff`
    * `DatabaseError.firstRow?_kindTable`
    * `DatabaseError.ofHandle_translates`
    * `DatabaseError.ofHandle_primary`
    * `Session.errors_translated`
-/

namespace SqliteAccess

------------------------------------------------------------
-- Phrases
------------------------------------------------------------

/- What is looked for in a text is a part of it. -/
theorem Bytes.occursIn_iff {pattern t : Bytes} :
    occursIn pattern t = true ↔ pattern <:+: t := by
  induction t with
  | nil => simp [occursIn]
  | cons b r ih =>
      rw [occursIn, Bool.or_eq_true, ih, List.infix_cons_iff,
        List.isPrefixOf_iff_prefix]

/- Whether a message names an object, missing or doubled. -/
def NamesObject (message : Bytes) : Prop :=
  ∃ phrase ∈ DatabaseError.schemaPhrases,
    Bytes.ascii phrase <:+: message

instance (message : Bytes) :
    Decidable (NamesObject message) := by
  unfold NamesObject
  infer_instance

theorem DatabaseError.mentionsSchema_iff (message : Bytes) :
    mentionsSchema message = true ↔ NamesObject message := by
  unfold mentionsSchema NamesObject
  rw [List.any_eq_true]
  simp only [Bytes.occursIn_iff]

------------------------------------------------------------
-- The Table of Kinds
------------------------------------------------------------

/-
  A row of the table of kinds: for which primary codes and for
  which phase it is meant, if not for all, and whether only for
  messages that name an object.
-/
structure KindRow where
  codes : Option (List ResultCode) := none
  phase : Option Phase := none
  named : Bool := false
  kind : ErrorKind

/- Whether a row is meant for a failure. -/
def KindRow.Applies
    (row : KindRow)
    (primary : ResultCode)
    (phase : Phase)
    (message : Bytes) : Prop :=
  (∀ codes ∈ row.codes, primary ∈ codes) ∧
    (∀ p ∈ row.phase, phase = p) ∧
      (row.named → NamesObject message)

instance
    (row : KindRow)
    (primary : ResultCode)
    (phase : Phase)
    (message : Bytes) :
    Decidable (row.Applies primary phase message) := by
  unfold KindRow.Applies
  infer_instance

namespace DatabaseError

/- The rows for codes that have one kind in every phase. -/
def codeRows : List KindRow :=
  [ { codes := some [ResultCode.interrupted]
      kind := .interrupted },
    { codes := some [ResultCode.busy], kind := .busy },
    { codes := some [ResultCode.locked], kind := .locked },
    { codes := some [ResultCode.constraint]
      kind := .constraint },
    { codes := some [ResultCode.mismatch]
      kind := .conversion },
    { codes := some [ResultCode.range], kind := .binding },
    { codes := some [ResultCode.misuse], kind := .usage },
    { codes := some [ResultCode.schemaChanged]
      kind := .schema },
    { codes :=
        some [ResultCode.cannotOpen, ResultCode.notADatabase]
      kind := .opening } ]

/- The rows for all other codes. -/
def phaseRows : List KindRow :=
  [ { phase := some .opening, kind := .opening },
    { codes := some [ResultCode.generic], named := true
      kind := .schema },
    { codes := some [ResultCode.generic]
      phase := some .preparing, kind := .badSql },
    { kind := .engine } ]

/- The table of kinds; the first row that applies decides. -/
def kindTable : List KindRow :=
  codeRows ++ phaseRows

/- The first row of a table that applies to a failure. -/
def firstRow?
    (table : List KindRow)
    (primary : ResultCode)
    (phase : Phase)
    (message : Bytes) : Option KindRow :=
  table.find? fun row => row.Applies primary phase message

variable (primary : ResultCode) (phase : Phase)
variable (message : Bytes)

/- A row for codes applies to these codes. -/
theorem applies_of_codes
    {codes : List ResultCode}
    {kind : ErrorKind} :
    KindRow.Applies { codes := some codes, kind } primary
      phase message ↔ primary ∈ codes := by
  simp [KindRow.Applies]

/- The rows for codes give the kind that a code always has. -/
theorem firstRow?_codeRows :
    (firstRow? codeRows primary phase message).map (·.kind) =
      fixedKind? primary := by
  unfold firstRow? codeRows fixedKind?
  simp only [List.find?_cons, List.find?_nil,
    applies_of_codes, List.mem_cons, List.not_mem_nil,
    or_false]
  split_ifs <;> simp_all

/- The other rows give the kind that depends on the phase. -/
theorem firstRow?_phaseRows :
    (firstRow? phaseRows primary phase message).map (·.kind) =
      some
        (if phase = .opening then .opening
        else if primary = ResultCode.generic then
          if mentionsSchema message then .schema
          else if phase = .preparing then .badSql
          else .engine
        else .engine) := by
  have hNamed := mentionsSchema_iff message
  unfold firstRow? phaseRows
  simp only [List.find?_cons, List.find?_nil,
    KindRow.Applies, hNamed]
  split_ifs <;> simp_all

/- The kind of a failure stands in the table. -/
theorem firstRow?_kindTable
    (code : ResultCode)
    (phase : Phase)
    (message : Bytes) :
    (firstRow? kindTable (ResultCode.primary code) phase
      message).map (·.kind) =
        some (classify code phase message) := by
  have hCodes := firstRow?_codeRows
    (ResultCode.primary code) phase message
  have hPhases := firstRow?_phaseRows
    (ResultCode.primary code) phase message
  unfold classify
  rw [← hCodes]
  unfold firstRow? kindTable at *
  rw [List.find?_append]
  cases hRow : codeRows.find? fun row =>
      decide (row.Applies (ResultCode.primary code) phase
        message) with
  | some row => simp
  | none => simpa using hPhases

------------------------------------------------------------
-- Errors of Handles
------------------------------------------------------------

end DatabaseError

variable {describe : ResultCode → Bytes}

/-
  The message of a failed call: what the handle says, or how
  the returned code is described if the handle says nothing.
-/
def HandleError.text
    (h : HandleError)
    (describe : ResultCode → Bytes)
    (code : ResultCode) : Bytes :=
  if h.message = [] then describe code else h.message

namespace DatabaseError

/-
  Whether an error says what a handle tells about a call that
  has returned a code:

    * `refined`, `returned`: it has the code of the handle if
      that refines the returned one, and otherwise this one.
    * `low`: its primary code is that of the returned code.
    * `kind`: its kind is that of the first row that applies.
    * `message`: its message is that of the handle, or the
      description of the returned code if the handle has none.
    * `sql`: the SQL text is kept, or dropped by its kind.
    * `offset`: it has the position of the handle if that is
      one, SQL was compiled, and the error is about SQL.
-/
structure Translates
    (describe : ResultCode → Bytes)
    (h : HandleError)
    (code : ResultCode)
    (phase : Phase)
    (sql : Bytes)
    (e : DatabaseError) : Prop where
  refined :
    ResultCode.primary h.code = ResultCode.primary code →
      e.code = h.code
  returned :
    ResultCode.primary h.code ≠ ResultCode.primary code →
      e.code = code
  low : e.primaryCode = ResultCode.primary code
  kind :
    (firstRow? kindTable (ResultCode.primary code) phase
      (h.text describe code)).map (·.kind) = some e.kind
  message :
    e.message =
      Bytes.ascii e.kind.label ++ h.text describe code
  sql : e.sql = if e.kind.carriesSql then sql else []
  offset : ∀ o, e.offset = some o ↔
    phase = .preparing ∧ 0 ≤ h.offset ∧
      (e.kind = .badSql ∨ e.kind = .schema) ∧ h.offset = o

/- The kind depends on the primary code only. -/
theorem classify_congr
    {code code' : ResultCode}
    (hSame : ResultCode.primary code =
      ResultCode.primary code')
    (phase : Phase)
    (message : Bytes) :
    classify code phase message =
      classify code' phase message := by
  unfold classify
  rw [hSame]

/- The code of an error of a handle. -/
def refinedCode
    (h : HandleError)
    (code : ResultCode) : ResultCode :=
  if ResultCode.primary h.code = ResultCode.primary code
  then h.code else code

/- A code is refined by one of its own family. -/
theorem primary_refinedCode
    (h : HandleError)
    (code : ResultCode) :
    ResultCode.primary (refinedCode h code) =
      ResultCode.primary code := by
  unfold refinedCode
  split
  case isTrue hSame => exact hSame
  case isFalse => rfl

/- What the error of a handle is made of. -/
theorem ofHandle_eq
    (h : HandleError)
    (code : ResultCode)
    (phase : Phase)
    (sql : Bytes) :
    ofHandle describe h code phase sql =
      ofCode (refinedCode h code) phase
        (h.text describe code) sql
        (if phase = .preparing ∧ 0 ≤ h.offset
        then some h.offset else none) := by
  unfold ofHandle refinedCode HandleError.text
  simp only [List.isEmpty_iff]

/- The kinds that carry an offset are about SQL. -/
theorem carriesOffset_iff {kind : ErrorKind} :
    kind.carriesOffset = true ↔
      kind = .badSql ∨ kind = .schema := by
  cases kind <;> simp [ErrorKind.carriesOffset]

theorem ofHandle_translates
    (h : HandleError)
    (code : ResultCode)
    (phase : Phase)
    (sql : Bytes) :
    Translates describe h code phase sql
      (ofHandle describe h code phase sql) := by
  have hPrimary := primary_refinedCode h code
  rw [ofHandle_eq]
  constructor
  case refined => exact fun hSame => if_pos hSame
  case returned => exact fun hOther => if_neg hOther
  case low => exact hPrimary
  case kind =>
    rw [firstRow?_kindTable]
    exact congrArg some
      (classify_congr hPrimary.symm phase
        (h.text describe code))
  case message => rfl
  case sql => rfl
  case offset =>
    intro o
    simp only [ofCode, ofKind, Option.ite_none_right_eq_some,
      carriesOffset_iff, Option.some.injEq]
    tauto

/-
  The error of a handle that knows the full code and a message
  is the same if only the primary code is returned.
-/
theorem ofHandle_primary
    {h : HandleError}
    {code : ResultCode}
    (hMessage : h.message ≠ [])
    (hRefines : ResultCode.primary h.code =
      ResultCode.primary code)
    (phase : Phase)
    (sql : Bytes) :
    ofHandle describe h (ResultCode.primary code) phase sql =
      ofHandle describe h code phase sql := by
  have hTwice : ResultCode.primary
      (ResultCode.primary code) = ResultCode.primary code :=
    Int.emod_emod_of_dvd code (Int.dvd_refl 256)
  have hCode : ∀ {c}, ResultCode.primary c =
      ResultCode.primary code →
        refinedCode h c = h.code := fun hSame =>
    if_pos (hRefines.trans hSame.symm)
  have hText : ∀ c, h.text describe c = h.message :=
    fun _ => if_neg hMessage
  rw [ofHandle_eq, ofHandle_eq, hCode hTwice, hCode rfl,
    hText, hText]

end DatabaseError

------------------------------------------------------------
-- Errors of Sessions
------------------------------------------------------------

namespace Session

variable {E : Engine}

open Quiet Attempt

/-
  What the handle of a database would tell about its latest
  failure if it was asked now.
-/
def errorState
    (db : DatabaseHandle)
    (s : Session E) : HandleError :=
  let code := E.answer (.extendedErrorCode db) s.world.engine
  let message := E.answer (.errorMessage db) code.2
  let offset := E.answer (.errorOffset db) message.2
  { code := code.1
    message := message.1
    offset := offset.1 }

/- The error of a failed call is that of its handle. -/
theorem handleError_run
    (db : DatabaseHandle)
    (code : ResultCode)
    (phase : Phase)
    (sql : Bytes)
    (s : Session E) :
    (handleError db code phase sql s).1 =
      .ofHandle E.describe (s.errorState db) code phase
        sql := by
  unfold handleError
  simp only [Quiet.run_bind]
  by_cases hPhase : phase = .preparing
  · rw [if_pos hPhase]
    rfl
  · -- the position is not asked for, and not looked at either
    rw [if_neg hPhase]
    simp only [DatabaseError.ofHandle_eq, hPhase, false_and,
      if_false]
    rfl

/-
  Whatever a handle tells about a call that has failed, the
  error that is raised says that, and is the same if the
  engine returns only the primary code of a full code that the
  handle knows.
-/
theorem errors_translated
    (db : DatabaseHandle)
    (code : ResultCode)
    (phase : Phase)
    (sql : Bytes)
    (s : Session E) :
    ∃ e,
      ((check db code phase sql).run s).1 =
          (if code = ResultCode.ok then .ok ()
          else .error (.database e)) ∧
        (handleError db code phase sql s).1 = e ∧
        DatabaseError.Translates E.describe (s.errorState db)
          code phase sql e ∧
        ((s.errorState db).message ≠ [] →
          ResultCode.primary (s.errorState db).code =
            ResultCode.primary code →
          (handleError db (ResultCode.primary code) phase sql
            s).1 = e) := by
  refine ⟨_, ?_, handleError_run db code phase sql s,
    DatabaseError.ofHandle_translates _ _ _ _, ?_⟩
  · rw [← handleError_run db code phase sql s]
    split
    case isTrue hCode =>
      rw [hCode, check_ok]
      rfl
    case isFalse hCode =>
      rw [check_of_ne hCode, run_bind_of_ok (run_lift _ s)]
      rfl
  · intro hMessage hRefines
    rw [handleError_run]
    exact DatabaseError.ofHandle_primary hMessage hRefines
      phase sql

end Session

end SqliteAccess
