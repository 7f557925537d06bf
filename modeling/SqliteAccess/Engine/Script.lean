import SqliteAccess.Engine.Call

/-
  Scripts for engines: descriptions of what an engine shall
  answer, without any SQL being understood.

  Key definitions include:
    * `Fault`
    * `Cell`
    * `Outcome`
    * `Run`
    * `Program`
    * `Program.take`
    * `BackupPlan`
    * `Script`
-/

namespace SqliteAccess

------------------------------------------------------------
-- Faults
------------------------------------------------------------

/-
  A failure to be reported on a handle.  Unless told
  otherwise, the handle reports the same code, the message is
  the description of the code, and no offset is known.
-/
structure Fault where
  code : ResultCode
  message : Option Bytes := none
  handleCode : Option ResultCode := none
  offset : Option Int := none
  deriving DecidableEq

/-
  A failure of opening a database, which may leave a handle
  behind or not.
-/
structure OpenFault where
  fault : Fault
  withoutHandle : Bool
  deriving DecidableEq

------------------------------------------------------------
-- Rows
------------------------------------------------------------

/-
  The content of a column: a value, what is bound to a
  parameter, a text that cannot be read, or a blob that
  cannot be read.
-/
inductive Cell where
  | value (v : Value)
  | parameter (index : Int)
  | lostText (code : ResultCode)
  | lostBlob
  deriving DecidableEq

/- The type code of a content. -/
def Cell.typeCode : Cell → Int
  | .value (.integer _) => 1
  | .value (.real _) => 2
  | .value (.text _) => 3
  | .value (.blob _) => 4
  | .lostText _ => 3
  | .lostBlob => 4
  | _ => 5

/- How a single step ends. -/
inductive Ending where
  | row (cells : List Cell)
  | done
  | failed (fault : Fault)
  deriving DecidableEq

/-
  A single step: its end, and what it does to the number of
  changed rows, the last row and the open transaction.
-/
structure Outcome where
  ending : Ending
  changes : Option Int := none
  rowId : Option Int64 := none
  autocommit : Option Bool := none
  deriving DecidableEq

/-
  One run of a statement: its steps, and the failure that is
  reported at its end.
-/
structure Run where
  outcomes : List Outcome := []
  ending : Option Fault := none
  deriving DecidableEq

------------------------------------------------------------
-- Programs
------------------------------------------------------------

/-
  What happens to the texts that start with a given one: how
  often it happens, whether they compile and to what, and how
  the statement behaves.  The last run is repeated.
-/
structure Program where
  sql : Bytes
  uses : Option Nat := none
  textMissing : Bool := false
  tail : Option Nat := none
  tailMissing : Bool := false
  fault : Option Fault := none
  empty : Bool := false
  columns : List (Option Bytes × Option Bytes) := []
  parameters : List (Option Bytes) := []
  readOnly : Bool := false
  expanded : Option (Option Bytes) := none
  bindFaults : List (Int × Fault) := []
  clearFault : Option Fault := none
  runs : List Run := []
  deriving DecidableEq

/-
  Whether a program is meant for a text: its own text comes
  first there, and does not end inside a word.
-/
def Program.fits
    (p : Program)
    (sql : Bytes) : Bool :=
  p.uses ≠ some 0 && p.sql.isPrefixOf sql &&
    ! ((p.sql.getLast?.any Bytes.isWordByte) &&
      ((sql.drop p.sql.length).head?.any Bytes.isWordByte))

/- A program that may be used once less. -/
def Program.used (p : Program) : Program :=
  { p with uses := p.uses.map (· - 1) }

/-
  Take the first program that is meant for a text; the list
  of programs is returned with that use noted.
-/
def Program.take
    (sql : Bytes) :
    List Program → Option Program × List Program
  | [] => (none, [])
  | p :: r =>
      if p.fits sql then
        (some p, p.used :: r)
      else
        let (found, r) := Program.take sql r
        (found, p :: r)

/-
  A backup: its pages, the failures of its steps, and the
  failure at its end.
-/
structure BackupPlan where
  pages : Int := 0
  steps : List (Option Fault) := []
  finish : Option Fault := none
  deriving DecidableEq

------------------------------------------------------------
-- Scripts
------------------------------------------------------------

/-
  A script: the failures of the next calls of each sort, the
  programs and backups, and what is known about schemas.
  Where nothing is said, calls succeed.
-/
structure Script where
  startups : List (Option Fault) := []
  shutdowns : List (Option Fault) := []
  openings : List (Option OpenFault) := []
  closings : List (Option Fault) := []
  extendedCodes : List (Option Fault) := []
  busyTimeouts : List (Option Fault) := []
  configurations : List (Option Fault) := []
  backupStarts : List (Option Fault) := []
  programs : List Program := []
  backups : List BackupPlan := []
  transactions : Option (List (Bytes × Int)) := none
  readOnly : Option (List (Bytes × Int)) := none
  deriving DecidableEq

end SqliteAccess
