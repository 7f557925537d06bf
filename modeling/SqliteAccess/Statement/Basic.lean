import SqliteAccess.Engine.Call
import SqliteAccess.Session.Place

/-
  Prepared statements and the rows that are read from them.

  A statement is ready to run, stands on a row, is done, or
  is finalized.  Its generation counts its changes of state;
  a row remembers the generation at which it was read.

  Key definitions include:
    * `StatementState`
    * `StepResult`
    * `Statement`
    * `Statement.vacant`
    * `Statement.emptied`
    * `Row`
-/

namespace SqliteAccess

------------------------------------------------------------
-- States
------------------------------------------------------------

/- Where a statement stands in its execution. -/
inductive StatementState where
  | ready
  | row
  | done
  | finalized
  deriving DecidableEq

namespace StatementState

/- The states in the order of their numbers. -/
def all : List StatementState :=
  [ready, row, done, finalized]

/- The state with a given number. -/
def ofNumber? (n : Nat) : Option StatementState :=
  all[n]?

/- The name of a state. -/
def name : StatementState → String
  | ready => "Ready"
  | row => "Row"
  | done => "Done"
  | finalized => "Finalized"

end StatementState

/- How a step that did not fail ends. -/
inductive StepResult where
  | row
  | completed
  deriving DecidableEq

------------------------------------------------------------
-- Statements
------------------------------------------------------------

/-
  A statement: the token for its rows, its handle and its
  connection until it is finalized, its SQL text, where the
  text that follows it starts and whether that text holds
  another statement, its state, whether its last step failed,
  its generation, and what it said about its parameters and
  columns when it was compiled.
-/
structure Statement where
  anchor : Option Anchor
  handle : Option StatementHandle
  connection : Option ConnectionId
  sql : Bytes
  tailOffset : Nat
  hasTail : Bool
  state : StatementState
  stepFailed : Bool
  generation : UInt64
  parameterCount : Nat
  columnNames : List Bytes
  columnTypes : List Bytes
  deriving DecidableEq

namespace Statement

/- What a place without a statement reads as. -/
def vacant : Statement :=
  { anchor := none
    handle := none
    connection := none
    sql := []
    tailOffset := 0
    hasTail := false
    state := .finalized
    stepFailed := false
    generation := 0
    parameterCount := 0
    columnNames := []
    columnTypes := [] }

/- What is left of a statement that has been moved away. -/
def emptied (s : Statement) : Statement :=
  { s with
    anchor := none
    handle := none
    connection := none
    sql := []
    state := .finalized
    generation := s.generation + 1
    columnNames := []
    columnTypes := [] }

/- A statement without its handle and its connection. -/
def ended (s : Statement) : Statement :=
  { s with
    handle := none
    connection := none
    state := .finalized
    stepFailed := false
    generation := s.generation + 1 }

/- A statement that has been reset. -/
def rewound (s : Statement) : Statement :=
  { s with
    state := .ready
    stepFailed := false
    generation := s.generation + 1 }

/- A statement that has been stepped, with a result code. -/
def stepped
    (s : Statement)
    (code : ResultCode) : Statement :=
  let moved := { s with generation := s.generation + 1 }
  if code = ResultCode.row then
    { moved with state := .row }
  else if code = ResultCode.done then
    { moved with state := .done }
  else
    { moved with state := .done, stepFailed := true }

end Statement

------------------------------------------------------------
-- Rows
------------------------------------------------------------

/-
  A row: the token of the statement it was read from, and the
  generation of that statement.
-/
structure Row where
  anchor : Option Anchor
  generation : UInt64
  deriving DecidableEq

/- Whether a row is the one that a statement stands on. -/
def Row.matches
    (r : Row)
    (s : Statement) : Bool :=
  s.state = .row && s.generation = r.generation

end SqliteAccess
