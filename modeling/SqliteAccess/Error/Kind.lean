import SqliteAccess.Text.Bytes

/-
  The kinds of failure.

  Key definitions include:
    * `ErrorKind`
    * `ErrorKind.name`
    * `ErrorKind.label`
-/

namespace SqliteAccess

/-
  What a failure is about:

    * `opening`: a database cannot be opened or created
    * `badSql`: a statement does not compile
    * `schema`: an object is missing or does not match
    * `constraint`: a constraint is violated
    * `busy`: another connection holds a lock
    * `locked`: a lock conflict inside one connection
    * `conversion`: a value does not fit, or a text is no UTF-8
    * `binding`: a parameter does not exist
    * `usage`: a rule of use or of lifetime is broken
    * `interrupted`: the work was cancelled
    * `engine`: everything else
-/
inductive ErrorKind where
  | opening
  | badSql
  | schema
  | constraint
  | busy
  | locked
  | conversion
  | binding
  | usage
  | interrupted
  | engine
  deriving DecidableEq

namespace ErrorKind

/- The kinds in the order of their numbers. -/
def all : List ErrorKind :=
  [opening, badSql, schema, constraint, busy, locked,
    conversion, binding, usage, interrupted, engine]

/- The kind with a given number. -/
def ofNumber? (n : Nat) : Option ErrorKind :=
  all[n]?

/- The name of a kind. -/
def name : ErrorKind → String
  | opening => "Open"
  | badSql => "Syntax"
  | schema => "Schema"
  | constraint => "Constraint"
  | busy => "Busy"
  | locked => "Locked"
  | conversion => "Conversion"
  | binding => "Bind"
  | usage => "Usage"
  | interrupted => "Interrupted"
  | engine => "Engine"

/- What messages of a kind start with. -/
def label : ErrorKind → String
  | opening => "Open error: "
  | badSql => "Syntax error: "
  | schema => "Schema error: "
  | constraint => "Constraint violation: "
  | busy => "Busy: "
  | locked => "Locked: "
  | conversion => "Conversion error: "
  | binding => "Bind error: "
  | usage => "Usage error: "
  | interrupted => "Interrupted: "
  | engine => "Engine error: "

/- Whether errors of a kind carry SQL text. -/
def carriesSql : ErrorKind → Bool
  | opening => false
  | conversion => false
  | _ => true

/- Whether errors of a kind carry a position in the SQL. -/
def carriesOffset : ErrorKind → Bool
  | badSql => true
  | schema => true
  | _ => false

end ErrorKind

end SqliteAccess
