import SqliteAccess.Session.Place
import SqliteAccess.Text.Bytes

/-
  Guards of transactions and of savepoints.

  Key definitions include:
    * `TransactionType`
    * `Transaction`
    * `Savepoint`
-/

namespace SqliteAccess

------------------------------------------------------------
-- Transactions
------------------------------------------------------------

/-
  When a transaction takes its lock: on first access, at once
  for writing, or at once for itself alone.
-/
inductive TransactionType where
  | deferred
  | immediate
  | exclusive
  deriving DecidableEq

namespace TransactionType

/- The types in the order of their numbers. -/
def all : List TransactionType :=
  [deferred, immediate, exclusive]

/- The type with a given number. -/
def ofNumber? (n : Nat) : Option TransactionType :=
  all[n]?

/- The word for a type in SQL. -/
def name : TransactionType → String
  | deferred => "DEFERRED"
  | immediate => "IMMEDIATE"
  | exclusive => "EXCLUSIVE"

end TransactionType

/-
  The guard of a transaction: the connection it was begun on,
  its type, and whether the guard still has to end it.
-/
structure Transaction where
  connection : Option ConnectionId
  type : TransactionType
  active : Bool
  deriving DecidableEq

/- What is left of a guard that has been moved away. -/
def Transaction.emptied (t : Transaction) : Transaction :=
  { t with connection := none, active := false }

/- A guard that has nothing left to end. -/
def Transaction.ended (t : Transaction) : Transaction :=
  { t with active := false }

------------------------------------------------------------
-- Savepoints
------------------------------------------------------------

/-
  The guard of a savepoint: the connection it was made on,
  its name, and whether the guard still has to end it.
-/
structure Savepoint where
  connection : Option ConnectionId
  name : Bytes
  active : Bool
  deriving DecidableEq

/- What is left of a guard that has been moved away. -/
def Savepoint.emptied (s : Savepoint) : Savepoint :=
  { s with connection := none, name := [], active := false }

/- A guard that has nothing left to end. -/
def Savepoint.ended (s : Savepoint) : Savepoint :=
  { s with active := false }

end SqliteAccess
