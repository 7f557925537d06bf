/-
  Where the objects of a session are kept.

  Key definitions include:
    * `ConnectionId`
    * `Anchor`
    * `Place`
-/

namespace SqliteAccess

/-
  The identity of a connection.  No two connections of a
  session ever have the same one, so an identity whose
  connection is gone stays without a connection.
-/
structure ConnectionId where
  number : Nat
  deriving DecidableEq

/-
  The token by which rows find the statement they were read
  from, wherever it has been moved to.
-/
structure Anchor where
  number : Nat
  deriving DecidableEq

/-
  Where a statement, a guard or a backup is kept: in a
  numbered slot, or in the scratch place, which holds the
  object that a single call uses for itself.
-/
inductive Place where
  | scratch
  | slot (n : Nat)
  deriving DecidableEq

/- The order of places. -/
def Place.rank : Place → Nat
  | scratch => 0
  | slot n => n + 1

end SqliteAccess
