import SqliteAccess.Proofs.Operation.Perform
import SqliteAccess.Proofs.Transaction.Guards

/-
  What operations name.

  An operation names objects by their slots.  What it may
  change, close or give something new is named by it, apart
  from what is lost together with a connection that it
  destroys.

  Key definitions include:
    * `Object`
    * `Operation.names`
    * `World.Owns`

  The operations are characterized by:
    * `Operation.named_of_mayChange`
    * `Operation.owned_of_mayEnd`
    * `Operation.owned_of_mayEnlist`
-/

namespace SqliteAccess

variable {E : Engine}

------------------------------------------------------------
-- Objects
------------------------------------------------------------

/- The objects that an operation may name. -/
inductive Object where
  | statement (s : Nat)
  | row (r : Nat)
  | guard (k : GuardKind) (n : Nat)
  | backup (b : Nat)
  | connection (c : Nat)
  | serialized (z : Nat)
  deriving DecidableEq

/-
  Whether an object is a connection or belongs to it.  A row
  belongs to its statement only.
-/
def World.Owns
    (w : World E)
    (c : ConnectionId) : Object → Prop
  | .statement s =>
      ∃ x, w.statements.get? (.slot s) = some x ∧
        x.connection = some c
  | .row _ => False
  | .guard .transaction t =>
      ∃ x, w.transactions.get? (.slot t) = some x ∧
        x.connection = some c
  | .guard .savepoint p =>
      ∃ x, w.savepoints.get? (.slot p) = some x ∧
        x.connection = some c
  | .backup b =>
      ∃ x, w.backups.get? (.slot b) = some x ∧
        (x.source = some c ∨ x.destination = some c)
  | .connection n => w.plain.get? n = some c
  | .serialized z => w.serialized.get? z = some c

/- A connection owns the statements that are live on it. -/
theorem World.owns_of_liveStatement
    {w : World E}
    {c : ConnectionId}
    {n : Nat}
    (hLive : LiveStatement w.statements (.slot n) c) :
    w.Owns c (.statement n) := by
  rcases hLive with ⟨x, hFound, _, hOwner⟩
  exact ⟨x, hFound, hOwner⟩

/- Both connections of a backup own it. -/
theorem World.owns_of_liveBackup
    {w : World E}
    {c : ConnectionId}
    {n : Nat}
    (hLive : LiveBackup w.backups (.slot n) c) :
    w.Owns c (.backup n) := by
  rcases hLive with ⟨x, hFound, _, hUses⟩
  exact ⟨x, hFound, hUses⟩

------------------------------------------------------------
-- Names
------------------------------------------------------------

namespace Operation

/- The objects that an operation names. -/
def names : Operation → List Object
  | library _ => []
  | log _ => []
  | openConnection c _ _ => [.connection c]
  | dropConnection c => [.connection c]
  | connection c _ => [.connection c]
  | copyAll source destination =>
      [.connection source, .connection destination]
  | prepare c s _ => [.connection c, .statement s]
  | assignPrepared c s _ => [.connection c, .statement s]
  | moveStatement source target =>
      [.statement source, .statement target]
  | assignStatement source target =>
      [.statement source, .statement target]
  | dropStatement s => [.statement s]
  | fetch s r => [.statement s, .row r]
  | statement s _ => [.statement s]
  | row r _ => [.row r]
  | begin c t _ => [.connection c, .guard .transaction t]
  | moveTransaction source target =>
      [.guard .transaction source, .guard .transaction target]
  | assignTransaction source target =>
      [.guard .transaction source, .guard .transaction target]
  | dropTransaction t => [.guard .transaction t]
  | transaction t _ => [.guard .transaction t]
  | savepoint t p _ =>
      [.guard .transaction t, .guard .savepoint p]
  | savepointOn c p _ => [.connection c, .guard .savepoint p]
  | moveSavepoint source target =>
      [.guard .savepoint source, .guard .savepoint target]
  | assignSavepoint source target =>
      [.guard .savepoint source, .guard .savepoint target]
  | dropSavepoint p => [.guard .savepoint p]
  | askSavepoint p _ => [.guard .savepoint p]
  | startBackup b source destination _ _ =>
      [.backup b, .connection source, .connection destination]
  | dropBackup b => [.backup b]
  | backup b _ => [.backup b]
  | serialize z c =>
      .serialized z :: (c.map Object.connection).toList
  | prepareSerialized z s _ => [.serialized z, .statement s]
  | dropSerialized z => [.serialized z]
  | serialized z _ => [.serialized z]

variable {op : Operation} {w : World E} {c : ConnectionId}

/-
  An operation that destroys no connection changes statements
  and backups that it names, or temporary ones.
-/
theorem named_of_mayChange
    (hStays : op.mayDestroyConnection = false) :
    (∀ n, op.mayChange (.statement (.slot n)) →
      .statement n ∈ op.names) ∧
    ∀ n, op.mayChange (.backup (.slot n)) →
      .backup n ∈ op.names := by
  cases op <;>
    simp [mayDestroyConnection, mayChange, names] at hStays ⊢

/- One that names a statement destroys and closes nothing. -/
theorem spares_of_named
    {n : Nat}
    (hNamed : .statement n ∈ op.names) :
    op.mayDestroyConnection = false ∧ ∀ c, ¬ op.mayEnd w c := by
  cases op <;>
    simp [names, mayDestroyConnection, mayEnd] at hNamed ⊢

/- Statements are moved from slot to slot, or one is named. -/
theorem named_cases
    {n : Nat}
    (hNamed : .statement n ∈ op.names) :
    (∃ a b, op = moveStatement a b) ∨
      (∃ a b, op = assignStatement a b) ∨
        ∀ m, .statement m ∈ op.names → m = n := by
  cases op <;> simp_all [names]

/- A connection that may be closed is named, or a new one. -/
theorem owned_of_mayEnd
    (hMay : op.mayEnd w c) :
    (∃ o ∈ op.names, w.Owns c o) ∨
      w.issued.connections < c.number := by
  cases op with
  | openConnection n path options =>
      exact hMay.imp_left fun hSlot =>
        ⟨.connection n, by simp [names], hSlot⟩
  | dropConnection n =>
      exact .inl ⟨.connection n, by simp [names], hMay⟩
  | connection n r =>
      cases r with
      | close =>
          exact .inl ⟨.connection n, by simp [names], hMay⟩
      | _ => exact absurd hMay id
  | serialize z n =>
      exact .inl ⟨.serialized z, by simp [names], hMay⟩
  | dropSerialized z =>
      exact .inl ⟨.serialized z, by simp [names], hMay⟩
  | serialized z r =>
      cases r with
      | close =>
          exact .inl ⟨.serialized z, by simp [names], hMay⟩
      | _ => exact absurd hMay id
  | _ => exact absurd hMay id

/- One old connection at most may be closed. -/
theorem mayEnd_unique
    {d : ConnectionId}
    (hMay : op.mayEnd w c)
    (hMay' : op.mayEnd w d)
    (hOld : c.number ≤ w.issued.connections)
    (hOld' : d.number ≤ w.issued.connections) :
    c = d := by
  have hSame : ∀ {t : Table Nat ConnectionId} {n : Nat},
      t.get? n = some c → t.get? n = some d → c = d := by
    intro t n hSlot hSlot'
    exact Option.some.inj (hSlot.symm.trans hSlot')
  cases op with
  | openConnection n path options =>
      rcases hMay with hSlot | hNew
      · rcases hMay' with hSlot' | hNew'
        · exact hSame hSlot hSlot'
        · omega
      · omega
  | dropConnection n => exact hSame hMay hMay'
  | connection n r =>
      cases r with
      | close => exact hSame hMay hMay'
      | _ => exact absurd hMay id
  | serialize z n => exact hSame hMay hMay'
  | dropSerialized z => exact hSame hMay hMay'
  | serialized z r =>
      cases r with
      | close => exact hSame hMay hMay'
      | _ => exact absurd hMay id
  | _ => exact absurd hMay id

/- A connection that may get something new is named. -/
theorem owned_of_mayEnlist
    (hMay : op.mayEnlist w c) :
    ∃ o ∈ op.names, w.Owns c o := by
  cases op with
  | prepare n s sql =>
      exact ⟨.connection n, by simp [names], hMay⟩
  | assignPrepared n s sql =>
      exact ⟨.connection n, by simp [names], hMay⟩
  | prepareSerialized z s sql =>
      exact ⟨.serialized z, by simp [names], hMay⟩
  | startBackup b n m first second =>
      rcases hMay with hSource | hDestination
      · exact ⟨.connection n, by simp [names], hSource⟩
      · exact ⟨.connection m, by simp [names], hDestination⟩
  | _ => exact absurd hMay id

end Operation

end SqliteAccess
