import SqliteAccess.Proofs.Connection.Carrying
import SqliteAccess.Proofs.Trace.Lawful

/-
  Which transaction of a database is open.

  The transactions of a database are numbered in the order in
  which they were begun.  There is at most one open at a time,
  and the engine may give it up by itself.  Nothing is seen of
  that but what the engine answers when it is asked.

  Key definitions include:
    * `Trace.begun`
    * `Trace.current`
    * `Trace.Documented`

  The open transactions are characterized by:
    * `Trace.current_cases`
    * `Trace.Documented.current_of_ends`
-/

namespace SqliteAccess

------------------------------------------------------------
-- Texts of Transactions
------------------------------------------------------------

namespace Transaction

/- Whether a text begins a transaction. -/
def begins (sql : Bytes) : Bool :=
  TransactionType.all.any fun type => sql = beginSql type

/- Whether a text ends a transaction. -/
def ends (sql : Bytes) : Bool :=
  sql = Bytes.ascii "COMMIT" || sql = Bytes.ascii "ROLLBACK"

theorem begins_beginSql (type : TransactionType) :
    begins (beginSql type) = true := by
  cases type <;> decide +kernel

theorem ends_commit :
    ends (Bytes.ascii "COMMIT") = true := by
  decide +kernel

theorem ends_rollback :
    ends (Bytes.ascii "ROLLBACK") = true := by
  decide +kernel

end Transaction

------------------------------------------------------------
-- Transactions of a Database
------------------------------------------------------------

namespace Trace

/- Whether a call has begun a transaction of a database. -/
def begins
    (t : Trace)
    (db : DatabaseHandle)
    (e : Event) : Bool :=
  (t.carried? e).any fun x =>
    x.1 = db && Transaction.begins x.2

/- Whether a call has ended a transaction of a database. -/
def ends
    (t : Trace)
    (db : DatabaseHandle)
    (e : Event) : Bool :=
  (t.carried? e).any fun x =>
    x.1 = db && Transaction.ends x.2

/- How many transactions of a database were begun. -/
def begun (t : Trace) (db : DatabaseHandle) : Nat :=
  t.carried.countP fun x =>
    x.1 = db && Transaction.begins x.2

/-
  The number of the open transaction of a database, if there
  is one.  It is not seen in the calls when the engine gives
  one up by itself, so that this is told apart.
-/
def current
    (lost : Trace → DatabaseHandle → Bool) :
    Trace → DatabaseHandle → Option Nat
  | [], _ => none
  | e :: t, db =>
      if begins t db e then some (begun (e :: t) db)
      else if ends t db e || lost (e :: t) db then none
      else current lost t db

/-
  Whether the engine has answered a call as it is documented
  to do.  It begins a transaction only if none is open, ends
  one only if one is, and tells whether one is when asked.
-/
structure Answers
    (lost : Trace → DatabaseHandle → Bool)
    (t : Trace)
    (e : Event) : Prop where
  single : ∀ db, begins t db e = true →
    current lost t db = none
  pending : ∀ db, ends t db e = true →
    current lost t db ≠ none
  told : ∀ db idle, e = ⟨.autocommit db, idle⟩ →
    idle = (current lost t db).isNone

/- Whether it has answered every call so. -/
def Documented
    (lost : Trace → DatabaseHandle → Bool) : Trace → Prop :=
  Each (Answers lost)

variable {lost : Trace → DatabaseHandle → Bool}
variable {e : Event} {t : Trace} {db : DatabaseHandle}

/- A call has begun one transaction at most. -/
theorem begun_cons :
    begun (e :: t) db =
      begun t db + if begins t db e then 1 else 0 := by
  unfold begun begins
  show List.countP _ ((carried? t e).toList ++ carried t) = _
  rw [List.countP_append, Nat.add_comm]
  congr 1
  cases carried? t e with
  | none => rfl
  | some x => simp [List.countP_singleton]

/- A call that has ended a transaction has carried a text out. -/
theorem carried_of_ends
    (hEnds : ends t db e = true) :
    ∃ sql, carried (e :: t) = (db, sql) :: carried t := by
  rcases (Option.any_eq_true _ _).mp hEnds with
    ⟨⟨db', sql⟩, hCarried, hBoth⟩
  rw [Bool.and_eq_true, decide_eq_true_eq] at hBoth
  cases hBoth.1
  refine ⟨sql, ?_⟩
  show (carried? t e).toList ++ carried t = _
  rw [hCarried]
  rfl

/- The open transaction is the one that was begun last. -/
theorem current_cases
    (lost : Trace → DatabaseHandle → Bool)
    (t : Trace)
    (db : DatabaseHandle) :
    current lost t db = none ∨
      current lost t db = some (begun t db) := by
  induction t with
  | nil => exact .inl rfl
  | cons e t ih =>
      unfold current
      split
      case isTrue => exact .inr rfl
      case isFalse hNew =>
        split
        case isTrue => exact .inl rfl
        case isFalse =>
          rw [begun_cons, if_neg hNew]
          exact ih

/- The transaction that is ended is the one begun last. -/
theorem Documented.current_of_ends
    {later earlier : Trace}
    (hDocumented : Documented lost (later ++ e :: earlier))
    (hEnds : ends earlier db e = true) :
    current lost earlier db = some (begun earlier db) := by
  have hSome := (hDocumented later e earlier rfl).pending db
    hEnds
  exact (current_cases lost earlier db).resolve_left hSome

------------------------------------------------------------
-- Deciding
------------------------------------------------------------

/- Whether a call was answered as documented. -/
def answers
    (lost : Trace → DatabaseHandle → Bool)
    (t : Trace)
    (e : Event) : Bool :=
  ((t.carried? e).all fun x =>
    (! Transaction.begins x.2 ||
      (current lost t x.1).isNone) &&
    (! Transaction.ends x.2 ||
      (current lost t x.1).isSome)) &&
    match e with
    | ⟨.autocommit db, idle⟩ =>
        idle = (current lost t db).isNone
    | _ => true

theorem answers_iff :
    answers lost t e = true ↔ Answers lost t e := by
  have hTold : (match e with
      | ⟨.autocommit db, idle⟩ =>
          decide (idle = (current lost t db).isNone)
      | _ => true) = true ↔
        ∀ db idle, e = ⟨.autocommit db, idle⟩ →
          idle = (current lost t db).isNone := by
    rcases e with ⟨call, answer⟩
    cases call <;> simp
  have hTexts : ((t.carried? e).all fun x =>
      (! Transaction.begins x.2 ||
        (current lost t x.1).isNone) &&
      (! Transaction.ends x.2 ||
        (current lost t x.1).isSome)) = true ↔
        (∀ db, begins t db e = true →
          current lost t db = none) ∧
        ∀ db, ends t db e = true →
          current lost t db ≠ none := by
    unfold begins ends
    cases carried? t e with
    | none => simp
    | some x =>
        cases hBegins : Transaction.begins x.2 <;>
          cases hEnds : Transaction.ends x.2 <;>
            simp [hBegins, hEnds, Option.isSome_iff_ne_none]
  unfold answers
  rw [Bool.and_eq_true, hTexts, hTold]
  exact ⟨fun h => ⟨h.1.1, h.1.2, h.2⟩,
    fun h => ⟨⟨h.single, h.pending⟩, h.told⟩⟩

/- Whether every call was. -/
def documented
    (lost : Trace → DatabaseHandle → Bool) : Trace → Bool
  | [] => true
  | e :: t => answers lost t e && documented lost t

theorem documented_iff :
    documented lost t = true ↔ Documented lost t := by
  induction t with
  | nil => exact ⟨fun _ => each_nil, fun _ => rfl⟩
  | cons e t ih =>
      unfold documented Documented
      rw [Bool.and_eq_true, answers_iff, ih]
      exact each_cons.symm

instance
    (lost : Trace → DatabaseHandle → Bool)
    (t : Trace) : Decidable (Documented lost t) :=
  decidable_of_iff _ documented_iff

end Trace

end SqliteAccess
