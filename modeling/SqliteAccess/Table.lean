/-
  Finite tables, and finite sets that are kept as lists.

  Key definitions include:
    * `Ascending.sort`
    * `Table`
    * `Table.get?`
    * `Table.put`
    * `Table.erase`
    * `Table.keys`

  The tables are characterized by:
    * `Table.get?_put`
    * `Table.get?_erase`
    * `Table.mem_keys_iff`
-/

namespace SqliteAccess

------------------------------------------------------------
-- Ascending Order
------------------------------------------------------------

namespace Ascending

variable {α : Type}

/- Put an element before the first one of greater rank. -/
def insert
    (rank : α → Nat)
    (x : α) : List α → List α
  | [] => [x]
  | y :: r =>
      if rank x ≤ rank y then x :: y :: r
      else y :: insert rank x r

/- The elements of a list in ascending order of rank. -/
def sort (rank : α → Nat) : List α → List α
  | [] => []
  | x :: r => insert rank x (sort rank r)

@[simp]
theorem mem_insert
    (rank : α → Nat)
    (x z : α)
    (l : List α) :
    z ∈ insert rank x l ↔ z = x ∨ z ∈ l := by
  induction l with
  | nil => simp [insert]
  | cons y r ih =>
      by_cases h : rank x ≤ rank y
      · simp [insert, h]
      · simp only [insert, h, if_false, List.mem_cons, ih]
        exact or_left_comm

/- Sorting keeps the elements. -/
@[simp]
theorem mem_sort
    (rank : α → Nat)
    (z : α)
    (l : List α) :
    z ∈ sort rank l ↔ z ∈ l := by
  induction l with
  | nil => simp [sort]
  | cons x r ih => simp [sort, ih]

end Ascending

------------------------------------------------------------
-- Tables
------------------------------------------------------------

/- A finite map, as a list of keys with their values. -/
structure Table (κ α : Type) where
  entries : List (κ × α) := []

namespace Table

variable {κ α : Type} [DecidableEq κ]

/- The value of a key. -/
def get?
    (t : Table κ α)
    (k : κ) : Option α :=
  (t.entries.find? fun e => e.1 = k).map (·.2)

/- Remove a key. -/
def erase
    (t : Table κ α)
    (k : κ) : Table κ α :=
  { entries := t.entries.filter fun e => e.1 ≠ k }

/- Give a key a value. -/
def put
    (t : Table κ α)
    (k : κ)
    (v : α) : Table κ α :=
  { entries := (k, v) :: (t.erase k).entries }

/- Whether a key has a value. -/
def contains
    (t : Table κ α)
    (k : κ) : Bool :=
  (t.get? k).isSome

/- The keys that have a value. -/
def keys (t : Table κ α) : List κ :=
  t.entries.map (·.1)

/- The first key whose value satisfies a test. -/
def findKey?
    (t : Table κ α)
    (test : α → Bool) : Option κ :=
  (t.entries.find? fun e => test e.2).map (·.1)

------------------------------------------------------------
-- Laws of Tables
------------------------------------------------------------

/- The table without keys has no values. -/
@[simp]
theorem get?_empty (k : κ) :
    ({} : Table κ α).get? k = none := rfl

/- Removing a key removes its value and no other. -/
@[simp]
theorem get?_erase
    (t : Table κ α)
    (k k' : κ) :
    (t.erase k).get? k' =
      if k' = k then none else t.get? k' := by
  unfold get? erase
  by_cases h : k' = k
  · subst h
    simp
  · rw [if_neg h, List.find?_filter]
    congr 2
    funext e
    by_cases he : e.1 = k'
    · subst he
      simp [h]
    · simp [he]

/- A key has the value that it was given last. -/
@[simp]
theorem get?_put
    (t : Table κ α)
    (k k' : κ)
    (v : α) :
    (t.put k v).get? k' =
      if k' = k then some v else t.get? k' := by
  by_cases h : k' = k
  · subst h
    simp [get?, put]
  · have hk : k ≠ k' := fun e => h e.symm
    have hErase := get?_erase t k k'
    simp only [get?, put, List.find?_cons, hk,
      decide_false, h, if_false] at hErase ⊢
    exact hErase

/- The keys are those that have a value. -/
theorem mem_keys_iff
    (t : Table κ α)
    (k : κ) :
    k ∈ t.keys ↔ t.get? k ≠ none := by
  simp [keys, get?, List.find?_eq_none]

end Table

end SqliteAccess
