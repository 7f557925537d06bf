import SqliteAccess.Proofs.Session.Mirroring

/-
  The patience of a session.

  A loop that the engine keeps going is given up when the
  patience is used up.  Sessions that differ in nothing but
  their patience mirror each other, so a program that does not
  look at it does the same in all of them.

  Key definitions include:
    * `Session.withPatience`
    * `Mirror.lasting`
    * `Engine.Exhausts`
    * `Attempt.Finishes`

  The sessions are characterized by:
    * `Session.mirrors_withPatience`
    * `Attempt.first_ends`
    * `Attempt.bind_ends`
-/

namespace SqliteAccess

variable {E : Engine} {α β : Type}

------------------------------------------------------------
-- Sessions
------------------------------------------------------------

/- A session that is given another patience. -/
def Session.withPatience
    (n : Nat)
    (s : Session E) : Session E :=
  { s with world := { s.world with patience := n } }

/-
  The mirror of a session in which everything is in the same
  place and the patience has a certain value.
-/
def Mirror.lasting (n : Nat) : Mirror where
  slot k := k
  injective hSame := hSame
  spare _ := False
  left := none
  patient _ k := k = n

namespace Mirror

variable {n : Nat}

theorem lasting_still : (lasting n).Still := by
  intro p
  cases p <;> rfl

theorem lasting_uses (p : Place) :
    (lasting n).Uses p := by
  cases p <;> simp [Uses, lasting]

end Mirror

/- A session is mirrored by itself with any patience. -/
theorem Session.mirrors_withPatience
    (n : Nat)
    (s : Session E) :
    s.Mirrors (.lasting n) (s.withPatience n) where
  world := .of_still Mirror.lasting_still
    Mirror.lasting_uses rfl
  log := rfl

/- So it is by itself as it is. -/
theorem Session.mirrors_self (s : Session E) :
    s.Mirrors (.lasting s.world.patience) s :=
  s.mirrors_withPatience s.world.patience

------------------------------------------------------------
-- Engines
------------------------------------------------------------

/-
  Whether a statement yields finitely many rows when it is
  stepped again and again from a state of the engine on.
-/
inductive Engine.Exhausts
    (E : Engine)
    (st : StatementHandle) : E.State → Prop where
  | step {e}
      (hRest :
        ((E.answer (.step st) e).1 : ResultCode) =
            ResultCode.row →
          Exhausts E st (E.answer (.step st) e).2) :
      Exhausts E st e

------------------------------------------------------------
-- Attempts
------------------------------------------------------------

namespace Attempt

variable {x : Attempt E α} {k : α → Attempt E β}
variable {s : Session E}

/- Whether an attempt is never given up. -/
def Finishes (x : Attempt E α) : Prop :=
  ∀ s : Session E, (x.run s).1 ≠ .error .endless

/- Where all is not given up, neither is the first part. -/
theorem first_ends
    (hEnds : ((x >>= k).run s).1 ≠ .error .endless) :
    (x.run s).1 ≠ .error .endless := by
  intro hEndless
  rw [run_bind_of_error (Prod.ext hEndless rfl)] at hEnds
  exact hEnds rfl

/- Where the first part is not given up, the rest may be. -/
theorem bind_ends
    (hFirst : (x.run s).1 ≠ .error .endless)
    (hNext : ∀ a, Finishes (k a)) :
    ((x >>= k).run s).1 ≠ .error .endless := by
  rcases hRun : x.run s with ⟨result, t⟩
  rw [hRun] at hFirst
  cases result with
  | ok a =>
      rw [run_bind_of_ok hRun]
      exact hNext a t
  | error e =>
      rw [run_bind_of_error hRun]
      exact fun hEndless =>
        hFirst (by cases hEndless; rfl)

end Attempt

namespace Attempt.Finishes

variable {x y : Attempt E α} {k : α → Attempt E β}

theorem pure (a : α) :
    Finishes (pure a : Attempt E α) :=
  fun _ => nofun

theorem lift (x : Quiet E α) :
    Finishes (lift x) :=
  fun _ => nofun

theorem fail (e : DatabaseError) :
    Finishes (fail e : Attempt E α) :=
  fun _ => nofun

theorem bind
    (hFirst : Finishes x)
    (hNext : ∀ a, Finishes (k a)) :
    Finishes (x >>= k) :=
  fun s => bind_ends (hFirst s) hNext

/- What fails is not continued. -/
theorem failed (e : DatabaseError) :
    Finishes (Attempt.fail e >>= k) := by
  intro s
  rw [run_bind_of_error (x := Attempt.fail e) rfl]
  exact nofun

theorem require
    (c : Bool)
    (r : Refusal) :
    Finishes (E := E) (require c r) := by
  cases c with
  | true => exact .pure ()
  | false => exact .fail _

theorem accept (check : Except Refusal α) :
    Finishes (E := E) (accept check) := by
  cases check with
  | ok a => exact .pure a
  | error r => exact .fail _

theorem ite
    {c : Prop}
    [Decidable c]
    (hThen : Finishes x)
    (hElse : Finishes y) :
    Finishes (if c then x else y) := by
  split
  case isTrue => exact hThen
  case isFalse => exact hElse

end Attempt.Finishes

theorem Attempt.check_finishes
    (db : DatabaseHandle)
    (code : ResultCode)
    (phase : Phase)
    (sql : Bytes) :
    Finishes (E := E) (check db code phase sql) :=
  .ite (.bind (.lift _) fun _ => .fail _) (.pure ())

end SqliteAccess
