import SqliteAccess.Operation.Run

/-
  What running a program gives: its result and the session
  that it leaves.

  The programs are characterized by:
    * `Quiet.run_bind`
    * `Attempt.run_bind`
    * `Attempt.run_bind_of_ok`
    * `Attempt.run_bind_of_error`
    * `Attempt.run_ensuring`
    * `Attempt.run_onFailure`
-/

namespace SqliteAccess

variable {E : Engine} {α β : Type} {s s' : Session E}

------------------------------------------------------------
-- Quiet Steps
------------------------------------------------------------

namespace Quiet

theorem run_bind
    (x : Quiet E α)
    (k : α → Quiet E β)
    (s : Session E) :
    (x >>= k) s = k (x s).1 (x s).2 := rfl

@[simp]
theorem run_pure
    (a : α)
    (s : Session E) :
    (pure a : Quiet E α) s = (a, s) := rfl

end Quiet

------------------------------------------------------------
-- Attempts
------------------------------------------------------------

namespace Attempt

variable {x : Attempt E α} {k : α → Attempt E β}

/- Nothing is done after an attempt that failed. -/
theorem run_bind_of_error
    {e : Failure}
    (hError : x.run s = (.error e, s')) :
    (x >>= k).run s = (.error e, s') := by
  show ExceptT.bindCont k (x.run s).1 (x.run s).2 = _
  rw [hError]
  rfl

/- An attempt goes on from what its first part gives. -/
theorem run_bind_of_ok
    {a : α}
    (hOk : x.run s = (.ok a, s')) :
    (x >>= k).run s = (k a).run s' := by
  show ExceptT.bindCont k (x.run s).1 (x.run s).2 = _
  rw [hOk]
  rfl

/- The two ways in which an attempt in two parts goes. -/
theorem run_bind
    (x : Attempt E α)
    (k : α → Attempt E β)
    (s : Session E) :
    (x >>= k).run s =
      match x.run s with
      | (.ok a, s') => (k a).run s'
      | (.error e, s') => (.error e, s') := by
  cases hRun : x.run s with
  | mk result s' =>
      cases result with
      | ok a => exact run_bind_of_ok hRun
      | error e => exact run_bind_of_error hRun

/- Turning the result of an attempt into another one. -/
theorem run_map_snd
    (x : Attempt E α)
    (f : α → β)
    (s : Session E) :
    ((x >>= fun a => pure (f a)).run s).2 = (x.run s).2 := by
  rw [run_bind]
  cases x.run s with
  | mk result t => cases result <;> rfl

/- An attempt succeeds whatever its result is turned into. -/
theorem run_map_isOk
    (x : Attempt E α)
    (f : α → β)
    (s : Session E) :
    ((x >>= fun a => pure (f a)).run s).1.isOk =
      (x.run s).1.isOk := by
  rcases hRun : x.run s with ⟨result, t⟩
  cases result with
  | error e =>
      rw [run_bind_of_error hRun]
      rfl
  | ok a =>
      rw [run_bind_of_ok hRun]
      rfl

@[simp]
theorem run_refuse
    (r : Refusal)
    (s : Session E) :
    (refuse r : Attempt E α).run s =
      (.error (.database r.error), s) := rfl

@[simp]
theorem run_lift
    (x : Quiet E α)
    (s : Session E) :
    (lift x).run s = (.ok (x s).1, (x s).2) := rfl

/- What is read is known. -/
theorem run_read
    (f : World E → α)
    (k : α → Attempt E β)
    (s : Session E) :
    (lift (Quiet.read f) >>= k).run s =
      (k (f s.world)).run s := rfl

theorem run_require_of_true
    {c : Bool}
    (hHolds : c = true)
    (r : Refusal)
    (s : Session E) :
    (require c r).run s = (.ok (), s) := by
  subst hHolds
  rfl

theorem run_require_of_false
    {c : Bool}
    (hFails : c = false)
    (r : Refusal)
    (s : Session E) :
    (require c r).run s =
      (.error (.database r.error), s) := by
  subst hFails
  rfl

/- A check that is passed gives its result. -/
@[simp]
theorem accept_ok_bind
    (a : α)
    (k : α → Attempt E β) :
    accept (.ok a) >>= k = k a :=
  pure_bind a k

/- A check that is not passed ends what follows it. -/
@[simp]
theorem accept_error_bind
    (r : Refusal)
    (k : α → Attempt E β) :
    accept (.error r) >>= k = refuse r := rfl

/- What is found may not be what is required. -/
theorem run_lift_require_of_false
    {γ : Type}
    {x : Quiet E γ}
    {c : γ → Bool}
    {r : γ → Refusal}
    {k : γ → Unit → Attempt E β}
    (hFails : c (x s).1 = false) :
    (lift x >>= fun a => require (c a) (r a) >>= k a).run s =
      (.error (.database (r (x s).1).error), (x s).2) :=
  (run_bind_of_ok (run_lift x s)).trans
    (run_bind_of_error (run_require_of_false hFails _ _))

/- What is found may be what is required. -/
theorem run_lift_require_of_true
    {γ : Type}
    {x : Quiet E γ}
    {c : γ → Bool}
    {r : γ → Refusal}
    {k : γ → Unit → Attempt E β}
    (hHolds : c (x s).1 = true) :
    (lift x >>= fun a => require (c a) (r a) >>= k a).run s =
      (k (x s).1 ()).run (x s).2 :=
  (run_bind_of_ok (run_lift x s)).trans
    (run_bind_of_ok (run_require_of_true hHolds _ _))

/- It goes on with what the look gave. -/
theorem run_lift_require_of_eq
    {γ : Type}
    {x : Quiet E γ}
    {c : γ → Bool}
    {r : γ → Refusal}
    {k : γ → Unit → Attempt E β}
    {a : γ}
    (hLook : x s = (a, s'))
    (hHolds : c a = true) :
    (lift x >>= fun a => require (c a) (r a) >>= k a).run s =
      (k a ()).run s' := by
  rw [run_lift_require_of_true (by rw [hLook]; exact hHolds),
    hLook]

/- An attempt succeeds if both of its parts do. -/
theorem run_bind_eq_ok
    {b : β} :
    (x >>= k).run s = (.ok b, s') ↔
      ∃ a t, x.run s = (.ok a, t) ∧
        (k a).run t = (.ok b, s') := by
  rw [run_bind]
  cases x.run s with
  | mk result t =>
      cases result with
      | ok a =>
          constructor
          · exact fun hRest => ⟨a, t, rfl, hRest⟩
          · rintro ⟨_, _, ⟨⟩, hRest⟩
            exact hRest
      | error e =>
          constructor
          · rintro ⟨⟩
          · rintro ⟨_, _, ⟨⟩, _⟩

------------------------------------------------------------
-- Cleaning Up
------------------------------------------------------------

theorem run_ensuring
    (body : Attempt E α)
    (cleanup : Quiet E Unit)
    (s : Session E) :
    (ensuring body cleanup).run s =
      ((body.run s).1, (cleanup (body.run s).2).2) := rfl

theorem run_onFailure
    (body : Attempt E α)
    (cleanup : Quiet E Unit)
    (s : Session E) :
    (onFailure body cleanup).run s =
      match body.run s with
      | (.ok a, s') => (.ok a, s')
      | (.error e, s') => (.error e, (cleanup s').2) := by
  cases hRun : body.run s with
  | mk result t =>
      cases result <;>
        simp only [onFailure, ExceptT.run_mk, Quiet.run_bind,
          hRun] <;> rfl

theorem run_tolerate
    (body : Attempt E Unit)
    (handler : DatabaseError → Quiet E Unit)
    (s : Session E) :
    tolerate body handler s =
      match body.run s with
      | (.error (.database e), s') => handler e s'
      | (_, s') => ((), s') := by
  unfold tolerate
  rw [Quiet.run_bind]
  cases hRun : body.run s with
  | mk result t =>
      cases result with
      | ok a => rfl
      | error e => cases e <;> rfl

end Attempt

end SqliteAccess
