import SqliteAccess.Proofs.Transaction.Calls

/-
  What calls on guards leave alone.

  A call changes the guards that it makes, ends, moves or
  destroys.  It spares every other guard of either kind, down
  to what an inactive one still tells of itself.

  Key definitions include:
    * `World.Spares`
    * `Quiet.Spares`
    * `Attempt.Spares`
    * `GuardCall.alters`

  The calls are characterized by:
    * `GuardKind.abandon_spares`
    * `GuardCall.perform_spares`
-/

namespace SqliteAccess

variable {E : Engine} {α β : Type}
variable {G : GuardKind → Place → Prop}

open Attempt

------------------------------------------------------------
-- Worlds
------------------------------------------------------------

/-
  Whether two worlds have the same guards, except for those
  that may be changed.
-/
structure World.Spares
    (G : GuardKind → Place → Prop)
    (w w' : World E) : Prop where
  transactions : ∀ p, ¬ G .transaction p →
    w'.transactions.get? p = w.transactions.get? p
  savepoints : ∀ p, ¬ G .savepoint p →
    w'.savepoints.get? p = w.savepoints.get? p

namespace World.Spares

variable {w w' w'' : World E} {k : GuardKind}
variable {p source target : Place}

theorem of_eq
    (hTransactions : w'.transactions = w.transactions)
    (hSavepoints : w'.savepoints = w.savepoints) :
    Spares G w w' :=
  ⟨fun _ _ => by rw [hTransactions],
    fun _ _ => by rw [hSavepoints]⟩

theorem refl (w : World E) : Spares G w w :=
  of_eq rfl rfl

theorem trans
    (hFirst : Spares G w w')
    (hSecond : Spares G w' w'') :
    Spares G w w'' where
  transactions p hOther :=
    (hSecond.transactions p hOther).trans
      (hFirst.transactions p hOther)
  savepoints p hOther :=
    (hSecond.savepoints p hOther).trans
      (hFirst.savepoints p hOther)

/- A guard that may be changed is put somewhere. -/
theorem putTransaction
    (hGuard : G .transaction p)
    (t : Transaction) :
    Spares G w
      { w with transactions := w.transactions.put p t } where
  transactions q hOther := by
    have hPlace : q ≠ p := fun h => hOther (h ▸ hGuard)
    simp [hPlace]
  savepoints _ _ := rfl

theorem putSavepoint
    (hGuard : G .savepoint p)
    (s : Savepoint) :
    Spares G w
      { w with savepoints := w.savepoints.put p s } where
  transactions _ _ := rfl
  savepoints q hOther := by
    have hPlace : q ≠ p := fun h => hOther (h ▸ hGuard)
    simp [hPlace]

/- One that may be changed is ended. -/
theorem endGuard (hGuard : G k p) :
    Spares G w (w.endGuard k p) := by
  have hPlace : ∀ {q}, ¬ G k q → q ≠ p :=
    fun hOther h => hOther (h ▸ hGuard)
  cases k with
  | transaction =>
      constructor
      · intro q hOther
        simp [World.endGuard, hPlace hOther]
      · intro q _
        simp [World.endGuard, World.modifyTransaction_eq]
  | savepoint =>
      constructor
      · intro q _
        simp [World.endGuard, World.modifySavepoint_eq]
      · intro q hOther
        simp [World.endGuard, hPlace hOther]

/- One that may be changed is forgotten. -/
theorem dropGuard (hGuard : G k p) :
    Spares G w (w.dropGuard k p) := by
  have hPlace : ∀ {q}, ¬ G k q → q ≠ p :=
    fun hOther h => hOther (h ▸ hGuard)
  cases k with
  | transaction =>
      constructor
      · intro q hOther
        simp [World.dropGuard, hPlace hOther]
      · exact fun _ _ => rfl
  | savepoint =>
      constructor
      · exact fun _ _ => rfl
      · intro q hOther
        simp [World.dropGuard, hPlace hOther]

/- One is moved where both places may be changed. -/
theorem moveGuard
    (hSource : G k source)
    (hTarget : G k target) :
    Spares G w (w.moveGuard k source target) := by
  cases k with
  | transaction =>
      unfold World.moveGuard Transaction.transfer
      cases w.transactions.get? source with
      | none => exact refl w
      | some t =>
          exact (putTransaction hTarget t).trans
            (putTransaction hSource t.emptied)
  | savepoint =>
      unfold World.moveGuard Savepoint.transfer
      cases w.savepoints.get? source with
      | none => exact refl w
      | some s =>
          exact (putSavepoint hTarget s).trans
            (putSavepoint hSource s.emptied)

end World.Spares

------------------------------------------------------------
-- Programs
------------------------------------------------------------

/- Whether a quiet step spares the guards. -/
def Quiet.Spares
    (G : GuardKind → Place → Prop)
    (x : Quiet E α) : Prop :=
  ∀ s, World.Spares G s.world (x s).2.world

/- Whether an attempt does. -/
def Attempt.Spares
    (G : GuardKind → Place → Prop)
    (x : Attempt E α) : Prop :=
  Quiet.Spares G x.run

namespace Quiet.Spares

variable {x : Quiet E α} {k : α → Quiet E β}

theorem update
    {f : World E → World E}
    (h : ∀ w, World.Spares G w (f w)) :
    Spares G (Quiet.update f) :=
  fun s => h s.world

theorem bind
    (h : Spares G x)
    (hNext : ∀ a, Spares G (k a)) :
    Spares G (x >>= k) :=
  fun s => (h s).trans (hNext _ _)

/- What has no effect on guards spares them all. -/
theorem of_affects
    {A : Effect → Prop}
    (hGuard : ¬ A .guard)
    (h : Affects A x) :
    Spares G x := by
  intro s
  rcases (h s).keeps_guards hGuard with
    ⟨hTransactions, hSavepoints⟩
  exact .of_eq hTransactions hSavepoints

end Quiet.Spares

namespace Attempt.Spares

variable {x : Attempt E α} {k : α → Attempt E β}

theorem of_affects
    {A : Effect → Prop}
    (hGuard : ¬ A .guard)
    (h : Affects A x) :
    Spares G x :=
  Quiet.Spares.of_affects hGuard h

theorem bind
    (h : Spares G x)
    (hNext : ∀ a, Spares G (k a)) :
    Spares G (x >>= k) := by
  apply Quiet.Spares.bind (x := x.run)
    (k := ExceptT.bindCont k) h
  intro result
  cases result with
  | ok a => exact hNext a
  | error e => exact fun s => .refl s.world

theorem lift
    {x : Quiet E α}
    (h : Quiet.Spares G x) :
    Spares G (lift x) :=
  fun s => h s

/- Running SQL changes no guard. -/
theorem execute
    (c : ConnectionId)
    (sql : Bytes) :
    Spares (E := E) G (Connection.execute c sql) :=
  of_affects (A := (· = .compile)) (by simp)
    (Connection.execute_affects (A := (· = .compile)) c rfl sql)

theorem requireExisting (c : Option ConnectionId) :
    Spares (E := E) G (Connection.requireExisting c) :=
  of_affects (A := fun _ => False) id
    (Connection.requireExisting_affects c)

end Attempt.Spares

------------------------------------------------------------
-- Calls
------------------------------------------------------------

namespace GuardKind

variable {k : GuardKind} {p source target : Place}

/- What ends a guard spares the others. -/
theorem end_spares (hGuard : G k p) :
    Spares (E := E) G
      (lift (Quiet.update (World.endGuard k p))) :=
  .lift (.update fun _ => .endGuard hGuard)

/- A guard that is abandoned is ended at most. -/
theorem abandon_spares (hGuard : G k p) :
    Quiet.Spares (E := E) G (k.abandon p) := by
  intro s
  cases hActive : s.world.active k p with
  | none =>
      rw [abandon_of_inactive hActive]
      exact .refl s.world
  | some g =>
      rw [abandon_of_active hActive]
      rcases g.leave_eq k p s with
        ⟨hTransactions, hSavepoints⟩
      exact (World.Spares.endGuard hGuard).trans
        (.of_eq hTransactions hSavepoints)

theorem complete_spares (hGuard : G k p) :
    Spares (E := E) G (k.complete p) := by
  intro s
  cases hActive : s.world.active k p with
  | none =>
      rcases complete_of_inactive hActive with ⟨e, hRun⟩
      rw [hRun]
      exact .refl s.world
  | some g =>
      rw [complete_of_active hActive]
      exact (Spares.requireExisting g.connection).bind
        (fun c => (Spares.execute c g.completion).bind
          fun _ => end_spares hGuard) s

theorem rollback_spares (hGuard : G k p) :
    Spares (E := E) G (k.rollback p) := by
  intro s
  cases hActive : s.world.active k p with
  | none =>
      rcases rollback_of_inactive hActive with ⟨e, hRun⟩
      rw [hRun]
      exact .refl s.world
  | some g =>
      cases k with
      | transaction =>
          have hUndone : ∀ c, Spares (E := E) G
              (Connection.isAutocommit c >>= fun idle =>
                if ! idle then
                  Connection.execute c
                    (Bytes.ascii "ROLLBACK") >>= fun _ => pure ()
                else pure ()) := by
            intro c
            apply Spares.of_affects (A := (· = .compile))
              (by simp)
            apply Affects.bind
              (Connection.isAutocommit_affects c)
            intro idle
            apply Affects.ite
            · exact (Connection.execute_affects
                (A := (· = .compile)) c rfl _).map
            · exact .pure ()
          rw [rollback_of_active_transaction hActive]
          exact (Spares.requireExisting g.connection).bind
            (fun c => (end_spares hGuard).bind
              fun _ => hUndone c) s
      | savepoint =>
          rcases rollback_of_active_savepoint hActive with
            ⟨name, _, hRun⟩
          rw [hRun]
          exact (Spares.requireExisting g.connection).bind
            (fun c => (Spares.execute c _).bind fun _ =>
              (Spares.execute c _).bind fun _ =>
                end_spares hGuard) s

theorem destroy_spares (hGuard : G k p) :
    Quiet.Spares (E := E) G (k.destroy p) := by
  rw [destroy_eq]
  exact (abandon_spares hGuard).bind fun _ =>
    .update fun _ => .dropGuard hGuard

theorem assign_spares
    (hSource : G k source)
    (hTarget : G k target) :
    Quiet.Spares (E := E) G (k.assign source target) := by
  by_cases hSame : source = target
  · subst hSame
    intro s
    rw [assign_self]
    exact .refl s.world
  · rw [assign_eq hSame]
    exact (abandon_spares hTarget).bind fun _ =>
      .update fun _ => .moveGuard hSource hTarget

end GuardKind

namespace GuardCall

/- The guards that a call may change. -/
def alters : GuardCall → GuardKind → Place → Prop
  | begin _ p _, k, q => k = .transaction ∧ q = p
  | nest _ p _, k, q => k = .savepoint ∧ q = p
  | nestOn _ p _, k, q => k = .savepoint ∧ q = p
  | complete k' p, k, q => k = k' ∧ q = p
  | rollback k' p, k, q => k = k' ∧ q = p
  | move k' source target, k, q =>
      k = k' ∧ (q = source ∨ q = target)
  | assign k' source target, k, q =>
      k = k' ∧ (q = source ∨ q = target)
  | destroy k' p, k, q => k = k' ∧ q = p

/- Constructing a savepoint spares all but that. -/
theorem start_spares
    {p : Place}
    (hGuard : G .savepoint p)
    (c : ConnectionId)
    (name : Bytes) :
    Spares (E := E) G (Savepoint.start c p name) := by
  apply Spares.bind
  · exact .of_affects (A := fun _ => False) id (.require _ _)
  intro _
  apply (Spares.execute c _).bind
  intro _
  exact .lift (.update fun _ => .putSavepoint hGuard _)

/- A call spares the guards that it may not change. -/
theorem perform_spares
    (call : GuardCall)
    (hMay : ∀ k p, call.alters k p → G k p) :
    Spares (E := E) G call.perform := by
  cases call with
  | begin c p type =>
      apply (Spares.execute c _).bind
      intro _
      exact .lift (.update fun _ =>
        .putTransaction (hMay _ _ ⟨rfl, rfl⟩) _)
  | nest t p name =>
      intro s
      rcases nest_cases t p name s with
        ⟨e, hRun⟩ | ⟨_, c, _, _, hRun⟩
      · simp only [perform, hRun]
        exact .refl s.world
      · simp only [perform, hRun]
        exact start_spares (hMay _ _ ⟨rfl, rfl⟩) c name s
  | nestOn c p name =>
      exact start_spares (hMay _ _ ⟨rfl, rfl⟩) c name
  | complete k p =>
      exact GuardKind.complete_spares (hMay _ _ ⟨rfl, rfl⟩)
  | rollback k p =>
      exact GuardKind.rollback_spares (hMay _ _ ⟨rfl, rfl⟩)
  | move k source target =>
      rw [perform, GuardKind.move_eq]
      exact .lift (.update fun _ =>
        .moveGuard (hMay _ _ ⟨rfl, .inl rfl⟩)
          (hMay _ _ ⟨rfl, .inr rfl⟩))
  | assign k source target =>
      exact .lift
        (GuardKind.assign_spares (hMay _ _ ⟨rfl, .inl rfl⟩)
          (hMay _ _ ⟨rfl, .inr rfl⟩))
  | destroy k p =>
      exact .lift
        (GuardKind.destroy_spares (hMay _ _ ⟨rfl, rfl⟩))

end GuardCall

end SqliteAccess
