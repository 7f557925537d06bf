import SqliteAccess.Engine.Scripted
import SqliteAccess.Proofs.Session.Consistency
import SqliteAccess.Proofs.Statement.Arguments

/-
  A statement that is finalized stays so.

  However a statement was finalized, whatever is asked of it
  is refused before the engine is called.  The refusal is one
  of use, except that an argument is checked before the
  statement is when it is bound by an index.

  Key definitions include:
    * `Attempt.NeedsHandle`
    * `StatementRequest.refusedAs`
    * `Session.Terminal`

  Finalized statements are characterized by:
    * `StatementRequest.perform_needs`
    * `Statement.bindArgument_of_finalized`
    * `Session.finalized_refuses`
-/

namespace SqliteAccess

variable {E : Engine} {α β : Type} {p : Place}

------------------------------------------------------------
-- Attempts That Need a Handle
------------------------------------------------------------

/-
  Whether an attempt is refused at once, and nothing is done,
  where a statement has no handle.
-/
def Attempt.NeedsHandle
    (p : Place)
    (x : Attempt E α) : Prop :=
  ∀ s : Session E, (s.world.statement p).handle = none →
    ∃ operation,
      x.run s =
        (.error (.database (Refusal.statementFinalized
          operation (s.world.statement p).sql).error), s)

/- What begins by needing a handle needs one. -/
theorem Attempt.NeedsHandle.bind
    {x : Attempt E α}
    {k : α → Attempt E β}
    (h : NeedsHandle p x) :
    NeedsHandle p (x >>= k) := by
  intro s hNone
  rcases h s hNone with ⟨operation, hRun⟩
  exact ⟨operation, run_bind_of_error hRun⟩

open Attempt (NeedsHandle)

namespace Statement

theorem requireHandle_needs
    (p : Place)
    (operation : String) :
    NeedsHandle (E := E) p (requireHandle p operation) :=
  fun _ hNone => ⟨operation, requireHandle_of_none hNone _⟩

theorem step_needs (p : Place) :
    NeedsHandle (E := E) p (step p) :=
  .bind (requireHandle_needs p _)

theorem fetch_needs (p : Place) :
    NeedsHandle (E := E) p (fetch p) :=
  .bind (step_needs p)

theorem requireParameterIndex_needs
    (p : Place)
    (name : Bytes) :
    NeedsHandle (E := E) p (requireParameterIndex p name) :=
  .bind (requireHandle_needs p _)

theorem columnValue_needs
    (p : Place)
    (index : Int) :
    NeedsHandle (E := E) p (columnValue p index) :=
  .bind (.bind (requireHandle_needs p _))

theorem columnType_needs
    (p : Place)
    (index : Int) :
    NeedsHandle (E := E) p (columnType p index) :=
  .bind (.bind (requireHandle_needs p _))

/-
  A value that does not convert is refused as that; any other
  value needs a handle.
-/
theorem bindArgument_of_finalized
    {s : Session E}
    (hNone : (s.world.statement p).handle = none)
    (index : Int)
    (argument : Argument) :
    ∃ r : Refusal,
      (bindArgument p index argument).run s =
        (.error (.database r.error), s) ∧
      r.error.kind =
        if argument.checked.isOk then .usage
        else .conversion := by
  rw [bindArgument_eq]
  cases hChecked : argument.checked with
  | error r =>
      exact ⟨r, rfl, Argument.kind_of_checked hChecked⟩
  | ok v =>
      have hNeeds : NeedsHandle p
          (bindChecked (E := E) p index v) :=
        .bind (requireHandle_needs p _)
      rcases hNeeds s hNone with ⟨operation, hRun⟩
      rw [Attempt.accept_ok_bind, hRun]
      exact ⟨_, rfl, rfl⟩

end Statement

------------------------------------------------------------
-- Requests
------------------------------------------------------------

namespace StatementRequest

/-
  Whether a request is answered without a handle: what a
  statement is can be asked, and it can be finalized again.
-/
def isForAll : StatementRequest → Bool
  | finalize => true
  | info => true
  | _ => false

/- The kind of refusal of a request to a finalized statement. -/
def refusedAs : StatementRequest → ErrorKind
  | bind _ argument =>
      if argument.checked.isOk then .usage else .conversion
  | _ => .usage

/-
  Every other request but to bind by an index needs a handle
  before anything else.
-/
theorem perform_needs
    {r : StatementRequest}
    (hLive : r.isForAll = false)
    (hOther : ∀ index argument, r ≠ .bind index argument) :
    NeedsHandle (E := E) p (r.perform p) := by
  have hHandle : ∀ {β γ : Type} {operation : String}
      {k : StatementHandle → Attempt E β}
      {k' : β → Attempt E γ},
      NeedsHandle p
        ((Statement.requireHandle p operation >>= k) >>= k') :=
    fun {_ _ _ _ _} =>
      .bind (.bind (Statement.requireHandle_needs p _))
  cases r with
  | bind index argument => exact absurd rfl (hOther _ _)
  | bindNamed name argument =>
      exact .bind
        (.bind (Statement.requireParameterIndex_needs p name))
  | clearBindings => exact hHandle
  | step => exact .bind (Statement.step_needs p)
  | next => exact .bind (.bind (Statement.step_needs p))
  | execute => exact hHandle
  | reset => exact hHandle
  | finalize => cases hLive
  | columnValue index =>
      exact .bind (Statement.columnValue_needs p index)
  | columnAs t index =>
      exact .bind (.bind (Statement.columnValue_needs p index))
  | columnType index =>
      exact .bind (Statement.columnType_needs p index)
  | columnIsNull index =>
      exact .bind (.bind (Statement.columnType_needs p index))
  | columnCount => exact .bind hHandle
  | columnName index => exact hHandle
  | columnDeclaration index => exact hHandle
  | countParameters => exact .bind hHandle
  | parameterIndex name => exact .bind hHandle
  | parameterName index => exact hHandle
  | info => cases hLive
  | isReadOnly => exact hHandle
  | expandedSql => exact hHandle
  | owner => exact .bind hHandle

/- Every request is refused where there is no handle. -/
theorem perform_of_finalized
    {s : Session E}
    (hNone : (s.world.statement p).handle = none)
    {r : StatementRequest}
    (hLive : r.isForAll = false) :
    ∃ e : DatabaseError, e.kind = r.refusedAs ∧
      (r.perform p).run s = (.error (.database e), s) := by
  by_cases hBind : ∃ index argument, r = .bind index argument
  · rcases hBind with ⟨index, argument, rfl⟩
    rcases Statement.bindArgument_of_finalized hNone index
        argument with ⟨refusal, hRun, hKind⟩
    exact ⟨refusal.error, hKind,
      Attempt.run_bind_of_error hRun⟩
  · have hOther : ∀ index argument,
        r ≠ .bind index argument := fun index argument hIs =>
      hBind ⟨index, argument, hIs⟩
    rcases perform_needs hLive hOther s hNone with
      ⟨operation, hRun⟩
    have hUsage : r.refusedAs = .usage := by
      cases r with
      | bind index argument => exact absurd rfl (hOther _ _)
      | _ => rfl
    exact ⟨_, hUsage.symm, hRun⟩

end StatementRequest

------------------------------------------------------------
-- Sessions
------------------------------------------------------------

/-
  Whether two sessions differ at most in how the statements
  are stored: each place has the statement that it had.
-/
def Session.SameButOrder (s s' : Session E) : Prop :=
  ∃ statements : Table Place Statement,
    s' = { s with world := { s.world with statements } } ∧
    ∀ q, statements.get? q = s.world.statements.get? q

/- Finalizing once more does nothing. -/
theorem Statement.finalize_of_finalized
    {s : Session E}
    (hNone : (s.world.statement p).handle = none)
    (hState : (s.world.statement p).state = .finalized) :
    s.SameButOrder (finalize p s).2 := by
  have hRun : finalize p s =
      Quiet.update (World.modifyStatement p fun s =>
        { s with state := .finalized }) s := by
    unfold finalize
    rw [Quiet.run_bind]
    simp only [lookup, Quiet.read, hNone]
  rw [hRun]
  refine ⟨s.world.statements.modify p fun s =>
    { s with state := .finalized }, ?_, fun q => ?_⟩
  · show { s with world := World.modifyStatement p _ s.world }
      = _
    rw [World.modifyStatement_eq]
  · rw [Table.get?_modify]
    split
    case isTrue hSame =>
      subst hSame
      cases hFound : s.world.statements.get? q with
      | none => rfl
      | some r =>
          rw [World.statement_of_get? hFound] at hState
          simp [← hState]
    case isFalse => rfl

/-
  Whether a statement is at its end:

    * `refused`: whatever needs its handle is refused and has
      no effect at all
    * `fetch`: so is fetching a row
    * `finalize`: finalizing it once more does nothing
-/
structure Session.Terminal
    (s : Session E)
    (p : Place) : Prop where
  refused : ∀ r : StatementRequest, r.isForAll = false →
    ∃ e : DatabaseError, e.kind = r.refusedAs ∧
      (r.perform p).run s = (.error (.database e), s)
  fetch : ∃ e : DatabaseError, e.kind = .usage ∧
    (Statement.fetch p).run s = (.error (.database e), s)
  finalize : s.SameButOrder (Statement.finalize p s).2

/- A statement that is finalized has no handle. -/
theorem World.Consistent.handle_eq_none
    {w : World E}
    (hConsistent : w.Consistent)
    (hState : (w.statement p).state = .finalized) :
    (w.statement p).handle = none := by
  cases hFound : w.statements.get? p with
  | none =>
      simp [World.statement, hFound, Statement.vacant]
  | some r =>
      rw [World.statement_of_get? hFound] at hState ⊢
      exact (hConsistent.finalized p r hFound).1.mp hState

namespace Session

/-
  After any operations on any engine, a statement that is
  finalized is at its end, however it came to be finalized.
-/
theorem finalized_refuses
    (engine : E.State)
    (patience : Nat)
    (log : Log)
    (ops : List Operation)
    (p : Place)
    (hFinalized :
      (((start engine patience log).runAll
        ops).2.world.statement p).state = .finalized) :
    ((start engine patience log).runAll ops).2.Terminal p := by
  have hConsistent :=
    (reachable_sound engine patience log ops).consistent rfl
  have hNone := hConsistent.handle_eq_none hFinalized
  exact
    { refused := fun r hLive =>
        r.perform_of_finalized hNone hLive
      fetch := by
        rcases Statement.fetch_needs p _ hNone with
          ⟨operation, hRun⟩
        exact ⟨_, rfl, hRun⟩
      finalize := Statement.finalize_of_finalized hNone
        hFinalized }

/- An engine that answers everything, and has no row. -/
def idleEngine : Engine.scripted.State :=
  ({ script := {} } : Scripted.State)

/- Prepare a statement, and move it away. -/
def movedAway : List Operation :=
  [.openConnection 0 [] { strictQuoting := false },
    .prepare 0 0 (Bytes.ascii "S"),
    .moveStatement 0 1]

/- What is left of a statement that was moved is finalized. -/
theorem movedAway_finalized :
    (((start idleEngine 10 {}).runAll
      movedAway).2.world.statement (.slot 0)).state =
        .finalized := by
  decide +kernel

/- What is left of a statement that was moved is at its end. -/
theorem finalized_refuses_moved :
    (((start idleEngine 10 {}).runAll
      movedAway).2.world.statement (.slot 0)).state =
        .finalized ∧
      ((start idleEngine 10 {}).runAll
        movedAway).2.Terminal (.slot 0) :=
  ⟨movedAway_finalized,
    finalized_refuses idleEngine 10 {} movedAway (.slot 0)
      movedAway_finalized⟩

/- The kind of error that an operation ends with. -/
def failedAs : Except Failure Reply → Option ErrorKind
  | .error (.database e) => some e.kind
  | _ => none

/-
  Not every request to a finalized statement is refused as a
  misuse: a text that is not UTF-8 is refused as that.
-/
theorem finalized_conversion :
    ¬ ∀ (engine : Engine.scripted.State)
        (patience : Nat)
        (log : Log)
        (ops : List Operation)
        (n : Nat)
        (r : StatementRequest),
      r.isForAll = false →
        (((start engine patience log).runAll
          ops).2.world.statement (.slot n)).state =
            .finalized →
          failedAs ((((start engine patience log).runAll
            ops).2.run (.statement n r)).1) =
              some .usage := by
  intro hAll
  have hUsage := hAll idleEngine 10 {} movedAway 0
    (.bind 1 (.typed .text [0xFF])) rfl movedAway_finalized
  have hActual : failedAs
      ((((start idleEngine 10 {}).runAll
        movedAway).2.run (.statement 0
          (.bind 1 (.typed .text [0xFF])))).1) =
            some .conversion := by
    decide +kernel
  cases hActual.symm.trans hUsage

end Session

end SqliteAccess
