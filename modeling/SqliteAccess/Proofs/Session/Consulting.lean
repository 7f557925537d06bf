import SqliteAccess.Proofs.Session.Running

/-
  Programs that ask the engine and change nothing.

  A session that has consulted the engine is as it was before,
  but for the questions in its trace.  A program that consults
  has no other reason to fail than a refusal of this library.

  Key definitions include:
    * `Session.Consulted`
    * `Quiet.Consults`
    * `Attempt.Consults`
    * `StatementRequest.readsColumns`

  The programs are characterized by:
    * `Attempt.Consults.bind`
    * `StatementRequest.perform_consults`
    * `RowRequest.perform_consults`
-/

namespace SqliteAccess

variable {E : Engine} {α β : Type}

------------------------------------------------------------
-- Sessions
------------------------------------------------------------

/-
  Whether a session has done nothing but ask the engine, and
  what it asked changes nothing.
-/
def Session.Consulted (s s' : Session E) : Prop :=
  ∃ events engine,
    s' =
      { s with
        world :=
          { s.world with
            trace := events ++ s.world.trace
            engine } } ∧
    ∀ e ∈ events, e.call.isEffect = false

namespace Session.Consulted

variable {s s' s'' : Session E}

theorem refl (s : Session E) : s.Consulted s :=
  ⟨[], s.world.engine, rfl, nofun⟩

theorem trans
    (hFirst : s.Consulted s')
    (hSecond : s'.Consulted s'') :
    s.Consulted s'' := by
  rcases hFirst with ⟨l, engine, rfl, hAsked⟩
  rcases hSecond with ⟨l', engine', rfl, hAsked'⟩
  refine ⟨l' ++ l, engine', ?_, ?_⟩
  · simp only [List.append_assoc]
  · intro e hMember
    rcases List.mem_append.mp hMember with hLater | hBefore
    · exact hAsked' e hLater
    · exact hAsked e hBefore

/- A question that was asked. -/
theorem asked
    {c : Call}
    (hQuestion : c.isEffect = false)
    (s : Session E) :
    s.Consulted (Quiet.invoke c s).2 := by
  refine ⟨[⟨c, _⟩], _, rfl, ?_⟩
  intro e hMember
  rw [List.mem_singleton.mp hMember]
  exact hQuestion

theorem statement
    (hAsked : s.Consulted s')
    (p : Place) :
    s'.world.statement p = s.world.statement p := by
  rcases hAsked with ⟨_, _, rfl, _⟩
  rfl

/- Rows are as current as they were. -/
theorem isCurrent
    (hAsked : s.Consulted s')
    (R : Row) :
    s'.world.isCurrent R = s.world.isCurrent R := by
  rcases hAsked with ⟨_, _, rfl, _⟩
  rfl

end Session.Consulted

------------------------------------------------------------
-- Quiet Steps
------------------------------------------------------------

/- Whether a quiet step does nothing but ask. -/
def Quiet.Consults (x : Quiet E α) : Prop :=
  ∀ s : Session E, s.Consulted (x s).2

namespace Quiet.Consults

variable {x : Quiet E α} {k : α → Quiet E β}

theorem pure (a : α) :
    Consults (pure a : Quiet E α) :=
  fun s => .refl s

theorem bind
    (h : Consults x)
    (hNext : ∀ a, Consults (k a)) :
    Consults (x >>= k) :=
  fun s => (h s).trans (hNext _ _)

theorem read (f : World E → α) :
    Consults (Quiet.read f) :=
  fun s => .refl s

theorem ask
    {c : Call}
    (hQuestion : c.isEffect = false) :
    Consults (E := E) (Quiet.invoke c) :=
  fun s => .asked hQuestion s

theorem ite
    {c : Prop}
    [Decidable c]
    {x y : Quiet E α}
    (hThen : Consults x)
    (hElse : Consults y) :
    Consults (if c then x else y) := by
  split
  case isTrue => exact hThen
  case isFalse => exact hElse

end Quiet.Consults

------------------------------------------------------------
-- Attempts
------------------------------------------------------------

/-
  Whether an attempt does nothing but ask, and fails only
  because this library refuses something.
-/
structure Attempt.Consults (x : Attempt E α) : Prop where
  consulted : ∀ s : Session E, s.Consulted (x.run s).2
  refused : ∀ s e, (x.run s).1 = .error e →
    ∃ r : Refusal, e = .database r.error

namespace Attempt.Consults

variable {x : Attempt E α} {k : α → Attempt E β}

theorem pure (a : α) :
    Consults (Pure.pure a : Attempt E α) where
  consulted s := .refl s
  refused _ _ hError := by cases hError

theorem refuse (r : Refusal) :
    Consults (Attempt.refuse r : Attempt E α) where
  consulted s := .refl s
  refused _ _ hError := by
    cases hError
    exact ⟨r, rfl⟩

theorem bind
    (h : Consults x)
    (hNext : ∀ a, Consults (k a)) :
    Consults (x >>= k) := by
  have hRun : ∀ s : Session E, s.Consulted ((x >>= k).run s).2 ∧
      ∀ e, ((x >>= k).run s).1 = .error e →
        ∃ r : Refusal, e = .database r.error := by
    intro s
    have hFirst := h.consulted s
    have hRefused := h.refused s
    rcases hResult : x.run s with ⟨result, t⟩
    rw [hResult] at hFirst hRefused
    cases result with
    | error e =>
        rw [run_bind_of_error hResult]
        refine ⟨hFirst, fun _ hError => ?_⟩
        cases hError
        exact hRefused e rfl
    | ok a =>
        rw [run_bind_of_ok hResult]
        exact ⟨hFirst.trans ((hNext a).consulted t),
          (hNext a).refused t⟩
  exact ⟨fun s => (hRun s).1, fun s => (hRun s).2⟩

/- An attempt that turns the result of another into its own. -/
theorem map
    {f : α → β}
    (h : Consults x) :
    Consults (x >>= fun a => Pure.pure (f a)) :=
  bind h fun _ => pure _

theorem lift
    {x : Quiet E α}
    (h : Quiet.Consults x) :
    Consults (Attempt.lift x) where
  consulted s := h s
  refused _ _ hError := by cases hError

theorem read (f : World E → α) :
    Consults (Attempt.lift (Quiet.read f)) :=
  lift (.read f)

theorem ask
    {c : Call}
    (hQuestion : c.isEffect = false) :
    Consults (E := E) (Attempt.lift (Quiet.invoke c)) :=
  lift (.ask hQuestion)

/- Wherever it ends, the engine was only asked. -/
theorem consulted_of_run
    {s t : Session E}
    {result : Except Failure α}
    (h : Consults x)
    (hRun : x.run s = (result, t)) :
    s.Consulted t := by
  have hConsulted := h.consulted s
  rw [hRun] at hConsulted
  exact hConsulted

theorem require
    (c : Bool)
    (r : Refusal) :
    Consults (E := E) (Attempt.require c r) := by
  cases c with
  | true => exact pure ()
  | false => exact refuse r

theorem accept (check : Except Refusal α) :
    Consults (E := E) (Attempt.accept check) := by
  cases check with
  | ok a => exact pure a
  | error r => exact refuse r

theorem ite
    {c : Prop}
    [Decidable c]
    {x y : Attempt E α}
    (hThen : Consults x)
    (hElse : Consults y) :
    Consults (if c then x else y) := by
  split
  case isTrue => exact hThen
  case isFalse => exact hElse

end Attempt.Consults

------------------------------------------------------------
-- Errors of Handles
------------------------------------------------------------

namespace Attempt

theorem handleError_consults
    (db : DatabaseHandle)
    (code : ResultCode)
    (phase : Phase)
    (sql : Bytes) :
    Quiet.Consults (E := E)
      (handleError db code phase sql) := by
  apply Quiet.Consults.bind (.ask rfl)
  intro full
  apply Quiet.Consults.bind (.ask rfl)
  intro message
  exact .ite
    (.bind (.ask rfl) fun _ => .pure _)
    (.bind (.pure _) fun _ => .pure _)

/- A result is checked without changing anything. -/
theorem check_consulted
    (db : DatabaseHandle)
    (code : ResultCode)
    (phase : Phase)
    (sql : Bytes)
    (s : Session E) :
    s.Consulted ((check db code phase sql).run s).2 := by
  unfold check
  split
  case isTrue =>
    rw [run_bind_of_ok (run_lift _ s)]
    exact handleError_consults db code phase sql s
  case isFalse => exact .refl s

end Attempt

------------------------------------------------------------
-- Statements
------------------------------------------------------------

namespace Statement

open Attempt

variable (p : Place) (index : Int)

theorem requireHandle_consults (operation : String) :
    Consults (E := E) (requireHandle p operation) := by
  apply Consults.bind (.read _)
  intro s
  split
  · exact .pure _
  · exact .refuse _

theorem requireRow_consults (operation : String) :
    Consults (E := E) (requireRow p operation) := by
  apply Consults.bind (requireHandle_consults p operation)
  intro st
  apply Consults.bind (.read _)
  intro s
  apply Consults.bind (.require _ _)
  exact fun _ => .pure st

theorem requireColumn_consults :
    Consults (E := E) (requireColumn p index) := by
  apply Consults.bind (.read _)
  exact fun _ => .require _ _

theorem readText_consults (st : StatementHandle) :
    Consults (E := E) (readText p st index) := by
  apply Consults.bind (.ask rfl)
  intro text
  cases text with
  | some t =>
      apply Consults.bind (.require _ _)
      exact fun _ => .pure _
  | none =>
      apply Consults.bind (.ask rfl)
      intro code
      apply Consults.bind (.read _)
      intro s
      apply Consults.bind (.require _ _)
      exact fun _ => .pure _

theorem readColumn_consults (st : StatementHandle) :
    Consults (E := E) (readColumn p st index) := by
  apply Consults.bind (.ask rfl)
  intro type
  split
  · exact .bind (.ask rfl) fun _ => .pure _
  · exact .bind (.ask rfl) fun _ => .pure _
  · exact readText_consults p index st
  · exact .bind (.ask rfl) fun _ => .pure _
  · exact .pure _

theorem readColumns_consults
    (st : StatementHandle)
    (first count : Nat) :
    Consults (E := E) (readColumns p st first count) := by
  induction count generalizing first with
  | zero => exact .pure []
  | succ count ih =>
      apply Consults.bind (readColumn_consults p _ st)
      intro v
      apply Consults.bind (ih (first + 1))
      exact fun _ => .pure _

theorem columnValue_consults :
    Consults (E := E) (columnValue p index) := by
  apply Consults.bind (requireRow_consults p _)
  intro st
  apply Consults.bind (requireColumn_consults p index)
  exact fun _ => readColumn_consults p index st

theorem columnAs_consults (t : HostType) :
    Consults (E := E) (columnAs p t index) := by
  apply Consults.bind (columnValue_consults p index)
  exact fun _ => .accept _

theorem columnType_consults :
    Consults (E := E) (columnType p index) := by
  apply Consults.bind (requireRow_consults p _)
  intro st
  apply Consults.bind (requireColumn_consults p index)
  intro _
  exact .bind (.ask rfl) fun _ => .pure _

theorem columnIsNull_consults :
    Consults (E := E) (columnIsNull p index) :=
  (columnType_consults p index).map

theorem columnCount_consults :
    Consults (E := E) (columnCount p) := by
  apply Consults.bind (requireHandle_consults p _)
  intro _
  exact .bind (.read _) fun _ => .pure _

theorem columnName_consults :
    Consults (E := E) (columnName p index) := by
  apply Consults.bind (requireHandle_consults p _)
  intro _
  apply Consults.bind (requireColumn_consults p index)
  intro _
  exact .bind (.read _) fun _ => .pure _

theorem columnDeclaration_consults :
    Consults (E := E) (columnDeclaration p index) := by
  apply Consults.bind (requireHandle_consults p _)
  intro _
  apply Consults.bind (requireColumn_consults p index)
  intro _
  exact .bind (.read _) fun _ => .pure _

theorem parameterIndex_consults (name : Bytes) :
    Consults (E := E) (parameterIndex p name) := by
  apply Consults.bind (requireHandle_consults p _)
  exact fun _ => .ask rfl

theorem searchSigils_consults
    (st : StatementHandle)
    (name sigils : Bytes) :
    Quiet.Consults (E := E)
      (searchSigils st name sigils) := by
  induction sigils with
  | nil => exact .pure 0
  | cons b sigils ih =>
      apply Quiet.Consults.bind (.ask rfl)
      exact fun _ => .ite (.pure _) ih

theorem requireParameterIndex_consults (name : Bytes) :
    Consults (E := E) (requireParameterIndex p name) := by
  apply Consults.bind (requireHandle_consults p _)
  intro st
  apply Consults.bind (parameterIndex_consults p name)
  intro exact'
  have hFound : ∀ found : Nat, Consults (E := E)
      (lift (lookup p) >>= fun s =>
        require (found ≠ 0) (.parameterName name s.sql) >>=
          fun _ => Pure.pure found) := by
    intro found
    apply Consults.bind (.read _)
    intro s
    apply Consults.bind (.require _ _)
    exact fun _ => .pure _
  apply Consults.ite
  · apply Consults.bind
    · exact .lift (searchSigils_consults st name sigils)
    · exact hFound
  · exact .bind (.pure _) hFound

end Statement

/- Whether a request is about the columns of a statement. -/
def StatementRequest.readsColumns : StatementRequest → Bool
  | columnValue _ => true
  | columnAs .. => true
  | columnType _ => true
  | columnIsNull _ => true
  | columnCount => true
  | columnName _ => true
  | columnDeclaration _ => true
  | _ => false

/- Asking about columns changes nothing. -/
theorem StatementRequest.perform_consults
    {r : StatementRequest}
    (hReads : r.readsColumns = true)
    (p : Place) :
    Attempt.Consults (E := E) (r.perform p) := by
  cases r with
  | columnValue index =>
      exact (Statement.columnValue_consults p index).map
  | columnAs t index =>
      exact (Statement.columnAs_consults p index t).map
  | columnType index =>
      exact (Statement.columnType_consults p index).map
  | columnIsNull index =>
      exact (Statement.columnIsNull_consults p index).map
  | columnCount =>
      exact (Statement.columnCount_consults p).map.map
  | columnName index =>
      exact (Statement.columnName_consults p index).map
  | columnDeclaration index =>
      exact (Statement.columnDeclaration_consults p index).map
  | _ => cases hReads

------------------------------------------------------------
-- Rows
------------------------------------------------------------

namespace Row

open Attempt

variable (R : Row)

theorem current_consults :
    Consults (E := E) (current R) := by
  apply Consults.bind (.read _)
  intro place
  cases place with
  | none => exact .refuse _
  | some p =>
      apply Consults.bind (.read _)
      intro s
      apply Consults.bind (.require _ _)
      exact fun _ => .pure p

theorem values_consults :
    Consults (E := E) (values R) := by
  apply Consults.bind (current_consults R)
  intro p
  apply Consults.bind (Statement.columnCount_consults p)
  intro count
  apply Consults.bind (Statement.requireHandle_consults p _)
  exact fun st => Statement.readColumns_consults p st 0 count

end Row

/- Asking something of a row changes nothing. -/
theorem RowRequest.perform_consults
    (q : RowRequest)
    (R : Row) :
    Attempt.Consults (E := E) (q.perform R) := by
  have hRead : ∀ {α β : Type} {f : α → β}
      {k : Place → Attempt E α},
      (∀ p, Attempt.Consults (k p)) →
        Attempt.Consults
          ((R.current >>= k) >>= fun a => pure (f a)) :=
    fun hNext => (Attempt.Consults.bind
      R.current_consults hNext).map
  cases q with
  | size => exact (hRead Statement.columnCount_consults).map
  | value index =>
      exact hRead (Statement.columnValue_consults · index)
  | isNull index =>
      exact hRead (Statement.columnIsNull_consults · index)
  | columnName index =>
      exact hRead (Statement.columnName_consults · index)
  | isCurrent => exact (Attempt.Consults.read _).map
  | getAs t index =>
      exact hRead (Statement.columnAs_consults · index t)
  | values => exact R.values_consults.map

end SqliteAccess
