import SqliteAccess.Proofs.Connection.Carrying
import SqliteAccess.Proofs.Session.Consistency
import SqliteAccess.Proofs.Session.Consulting
import SqliteAccess.Proofs.Statement.Arguments
import SqliteAccess.Proofs.Statement.Currency
import SqliteAccess.Proofs.Text.Identifier

/-
  What the library does not allow leaves no mark.

  The library checks a call before it has any effect.  A call
  that does not pass is refused, and the session is what it
  was, but for questions to the engine.

  Key definitions include:
    * `StatementRequest.Fits`
    * `Session.Forbids`
    * `Session.Rejects`

  The checks are characterized by:
    * `Session.Rejects.bind_of_consults`
    * `Session.forbidden_rejected`
-/

namespace SqliteAccess

variable {E : Engine} {α β : Type}

------------------------------------------------------------
-- Rejections
------------------------------------------------------------

namespace Session

/-
  Whether an attempt is refused by this library, and has done
  nothing but ask the engine:

    * `refused`: it ends with the error of a refusal
    * `consulted`: the objects of the session and the log are
      what they were, and the engine was only asked
    * `current`: the rows that can be read are the same
-/
structure Rejects
    (s : Session E)
    (x : Attempt E α) : Prop where
  refused : ∃ r : Refusal,
    (x.run s).1 = .error (.database r.error)
  consulted : s.Consulted (x.run s).2
  current : ∀ R : Row,
    (x.run s).2.world.isCurrent R = s.world.isCurrent R

namespace Rejects

variable {s : Session E} {x : Attempt E α}
variable {k : α → Attempt E β}

theorem of_consulted
    (hRefused : ∃ r : Refusal,
      (x.run s).1 = .error (.database r.error))
    (hConsulted : s.Consulted (x.run s).2) :
    s.Rejects x where
  refused := hRefused
  consulted := hConsulted
  current := hConsulted.isCurrent

/- What is refused at once changes nothing. -/
theorem of_run
    {r : Refusal}
    (hRun : x.run s = (.error (.database r.error), s)) :
    s.Rejects x := by
  apply of_consulted
  · exact ⟨r, by rw [hRun]⟩
  · rw [hRun]
    exact .refl s

/- Only what an attempt does here counts. -/
theorem of_run_eq
    {y : Attempt E α}
    (hRun : x.run s = y.run s)
    (h : s.Rejects y) :
    s.Rejects x := by
  apply of_consulted
  · rw [hRun]
    exact h.refused
  · rw [hRun]
    exact h.consulted

/- What only asks is refused if it fails. -/
theorem of_consults
    {e : Failure}
    (hConsults : Attempt.Consults x)
    (hFailed : (x.run s).1 = .error e) :
    s.Rejects x := by
  rcases hConsults.refused s e hFailed with ⟨r, rfl⟩
  exact of_consulted ⟨r, hFailed⟩ (hConsults.consulted s)

/- Nothing follows an attempt that is rejected. -/
theorem bind (h : s.Rejects x) :
    s.Rejects (x >>= k) := by
  rcases h.refused with ⟨r, hRefused⟩
  have hRun := Attempt.run_bind_of_error (k := k)
    (Prod.ext hRefused rfl)
  apply of_consulted
  · exact ⟨r, by rw [hRun]⟩
  · rw [hRun]
    exact h.consulted

/- The rest is rejected once the first part has only asked. -/
theorem bind_of_consults
    (hFirst : Attempt.Consults x)
    (hNext : ∀ a t, x.run s = (.ok a, t) →
      s.Consulted t → t.Rejects (k a)) :
    s.Rejects (x >>= k) := by
  rcases hRun : x.run s with ⟨result, t⟩
  have hConsulted := hFirst.consulted_of_run hRun
  cases result with
  | error e =>
      exact (of_consults hFirst (congrArg Prod.fst hRun)).bind
  | ok a =>
      have hRest := hNext a t hRun hConsulted
      apply of_consulted
      · rw [Attempt.run_bind_of_ok hRun]
        exact hRest.refused
      · rw [Attempt.run_bind_of_ok hRun]
        exact hConsulted.trans hRest.consulted

end Rejects

end Session

open Session (Rejects)

------------------------------------------------------------
-- Statements
------------------------------------------------------------

namespace Statement

variable {p : Place} {index : Int} {s : Session E}

/- An argument or a parameter may not do. -/
theorem bindArgument_rejects
    {a : Argument}
    (hNot : (∃ r, a.checked = .error r) ∨
      ¬ (s.world.statement p).Takes index) :
    s.Rejects (bindArgument p index a) := by
  rw [bindArgument_eq]
  cases hChecked : a.checked with
  | error r =>
      rw [Attempt.accept_error_bind]
      exact .of_run (Attempt.run_refuse r s)
  | ok v =>
      rw [Attempt.accept_ok_bind]
      rcases hNot with ⟨r, hArgument⟩ | hParameter
      · rw [hChecked] at hArgument
        cases hArgument
      · rcases bindPayload_of_not_takes hParameter
          v.bindingName v.payload with ⟨r, hRun⟩
        exact .of_run hRun

/- A name may be unknown, or the parameter may not do. -/
theorem bindNamed_rejects
    {name : Bytes}
    {a : Argument}
    (hNot : (∃ r, a.checked = .error r) ∨
      ∀ index : Nat,
        ((requireParameterIndex p name).run s).1 = .ok index →
          ¬ (s.world.statement p).Takes index) :
    s.Rejects (bindNamed p name a) := by
  apply Rejects.bind_of_consults
    (requireParameterIndex_consults p name)
  intro index t hFound hConsulted
  apply bindArgument_rejects
  rw [hConsulted.statement]
  exact hNot.imp_right fun hParameter =>
    hParameter index (congrArg Prod.fst hFound)

/- Bindings are not cleared while there is a row. -/
theorem clearBindings_rejects
    (hNot : (s.world.statement p).handle = none ∨
      (s.world.statement p).state = .row) :
    s.Rejects (clearBindings p) := by
  cases hHandle : (s.world.statement p).handle with
  | none =>
      exact .bind (.of_run (requireHandle_of_none hHandle _))
  | some st =>
      have hRow : (s.world.statement p).state = .row := by
        rw [hHandle] at hNot
        exact hNot.resolve_left nofun
      apply Rejects.bind_of_consults (requireHandle_consults p _)
      intro st' t _ hConsulted
      rw [← hConsulted.statement] at hRow
      exact .bind (.of_run
        ((requireNoRow_run _ t).trans
          (Attempt.run_require_of_false
            (decide_eq_false (not_not_intro hRow)) _ t)))

/- Whether a statement has a column. -/
def HasColumn
    (s : Statement)
    (index : Int) : Prop :=
  0 ≤ index ∧ index < (s.columnNames.length : Int)

theorem requireColumn_rejects
    (hNot : ¬ (s.world.statement p).HasColumn index) :
    s.Rejects (requireColumn p index) := by
  apply Rejects.of_run
  apply Attempt.run_require_of_false
  exact (Bool.decide_and _ _).symm.trans (decide_eq_false hNot)

/- A column is not read where there is no row. -/
theorem requireRow_rejects
    (hNot : (s.world.statement p).handle = none ∨
      (s.world.statement p).state ≠ .row)
    (operation : String) :
    s.Rejects (requireRow p operation) := by
  cases hHandle : (s.world.statement p).handle with
  | none =>
      exact .bind (.of_run (requireHandle_of_none hHandle _))
  | some st =>
      have hRow : (s.world.statement p).state ≠ .row := by
        rw [hHandle] at hNot
        exact hNot.resolve_left nofun
      apply Rejects.bind_of_consults (requireHandle_consults p _)
      intro st' t _ hConsulted
      rw [← hConsulted.statement] at hRow
      exact .of_run (Attempt.run_lift_require_of_false
        (decide_eq_false hRow))

end Statement

------------------------------------------------------------
-- Reading
------------------------------------------------------------

/-
  Whether a statement can answer a request about one of its
  columns.  The value and the class of a column are those of
  the current row; the name and the declared type are there
  without one.
-/
def StatementRequest.Fits
    (s : Statement) : StatementRequest → Prop
  | columnValue index | columnAs _ index
  | columnType index | columnIsNull index =>
      s.handle ≠ none ∧ s.state = .row ∧ s.HasColumn index
  | columnName index | columnDeclaration index =>
      s.handle ≠ none ∧ s.HasColumn index
  | _ => True

namespace Statement

variable {p : Place} {index : Int} {s : Session E}

/- The contents of a column are not read without the row. -/
theorem contents_rejects
    {operation : String}
    {k : StatementHandle → Attempt E α}
    (hNot : ¬ ((s.world.statement p).handle ≠ none ∧
      (s.world.statement p).state = .row ∧
        (s.world.statement p).HasColumn index)) :
    s.Rejects (requireRow p operation >>= fun st =>
      requireColumn p index >>= fun _ => k st) := by
  by_cases hHandle : (s.world.statement p).handle = none
  · exact .bind (requireRow_rejects (.inl hHandle) _)
  by_cases hRow : (s.world.statement p).state = .row
  · apply Rejects.bind_of_consults (requireRow_consults p _)
    intro st t _ hConsulted
    apply Rejects.bind
    apply requireColumn_rejects
    rw [hConsulted.statement]
    exact fun hColumn => hNot ⟨hHandle, hRow, hColumn⟩
  · exact .bind (requireRow_rejects (.inr hRow) _)

/- A column is not described without a handle. -/
theorem description_rejects
    {operation : String}
    {k : Attempt E α}
    (hNot : ¬ ((s.world.statement p).handle ≠ none ∧
      (s.world.statement p).HasColumn index)) :
    s.Rejects (requireHandle p operation >>= fun _ =>
      requireColumn p index >>= fun _ => k) := by
  by_cases hHandle : (s.world.statement p).handle = none
  · exact .bind (.of_run (requireHandle_of_none hHandle _))
  · apply Rejects.bind_of_consults (requireHandle_consults p _)
    intro st t _ hConsulted
    apply Rejects.bind
    apply requireColumn_rejects
    rw [hConsulted.statement]
    exact fun hColumn => hNot ⟨hHandle, hColumn⟩

end Statement

/- A request that does not fit its statement is refused. -/
theorem StatementRequest.perform_rejects
    {p : Place}
    {s : Session E}
    {r : StatementRequest}
    (hNot : ¬ r.Fits (s.world.statement p)) :
    s.Rejects (r.perform p) := by
  cases r with
  | columnValue index =>
      exact .bind (Statement.contents_rejects hNot)
  | columnAs t index =>
      exact .bind (.bind (Statement.contents_rejects hNot))
  | columnType index =>
      exact .bind (Statement.contents_rejects hNot)
  | columnIsNull index =>
      exact .bind (.bind (Statement.contents_rejects hNot))
  | columnName index =>
      exact .bind (Statement.description_rejects hNot)
  | columnDeclaration index =>
      exact .bind (Statement.description_rejects hNot)
  | _ => exact absurd trivial hNot

/- What a request to a row asks of the statement. -/
def RowRequest.asked : RowRequest → Option StatementRequest
  | size => some .columnCount
  | value index => some (.columnValue index)
  | isNull index => some (.columnIsNull index)
  | columnName index => some (.columnName index)
  | getAs t index => some (.columnAs t index)
  | isCurrent | values => none

/- A row that can be read asks its statement. -/
theorem RowRequest.perform_eq
    {q : RowRequest}
    {r : StatementRequest}
    (hAsked : q.asked = some r)
    (R : Row) :
    q.perform (E := E) R = R.current >>= r.perform := by
  have hMap : ∀ {α : Type} (x : Place → Attempt E α)
      (make : α → Reply),
      Reply.of make (R.current >>= x) =
        R.current >>= fun p => Reply.of make (x p) :=
    fun x make => bind_assoc (m := Attempt E) _ _ _
  cases q with
  | isCurrent | values => cases hAsked
  | size =>
      cases hAsked
      exact (congrArg _
        (bind_assoc (m := Attempt E) _ _ _)).trans (hMap _ _)
  | _ =>
      cases hAsked
      exact hMap _ _

/- The place that a row finds is that of its statement. -/
theorem Row.placeOf_of_current
    {R : Row}
    {p : Place}
    {s t : Session E}
    (hRun : R.current.run s = (.ok p, t)) :
    s.world.placeOf R = some p := by
  unfold current at hRun
  rw [Attempt.run_read] at hRun
  cases hPlace : s.world.placeOf R with
  | none =>
      rw [hPlace] at hRun
      cases hRun
  | some q =>
      rw [hPlace] at hRun
      rcases Attempt.run_bind_eq_ok.mp hRun with
        ⟨_, _, _, hRequired⟩
      rcases Attempt.run_bind_eq_ok.mp hRequired with
        ⟨_, _, _, hFound⟩
      cases hFound
      rfl

namespace RowRequest

variable {q : RowRequest} {R : Row} {s : Session E}

/- Nothing is read from a row that has expired. -/
theorem rejects_of_stale
    (hReads : q ≠ .isCurrent)
    (hStale : s.world.isCurrent R = false) :
    s.Rejects (q.perform R) := by
  rcases refused_of_stale q hReads hStale with ⟨e, _, hRun⟩
  exact .of_consults (q.perform_consults R)
    (congrArg Prod.fst hRun)

/- What is asked of a row may not fit its statement. -/
theorem perform_rejects
    {r : StatementRequest}
    (hAsked : q.asked = some r)
    (hNot : ∀ p, s.world.placeOf R = some p →
      ¬ r.Fits (s.world.statement p)) :
    s.Rejects (q.perform R) := by
  rw [perform_eq hAsked]
  apply Rejects.bind_of_consults R.current_consults
  intro p t hRun hConsulted
  apply StatementRequest.perform_rejects
  rw [hConsulted.statement]
  exact hNot p (Row.placeOf_of_current hRun)

end RowRequest

------------------------------------------------------------
-- Connections
------------------------------------------------------------

section Connections

variable {s : Session E} {c : ConnectionId} {p : Place}

/-
  Whether a text can be prepared on a connection, as far as
  this library can tell.
-/
def Connection.Prepares
    (c : Connection)
    (sql : Bytes) : Prop :=
  c.handle ≠ none ∧ Statement.Sendable sql

/- A statement is prepared only from a text that has one. -/
theorem Statement.prepare_rejects
    {sql : Bytes}
    (hNot : ¬ (s.world.connection c).Prepares sql) :
    s.Rejects (prepare c p sql) := by
  cases hHandle : (s.world.connection c).handle with
  | none => exact .of_run (prepare_of_closed hHandle p sql)
  | some db =>
      rw [prepare_eq]
      apply Rejects.of_run_eq (Attempt.run_bind_of_ok
        (Connection.requireOpen_of_open hHandle _))
      cases hChecked : requireText sql with
      | error r => exact .of_run (Attempt.run_refuse r s)
      | ok _ =>
          exact absurd ⟨by simp [hHandle],
            requireText_eq_ok_iff.mp hChecked⟩ hNot

/- A statement is not assigned if it cannot be prepared. -/
theorem Operation.assignPreparedIn_rejects
    {n m : Nat}
    {sql : Bytes}
    (hFound : s.world.plain.get? n = some c)
    (hNot : ¬ (s.world.connection c).Prepares sql) :
    s.Rejects (assignPreparedIn n m sql) := by
  apply Rejects.of_run_eq
    (Attempt.run_bind_of_ok (run_needed hFound))
  exact .bind (Statement.prepare_rejects hNot)

namespace Connection

/- A connection is not closed while something is live. -/
theorem close_rejects
    (hOpen : (s.world.connection c).handle ≠ none)
    (hChildren : (s.world.connection c).hasChildren = true) :
    s.Rejects (close c) := by
  rcases Option.ne_none_iff_exists'.mp hOpen with ⟨db, hHandle⟩
  apply Rejects.of_run
  unfold close lookup
  rw [Attempt.run_read, hHandle]
  exact Attempt.run_bind_of_error
    (Attempt.run_require_of_false (by simp [hChildren]) _ s)

/- A pragma has a name that is an identifier. -/
theorem pragma_rejects
    {name : Bytes}
    (hName : Identifier.isQualified name = false) :
    s.Rejects (pragma c name) := by
  have hRefused : Pragma.requireName name =
      .error (.invalidPragmaName name) := by
    simp [Pragma.requireName, hName]
  unfold pragma
  rw [hRefused, Attempt.accept_error_bind]
  exact .of_run (Attempt.run_refuse _ s)

/- A pragma is set to what can be written down. -/
theorem setPragma_rejects
    {name : Bytes}
    {v : Value}
    (hNot : Identifier.isQualified name = false ∨
      Pragma.literal? v = none) :
    s.Rejects (setPragma c name v) := by
  unfold setPragma
  cases hName : Identifier.isQualified name with
  | false =>
      have hRefused : Pragma.requireName name =
          .error (.invalidPragmaName name) := by
        simp [Pragma.requireName, hName]
      rw [hRefused, Attempt.accept_error_bind]
      exact .of_run (Attempt.run_refuse _ s)
  | true =>
      have hValue : Pragma.literal? v = none := by
        rw [hName] at hNot
        exact hNot.resolve_left nofun
      have hAccepted : Pragma.requireName name = .ok () := by
        simp [Pragma.requireName, hName]
      have hRefused : Pragma.literal name v =
          .error (.unsupportedPragmaValue v name) := by
        simp [Pragma.literal, hValue]
      rw [hAccepted, Attempt.accept_ok_bind, hRefused,
        Attempt.accept_error_bind]
      exact .of_run (Attempt.run_refuse _ s)

/- A busy timeout is not negative. -/
theorem setBusyTimeout_rejects
    {milliseconds : Int}
    (hNegative : milliseconds < 0) :
    s.Rejects (setBusyTimeout c milliseconds) := by
  cases hHandle : (s.world.connection c).handle with
  | none =>
      exact .bind (.of_run (requireOpen_of_closed hHandle _))
  | some db =>
      apply Rejects.of_run_eq (Attempt.run_bind_of_ok
        (requireOpen_of_open hHandle _))
      exact .bind (.of_run (Attempt.run_require_of_false
        (decide_eq_false (Int.not_le.mpr hNegative)) _ s))

end Connection

/- Whether a connection still exists is only looked up. -/
theorem Connection.requireExisting_consults
    (c : Option ConnectionId) :
    Attempt.Consults (E := E) (requireExisting c) := by
  have hExisting : Quiet.Consults (E := E) (existing c) := by
    cases c with
    | none => exact .pure none
    | some c =>
        exact .bind (.read _) fun _ => .ite (.pure _) (.pure _)
  apply Attempt.Consults.bind (.lift hExisting)
  intro found
  cases found with
  | some c => exact .pure c
  | none => exact .refuse _

/- A savepoint has a name that is an identifier. -/
theorem Savepoint.start_rejects
    {name : Bytes}
    (hName : Identifier.isValid name = false) :
    s.Rejects (start c p name) := by
  rw [← acceptsName_eq] at hName
  exact .bind (.of_run
    (Attempt.run_require_of_false hName _ s))

/- So has one that is made inside a transaction. -/
theorem Transaction.savepoint_rejects
    {t : Place}
    {name : Bytes}
    (hName : Identifier.isValid name = false) :
    s.Rejects (savepoint t p name) := by
  apply Rejects.bind_of_consults (.read _)
  intro guard s₁ _ _
  apply Rejects.bind_of_consults (.require _ _)
  intro _ s₂ _ _
  apply Rejects.bind_of_consults
    (Connection.requireExisting_consults _)
  intro c s₃ _ _
  exact Savepoint.start_rejects hName

/- A database is not copied over itself. -/
theorem Backup.start_rejects
    {first second : Bytes} :
    s.Rejects (start p c c first second) :=
  .bind (.of_run (Attempt.run_require_of_false
    (decide_eq_false (not_not_intro rfl)) _ s))

end Connections

------------------------------------------------------------
-- What Is Not Allowed
------------------------------------------------------------

namespace Session

/-
  What the library does not allow in a session:

    * `argument`, `parameter`: to bind what cannot be
      represented, or to a parameter that cannot be bound
    * `namedArgument`, `namedParameter`: to bind that by name,
      or by a name that finds no parameter that can be bound
    * `clear`: to clear the bindings of a statement that has a
      row or is finalized
    * `column`, `read`: to read a column that is not there or
      does not convert
    * `stale`, `rowColumn`, `rowRead`: to read a row that has
      expired, or such a column of one that has not
    * `prepare`, `assign`: to prepare a text that is blank or
      too long, or on a closed connection, for a statement of
      its own or for one that exists
    * `close`: to close a connection with something live
    * `pragma`, `setPragma`: to use a pragma by what is no
      identifier, or to set it to what cannot be written
    * `savepoint`, `savepointInside`: to name a savepoint by
      what is no identifier
    * `backup`, `copyAll`: to copy a database over itself
    * `busyTimeout`: to wait less than no time
-/
inductive Forbids (s : Session E) : Attempt E Reply → Prop where
  | argument
      {p : Place} {index : Int} {a : Argument} {r : Refusal}
      (hArgument : a.checked = .error r) :
      s.Forbids ((StatementRequest.bind index a).perform p)
  | parameter
      {p : Place} {index : Int} {a : Argument}
      (hParameter : ¬ (s.world.statement p).Takes index) :
      s.Forbids ((StatementRequest.bind index a).perform p)
  | namedArgument
      {p : Place} {name : Bytes} {a : Argument} {r : Refusal}
      (hArgument : a.checked = .error r) :
      s.Forbids ((StatementRequest.bindNamed name a).perform p)
  | namedParameter
      {p : Place} {name : Bytes} {a : Argument}
      (hParameter : ∀ index : Nat,
        ((Statement.requireParameterIndex p name).run s).1 =
          .ok index →
            ¬ (s.world.statement p).Takes index) :
      s.Forbids ((StatementRequest.bindNamed name a).perform p)
  | clear
      {p : Place}
      (hState : (s.world.statement p).handle = none ∨
        (s.world.statement p).state = .row) :
      s.Forbids (StatementRequest.clearBindings.perform p)
  | column
      {p : Place} {r : StatementRequest}
      (hColumn : ¬ r.Fits (s.world.statement p)) :
      s.Forbids (r.perform p)
  | read
      {p : Place} {r : StatementRequest} {e : Failure}
      (hReads : r.readsColumns = true)
      (hFailed : ((r.perform p).run s).1 = .error e) :
      s.Forbids (r.perform p)
  | stale
      {R : Row} {q : RowRequest}
      (hReads : q ≠ .isCurrent)
      (hStale : s.world.isCurrent R = false) :
      s.Forbids (q.perform R)
  | rowColumn
      {R : Row} {q : RowRequest} {r : StatementRequest}
      (hAsked : q.asked = some r)
      (hColumn : ∀ p, s.world.placeOf R = some p →
        ¬ r.Fits (s.world.statement p)) :
      s.Forbids (q.perform R)
  | rowRead
      {R : Row} {q : RowRequest} {e : Failure}
      (hFailed : ((q.perform R).run s).1 = .error e) :
      s.Forbids (q.perform R)
  | prepare
      {c : ConnectionId} {p : Place} {sql : Bytes}
      (hText : ¬ (s.world.connection c).Prepares sql) :
      s.Forbids (Reply.after (Statement.prepare c p sql))
  | assign
      {c : ConnectionId} {n m : Nat} {sql : Bytes}
      (hFound : s.world.plain.get? n = some c)
      (hText : ¬ (s.world.connection c).Prepares sql) :
      s.Forbids
        (Reply.after (Operation.assignPreparedIn n m sql))
  | close
      {c : ConnectionId}
      (hChildren :
        (s.world.connection c).hasChildren = true) :
      s.Forbids (ConnectionRequest.close.perform c)
  | pragma
      {c : ConnectionId} {name : Bytes}
      (hName : Identifier.isQualified name = false) :
      s.Forbids ((ConnectionRequest.pragma name).perform c)
  | setPragma
      {c : ConnectionId} {name : Bytes} {v : Value}
      (hNot : Identifier.isQualified name = false ∨
        Pragma.literal? v = none) :
      s.Forbids ((ConnectionRequest.setPragma name v).perform c)
  | savepoint
      {c : ConnectionId} {p : Place} {name : Bytes}
      (hName : Identifier.isValid name = false) :
      s.Forbids (Reply.after (Savepoint.start c p name))
  | savepointInside
      {t p : Place} {name : Bytes}
      (hName : Identifier.isValid name = false) :
      s.Forbids (Reply.after (Transaction.savepoint t p name))
  | backup
      {c : ConnectionId} {p : Place} {first second : Bytes} :
      s.Forbids
        (Reply.after (Backup.start p c c first second))
  | copyAll
      {c : ConnectionId} :
      s.Forbids (Reply.after (Backup.copyAll c c))
  | busyTimeout
      {c : ConnectionId} {milliseconds : Int}
      (hNegative : milliseconds < 0) :
      s.Forbids
        ((ConnectionRequest.setBusyTimeout milliseconds).perform
          c)

end Session

/- A connection that lists something is open. -/
theorem World.Consistent.open_of_hasChildren
    {w : World E}
    {c : ConnectionId}
    (hConsistent : w.Consistent)
    (hChildren : (w.connection c).hasChildren = true) :
    (w.connection c).handle ≠ none := by
  intro hClosed
  cases hFound : w.connections.get? c with
  | none =>
      simp [World.connection, hFound, Connection.vacant,
        Connection.hasChildren] at hChildren
  | some conn =>
      simp only [World.connection, hFound,
        Option.getD_some] at hClosed hChildren
      have hNothing := hConsistent.closed c conn hFound hClosed
      simp [Connection.hasChildren, hNothing] at hChildren

namespace Session

/-
  Whatever is not allowed is refused, and it leaves a session
  as it was.
-/
theorem Forbids.rejects
    {s : Session E}
    {x : Attempt E Reply}
    (hConsistent : s.world.Consistent)
    (hForbids : s.Forbids x) :
    s.Rejects x := by
  cases hForbids with
  | argument hArgument =>
      exact .bind (Statement.bindArgument_rejects
        (.inl ⟨_, hArgument⟩))
  | parameter hParameter =>
      exact .bind (Statement.bindArgument_rejects
        (.inr hParameter))
  | namedArgument hArgument =>
      exact .bind (Statement.bindNamed_rejects
        (.inl ⟨_, hArgument⟩))
  | namedParameter hParameter =>
      exact .bind (Statement.bindNamed_rejects
        (.inr hParameter))
  | clear hState =>
      exact .bind (Statement.clearBindings_rejects hState)
  | column hColumn =>
      exact StatementRequest.perform_rejects hColumn
  | read hReads hFailed =>
      exact .of_consults
        (StatementRequest.perform_consults hReads _) hFailed
  | stale hReads hStale =>
      exact RowRequest.rejects_of_stale hReads hStale
  | rowColumn hAsked hColumn =>
      exact RowRequest.perform_rejects hAsked hColumn
  | rowRead hFailed =>
      exact .of_consults (RowRequest.perform_consults _ _)
        hFailed
  | prepare hText =>
      exact .bind (Statement.prepare_rejects hText)
  | assign hFound hText =>
      exact .bind
        (Operation.assignPreparedIn_rejects hFound hText)
  | close hChildren =>
      exact .bind (Connection.close_rejects
        (hConsistent.open_of_hasChildren hChildren) hChildren)
  | pragma hName => exact .bind (Connection.pragma_rejects hName)
  | setPragma hNot =>
      exact .bind (Connection.setPragma_rejects hNot)
  | savepoint hName =>
      exact .bind (Savepoint.start_rejects hName)
  | savepointInside hName =>
      exact .bind (Transaction.savepoint_rejects hName)
  | backup => exact .bind Backup.start_rejects
  | copyAll => exact .bind (.bind Backup.start_rejects)
  | busyTimeout hNegative =>
      exact .bind (Connection.setBusyTimeout_rejects hNegative)

/-
  After any operations on any engine, whatever the library
  does not allow is refused, and leaves everything as it was.
-/
theorem forbidden_rejected
    (engine : E.State)
    (patience : Nat)
    (log : Log)
    (ops : List Operation)
    (x : Attempt E Reply)
    (hForbids :
      ((start engine patience log).runAll ops).2.Forbids x) :
    ((start engine patience log).runAll ops).2.Rejects x :=
  hForbids.rejects
    ((reachable_sound engine patience log ops).consistent rfl)

/- Open a connection, and fetch the row of a statement. -/
def oneRowFetched : List Operation :=
  oneRowSetup ++ [.fetch 0 0]

/- Bindings are not cleared under a row, which stays. -/
theorem forbidden_rejected_row :
    ((start oneRowEngine 100 {}).runAll
      oneRowFetched).2.Forbids
        (StatementRequest.clearBindings.perform (.slot 0)) ∧
      ((start oneRowEngine 100 {}).runAll
        oneRowFetched).2.Rejects
          (StatementRequest.clearBindings.perform
            (.slot 0)) := by
  have hRow :
      (((start oneRowEngine 100 {}).runAll
        oneRowFetched).2.world.statement (.slot 0)).state =
          .row := by
    decide +kernel
  exact ⟨.clear (.inr hRow),
    forbidden_rejected oneRowEngine 100 {} oneRowFetched _
      (.clear (.inr hRow))⟩

end Session

end SqliteAccess
