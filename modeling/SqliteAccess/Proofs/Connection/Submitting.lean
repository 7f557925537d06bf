import SqliteAccess.Proofs.Connection.Sending
import SqliteAccess.Proofs.Statement.Arguments
import SqliteAccess.Proofs.Text.Decimal
import SqliteAccess.Proofs.Transaction.Calls

/-
  Calls that put a text of the caller into SQL.

  Such a call checks what it is given before it touches the
  engine.  It hands over one text that it has made, or it is
  refused and nothing has happened.

  Key definitions include:
    * `Session.Objects`
    * `Session.Submits`
    * `Value.IsSettable`

  The calls are characterized by:
    * `Statement.within_submits`
    * `Connection.pragma_submits`
    * `Connection.setPragma_submits`
    * `Savepoint.start_submits`
    * `Transaction.savepoint_submits`
-/

namespace SqliteAccess

variable {E : Engine} {α β : Type}
variable {s : Session E} {c : ConnectionId}
variable {name sql : Bytes} {v : Value}

open Attempt

------------------------------------------------------------
-- Submitting a Text
------------------------------------------------------------

namespace Session

/-
  Whether a call breaks a rule of use: it is refused with an
  error that says so, and nothing else has happened.
-/
def Objects
    (s : Session E)
    (x : Attempt E α) : Prop :=
  ∃ r : Refusal, r.error.kind = .usage ∧
    x.run s = (.error (.database r.error), s)

/-
  Whether a call hands over a certain text and no other, if
  it is accepted and the text is not too long, and breaks a
  rule of use otherwise.
-/
structure Submits
    (s : Session E)
    (accepted : Prop)
    (sql : Bytes)
    (x : Attempt E α) : Prop where
  sends : accepted → sql.length ≤ Statement.longestText →
    (x.run s).2.sent = sql :: s.sent
  objects : ¬ (accepted ∧
    sql.length ≤ Statement.longestText) → s.Objects x

variable {accepted : Prop} {x : Attempt E α}
variable {k : α → Attempt E β}

/- Nothing follows a call that breaks a rule. -/
theorem Objects.bind
    (hObjects : s.Objects x) :
    s.Objects (x >>= k) := by
  rcases hObjects with ⟨r, hKind, hRun⟩
  exact ⟨r, hKind, run_bind_of_error hRun⟩

/- A call that fails a check breaks a rule. -/
theorem objects_of_require
    {holds : Bool}
    {r : Refusal}
    {y : Unit → Attempt E α}
    (hKind : r.error.kind = .usage)
    (hFails : holds = false) :
    s.Objects (require holds r >>= y) :=
  Objects.bind ⟨r, hKind, run_require_of_false hFails r s⟩

namespace Submits

/- A check that is passed is of no account. -/
theorem of_run_eq
    {y : Attempt E α}
    (hRun : x.run s = y.run s)
    (hSubmits : s.Submits accepted sql y) :
    s.Submits accepted sql x := by
  constructor
  · rw [hRun]
    exact hSubmits.sends
  · unfold Objects
    rw [hRun]
    exact hSubmits.objects

/- What is accepted may be put in other words. -/
theorem congr
    {accepted' : Prop}
    (hSame : accepted ↔ accepted')
    (hSubmits : s.Submits accepted sql x) :
    s.Submits accepted' sql x :=
  ⟨fun hIs => hSubmits.sends (hSame.mpr hIs),
    fun hNot => hSubmits.objects
      (hNot ∘ And.imp_left hSame.mp)⟩

/- A text is handed over once a check is passed. -/
theorem require
    {holds : Bool}
    {r : Refusal}
    {y : Unit → Attempt E α}
    (hKind : r.error.kind = .usage)
    (hSubmits : s.Submits accepted sql (y ())) :
    s.Submits (accepted ∧ holds = true) sql
      (Attempt.require holds r >>= y) := by
  cases hHolds : holds with
  | false =>
      constructor
      · rintro ⟨_, ⟨⟩⟩
      · exact fun _ => objects_of_require hKind rfl
  | true =>
      exact .of_run_eq
        (run_bind_of_ok (run_require_of_true rfl r s))
        (hSubmits.congr (by simp))

/- What follows without compiling hands nothing over. -/
theorem bind
    {A : Effect → Prop}
    (hCompile : ¬ A .compile)
    (hSubmits : s.Submits accepted sql x)
    (hRest : ∀ a, Affects A (k a)) :
    s.Submits accepted sql (x >>= k) := by
  constructor
  · intro hIs hFits
    rw [← hSubmits.sends hIs hFits, run_bind]
    rcases x.run s with ⟨result, t⟩
    cases result with
    | error e => rfl
    | ok a => exact (hRest a t).keeps_sent hCompile
  · exact fun hNot => (hSubmits.objects hNot).bind

end Submits

end Session

open Session

/- A temporary statement hands over its text. -/
theorem Statement.within_submits
    {work : Place → Attempt E α}
    (hText : Blank.isBlank sql = false)
    (hWork : ∀ p, Affects (fun _ => False) (work p)) :
    s.Submits ((s.world.connection c).handle ≠ none) sql
      (within c sql work) := by
  constructor
  · intro hOpen hFits
    rcases Option.ne_none_iff_exists'.mp hOpen with
      ⟨db, hHandle⟩
    rw [within_sent hWork c sql s]
    exact prepare_sent hHandle ⟨hText, hFits⟩ .scratch
  · intro hNot
    cases hHandle : (s.world.connection c).handle with
    | none =>
        exact ⟨.connectionClosed "prepare", rfl,
          run_bind_of_error
            (prepare_of_closed hHandle .scratch sql)⟩
    | some db =>
        have hLong : ¬ sql.length ≤ longestText :=
          fun hFits => hNot ⟨by simp [hHandle], hFits⟩
        exact ⟨.longText, rfl, run_bind_of_error
          (prepare_of_long hHandle hText hLong .scratch)⟩

------------------------------------------------------------
-- Pragmas
------------------------------------------------------------

/-
  Whether a pragma can be set to a value: it is an integer, a
  finite number, or a text that is an identifier.
-/
def Value.IsSettable : Value → Prop
  | .integer _ => True
  | .real x => x.isFinite = true
  | .text t => t.IsIdentifier
  | .null => False
  | .blob _ => False

namespace Pragma

/- These values are the ones that have a literal. -/
theorem literal?_ne_none_iff :
    literal? v ≠ none ↔ v.IsSettable := by
  cases v with
  | null => simp [literal?, Value.IsSettable]
  | blob b => simp [literal?, Value.IsSettable]
  | integer n => simp [literal?, Value.IsSettable]
  | real x => simp [literal?, Value.IsSettable]
  | text t =>
      simp [literal?, Value.IsSettable,
        Identifier.isValid_iff]

/- A literal is an identifier or a number. -/
theorem literal?_eq_some
    {literal : Bytes}
    (hLiteral : literal? v = some literal) :
    literal.IsIdentifier ∨ literal.IsNumber := by
  cases v with
  | null => cases hLiteral
  | blob b => cases hLiteral
  | integer n =>
      cases hLiteral
      exact .inr (Bytes.ofInt_isNumber _)
  | real x =>
      simp only [literal?] at hLiteral
      split at hLiteral
      · cases hLiteral
        exact .inr (Double.toSignificant_isNumber 17 x)
      · cases hLiteral
  | text t =>
      simp only [literal?] at hLiteral
      split at hLiteral
      case isTrue hValid =>
        cases hLiteral
        exact .inl (Identifier.isValid_iff.mp hValid)
      case isFalse => cases hLiteral

/- The name of a pragma is checked like this. -/
theorem accept_requireName (name : Bytes) :
    accept (E := E) (requireName name) =
      require (Identifier.isQualified name)
        (.invalidPragmaName name) := by
  unfold requireName require
  split <;> rfl

end Pragma

namespace Connection

/- Reading a pragma. -/
theorem pragma_submits :
    s.Submits
      ((s.world.connection c).handle ≠ none ∧
        name.IsPragmaName)
      (Bytes.ascii "PRAGMA " ++ name) (pragma c name) := by
  rw [← Identifier.isQualified_iff]
  unfold pragma
  rw [Pragma.accept_requireName]
  apply Submits.require rfl
  apply Statement.within_submits
  · exact Blank.isBlank_append (by decide +kernel)
      (by decide +kernel) name
  · intro p
    apply Affects.bind (Statement.step_affects p)
    intro result
    apply Affects.ite (.pure _)
    apply Affects.bind (Statement.columnCount_affects p)
    intro count
    exact .ite (.pure _) (Statement.columnValue_affects p 0)

/- Setting a pragma to a value that can be written. -/
theorem setPragma_submits
    {literal : Bytes}
    (hLiteral : Pragma.literal? v = some literal) :
    s.Submits
      ((s.world.connection c).handle ≠ none ∧
        name.IsPragmaName)
      (Bytes.ascii "PRAGMA " ++ name ++
        Bytes.ascii " = " ++ literal)
      (setPragma c name v) := by
  have hAccepted : Pragma.literal name v = .ok literal := by
    simp [Pragma.literal, hLiteral]
  rw [← Identifier.isQualified_iff]
  unfold setPragma
  rw [Pragma.accept_requireName]
  apply Submits.require rfl
  rw [hAccepted, accept_ok_bind]
  apply Statement.within_submits
  · rw [List.append_assoc, List.append_assoc]
    exact Blank.isBlank_append (by decide +kernel)
      (by decide +kernel) _
  · intro p
    apply Affects.bind (.read _)
    exact fun n => Statement.drain_affects p n

/- Setting a pragma to a value that cannot be written. -/
theorem setPragma_objects
    (hLiteral : Pragma.literal? v = none) :
    s.Objects (setPragma c name v) := by
  have hRefused : Pragma.literal name v =
      .error (.unsupportedPragmaValue v name) := by
    simp [Pragma.literal, hLiteral]
  unfold setPragma
  rw [Pragma.accept_requireName]
  cases hName : Identifier.isQualified name with
  | false => exact objects_of_require rfl rfl
  | true =>
      refine ⟨.unsupportedPragmaValue v name, rfl, ?_⟩
      rw [run_bind_of_ok (run_require_of_true rfl _ s),
        hRefused, accept_error_bind]
      exact run_refuse _ s

end Connection

------------------------------------------------------------
-- Savepoints
------------------------------------------------------------

/- Making a savepoint. -/
theorem Savepoint.start_submits {p : Place} :
    s.Submits
      ((s.world.connection c).handle ≠ none ∧
        name.IsIdentifier)
      (startSql name) (start c p name) := by
  rw [← Identifier.isValid_iff, ← acceptsName_eq]
  unfold start
  apply Submits.require rfl
  have hExecuted : s.Submits
      ((s.world.connection c).handle ≠ none) (startSql name)
      (Connection.execute c (startSql name)) := by
    apply Statement.within_submits (startSql_not_blank name)
    intro p
    apply Affects.bind (.read _)
    intro s
    apply Affects.bind (.require _ _)
    exact fun _ => Statement.execute_affects p
  apply hExecuted.bind (A := (· = .guard)) (by simp)
  intro n
  apply Affects.lift
  exact Guards.change_affects (A := (· = .guard)) rfl
    fun w => ⟨w.transactions, _, rfl⟩

/- A connection that is needed may be gone. -/
theorem Connection.requireExisting_submits
    {accepted : Prop}
    {k : ConnectionId → Attempt E α}
    (needed : Option ConnectionId)
    (hRest : ∀ id, needed = some id →
      s.Submits
        ((s.world.connection id).handle ≠ none ∧ accepted)
        sql (k id)) :
    s.Submits (s.world.handleOf needed ≠ none ∧ accepted) sql
      (requireExisting needed >>= k) := by
  cases needed with
  | none =>
      constructor
      · rintro ⟨hNone, _⟩ _
        exact absurd rfl hNone
      · exact fun _ => ⟨.connectionDestroyed, rfl, rfl⟩
  | some id =>
      cases hFound : s.world.connections.contains id with
      | true =>
          exact .of_run_eq
            (run_bind_of_ok (requireExisting_of_contains hFound))
            (hRest id rfl)
      | false =>
          have hGone : (s.world.connection id).handle =
              none := by
            simp only [Table.contains,
              Option.isSome_eq_false_iff,
              Option.isNone_iff_eq_none] at hFound
            simp [World.connection, hFound,
              Connection.vacant]
          constructor
          · rintro ⟨hOpen, _⟩ _
            exact absurd hGone hOpen
          · exact fun _ => Objects.bind
              ⟨.connectionDestroyed, rfl,
                requireExisting_of_missing hFound⟩

/-
  Making a savepoint inside the transaction of a guard, which
  has to be active and to have an open connection.
-/
theorem Transaction.savepoint_submits {t p : Place} :
    s.Submits
      ((∃ g, s.world.active .transaction t = some g ∧
          s.world.handleOf g.connection ≠ none) ∧
        name.IsIdentifier)
      (Savepoint.startSql name) (savepoint t p name) := by
  cases hActive : s.world.active .transaction t with
  | none =>
      constructor
      · rintro ⟨⟨g, ⟨⟩, _⟩, _⟩ _
      · intro _
        have hEnded := Transaction.lookup_of_inactive hActive
        exact ⟨.savepointOutside, rfl,
          run_lift_require_of_false hEnded⟩
  | some g =>
      refine .of_run_eq (GuardCall.nest_of_active hActive) ?_
      refine (Connection.requireExisting_submits g.connection
        fun id _ => Savepoint.start_submits).congr ?_
      simp

end SqliteAccess
