import SqliteAccess.Proofs.Connection.Effects
import SqliteAccess.Proofs.Session.Running

/-
  Which texts a session sends to the engine.

  Key definitions include:
    * `Event.text?`
    * `Trace.sent`
    * `Session.sent`
    * `Statement.Sendable`

  The texts are characterized by:
    * `Changes.keeps_sent`
    * `Connection.execute_sent`
    * `Connection.execute_of_closed`
-/

namespace SqliteAccess

variable {E : Engine} {α : Type} {A : Effect → Prop}
variable {s s' : Session E} {c : ConnectionId} {sql : Bytes}

open Attempt

------------------------------------------------------------
-- Texts
------------------------------------------------------------

/- The text that a call hands to the engine. -/
def Event.text? (e : Event) : Option Bytes :=
  match e.call with
  | .prepare sql _ => some sql
  | _ => none

/- The texts that a trace hands over, the latest first. -/
def Trace.sent (t : Trace) : List Bytes :=
  t.filterMap Event.text?

/- The texts that a session has sent, the latest first. -/
def Session.sent (s : Session E) : List Bytes :=
  s.world.trace.sent

/- Only compiling hands a text over. -/
theorem Event.text?_eq_none
    {e : Event}
    (hOther : e.call.effect? ≠ some .compile) :
    e.text? = none := by
  rcases e with ⟨call, answer⟩
  cases call <;> first | rfl | exact absurd rfl hOther

/- What does not compile sends nothing. -/
theorem Changes.keeps_sent
    (hCompile : ¬ A .compile)
    (hChanges : Changes A s s') :
    s'.sent = s.sent := by
  rcases hChanges.heard with ⟨l, hTrace, hAll⟩
  have hNone : l.filterMap Event.text? = [] := by
    apply List.filterMap_eq_nil_iff.2
    intro e hMem
    apply Event.text?_eq_none
    exact fun hText => hCompile (hAll e hMem _ hText)
  unfold Session.sent Trace.sent
  rw [hTrace, List.filterMap_append, hNone, List.nil_append]

------------------------------------------------------------
-- Preparing
------------------------------------------------------------

/- An open connection is asked by its handle. -/
theorem Connection.requireOpen_of_open
    {db : DatabaseHandle}
    (hOpen : (s.world.connection c).handle = some db)
    (operation : String) :
    (requireOpen c operation).run s = (.ok db, s) := by
  unfold requireOpen lookup
  rw [run_read, hOpen]
  rfl

/- A closed connection is not asked. -/
theorem Connection.requireOpen_of_closed
    (hClosed : (s.world.connection c).handle = none)
    (operation : String) :
    (requireOpen c operation).run s =
      (.error (.database
        (Refusal.connectionClosed operation).error), s) := by
  unfold requireOpen lookup
  rw [run_read, hClosed]
  rfl

namespace Statement

/- Compiling hands over one text. -/
theorem compile_sent
    (db : DatabaseHandle)
    (sql : Bytes)
    (s : Session E) :
    (compile db sql s).2.sent = sql :: s.sent := by
  unfold compile
  simp only [Quiet.run_bind]
  split <;> rfl

/-
  Whether a text can be sent: it is not blank, and not too
  long.
-/
structure Sendable (sql : Bytes) : Prop where
  text : Blank.isBlank sql = false
  fits : sql.length ≤ longestText

/- What is left of a text is not longer than all of it. -/
theorem Sendable.drop
    {i : Nat}
    (hFits : sql.length ≤ longestText)
    (hText : Blank.isBlank (sql.drop i) = false) :
    Sendable (sql.drop i) :=
  ⟨hText, by rw [List.length_drop]; omega⟩

/- Such a text passes the check, and no other text does. -/
theorem requireText_eq_ok_iff :
    requireText sql = .ok () ↔ Sendable sql := by
  unfold requireText
  split
  case isTrue hBlank =>
    refine ⟨nofun, fun hSendable => ?_⟩
    rw [hSendable.text] at hBlank
    cases hBlank
  case isFalse hText =>
    split
    case isTrue hLong =>
      exact ⟨nofun, fun hSendable =>
        absurd hLong (Nat.not_lt.mpr hSendable.fits)⟩
    case isFalse hFits =>
      exact ⟨fun _ => ⟨Bool.eq_false_iff.mpr hText,
        Nat.not_lt.mp hFits⟩, fun _ => rfl⟩

/- Other texts are blank, or too long. -/
theorem requireText_eq_error
    {r : Refusal}
    (hRefused : requireText sql = .error r) :
    r = .noStatement sql ∨ r = .longText := by
  unfold requireText at hRefused
  split at hRefused
  · cases hRefused
    exact .inl rfl
  · split at hRefused
    · cases hRefused
      exact .inr rfl
    · cases hRefused

/- A text that is too long breaks a rule of use. -/
theorem requireText_of_long
    (hText : Blank.isBlank sql = false)
    (hLong : ¬ sql.length ≤ longestText) :
    requireText sql = .error .longText := by
  unfold requireText
  rw [if_neg (by simp [hText]), if_pos (Nat.not_le.mp hLong)]

/- On an open connection, a text that can be sent is compiled. -/
theorem prepare_run
    {db : DatabaseHandle}
    (hOpen : (s.world.connection c).handle = some db)
    (hText : Sendable sql)
    (p : Place) :
    (prepare c p sql).run s =
      (keep p c db sql (compile db sql s).1).run
        (compile db sql s).2 := by
  rw [prepare_eq,
    run_bind_of_ok (Connection.requireOpen_of_open hOpen _),
    requireText_eq_ok_iff.mpr hText, accept_ok_bind,
    run_bind_of_ok (run_lift (compile db sql) s)]

/- A text that is too long is refused and not compiled. -/
theorem prepare_of_long
    {db : DatabaseHandle}
    (hOpen : (s.world.connection c).handle = some db)
    (hText : Blank.isBlank sql = false)
    (hLong : ¬ sql.length ≤ longestText)
    (p : Place) :
    (prepare c p sql).run s =
      (.error (.database Refusal.longText.error), s) := by
  rw [prepare_eq,
    run_bind_of_ok (Connection.requireOpen_of_open hOpen _),
    requireText_of_long hText hLong, accept_error_bind]
  exact run_refuse _ s

/- Preparing hands over one text, if the connection is open. -/
theorem prepare_sent
    {db : DatabaseHandle}
    (hOpen : (s.world.connection c).handle = some db)
    (hText : Sendable sql)
    (p : Place) :
    ((prepare c p sql).run s).2.sent = sql :: s.sent := by
  rw [prepare_run hOpen hText, ← compile_sent db sql s]
  exact (keep_affects (A := fun _ => False) p c db sql _
    _).keeps_sent id

/- What a closed connection is to prepare is refused. -/
theorem prepare_of_closed
    (hClosed : (s.world.connection c).handle = none)
    (p : Place)
    (sql : Bytes) :
    (prepare c p sql).run s =
      (.error (.database
        (Refusal.connectionClosed "prepare").error), s) := by
  rw [prepare_eq]
  exact run_bind_of_error
    (Connection.requireOpen_of_closed hClosed _)

/- What was compiled could be sent. -/
theorem sendable_of_prepare
    {p : Place}
    (hText : Blank.isBlank sql = false)
    (hPrepared : (prepare c p sql).run s = (.ok (), s')) :
    ∃ db, (s.world.connection c).handle = some db ∧
      Sendable sql := by
  cases hOpen : (s.world.connection c).handle with
  | none =>
      rw [prepare_of_closed hOpen] at hPrepared
      cases hPrepared
  | some db =>
      refine ⟨db, rfl, hText, ?_⟩
      apply Decidable.byContradiction
      intro hLong
      rw [prepare_of_long hOpen hText hLong] at hPrepared
      cases hPrepared

/-
  A temporary statement sends its own text, and no other if
  the work sends none.
-/
theorem within_sent
    {work : Place → Attempt E α}
    (hWork : ∀ p, Affects (fun _ => False) (work p))
    (c : ConnectionId)
    (sql : Bytes)
    (s : Session E) :
    ((within c sql work).run s).2.sent =
      ((prepare c .scratch sql).run s).2.sent := by
  unfold within
  rw [run_bind]
  cases hPrepared : (prepare c .scratch sql).run s with
  | mk result s' =>
      cases result with
      | error e => rfl
      | ok _ =>
          have hAll : Affects (fun _ => False)
              (ensuring (work .scratch) (destroy .scratch)) :=
            .ensuring (hWork .scratch) (destroy_affects _)
          exact (hAll s').keeps_sent id

/-
  It sends its text once, if the connection is open and the
  text is not too long.
-/
theorem within_sent_once
    {work : Place → Attempt E α}
    (hWork : ∀ p, Affects (fun _ => False) (work p))
    (hText : Blank.isBlank sql = false)
    (c : ConnectionId)
    (s : Session E) :
    ((within c sql work).run s).2.sent =
      if (s.world.connection c).isOpen = true ∧
          sql.length ≤ longestText
        then sql :: s.sent else s.sent := by
  rw [within_sent hWork]
  cases hHandle : (s.world.connection c).handle with
  | none =>
      rw [prepare_of_closed hHandle]
      simp [Connection.isOpen, hHandle]
  | some db =>
      by_cases hFits : sql.length ≤ longestText
      · rw [prepare_sent hHandle ⟨hText, hFits⟩]
        simp [Connection.isOpen, hHandle, hFits]
      · rw [prepare_of_long hHandle hText hFits]
        simp [hFits]

end Statement

------------------------------------------------------------
-- Executing
------------------------------------------------------------

namespace Connection

/- What a closed connection is to execute is refused. -/
theorem execute_of_closed
    (hClosed : (s.world.connection c).handle = none)
    (sql : Bytes) :
    (execute c sql).run s =
      (.error (.database
        (Refusal.connectionClosed "prepare").error), s) :=
  run_bind_of_error
    (Statement.prepare_of_closed hClosed .scratch sql)

/- A text that is too long is not executed. -/
theorem execute_of_long
    {db : DatabaseHandle}
    (hOpen : (s.world.connection c).handle = some db)
    (hText : Blank.isBlank sql = false)
    (hLong : ¬ sql.length ≤ Statement.longestText) :
    (execute c sql).run s =
      (.error (.database Refusal.longText.error), s) :=
  run_bind_of_error
    (Statement.prepare_of_long hOpen hText hLong .scratch)

/- What was executed could be sent. -/
theorem sendable_of_execute
    {n : Int}
    (hText : Blank.isBlank sql = false)
    (hRun : (execute c sql).run s = (.ok n, s')) :
    Statement.Sendable sql := by
  rcases run_bind_eq_ok.mp hRun with ⟨_, _, hPrepared, _⟩
  rcases Statement.sendable_of_prepare hText hPrepared with
    ⟨_, _, hSendable⟩
  exact hSendable

/-
  Executing a text sends it once, if the connection is open
  and the text is not too long.
-/
theorem execute_sent
    (hText : Blank.isBlank sql = false)
    (c : ConnectionId)
    (s : Session E) :
    ((execute c sql).run s).2.sent =
      if (s.world.connection c).isOpen = true ∧
          sql.length ≤ Statement.longestText
        then sql :: s.sent else s.sent := by
  apply Statement.within_sent_once _ hText
  intro p
  apply Affects.bind (.read _)
  intro s
  apply Affects.bind (.require _ _)
  exact fun _ => Statement.execute_affects p

end Connection

end SqliteAccess
