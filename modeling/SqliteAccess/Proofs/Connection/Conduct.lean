import SqliteAccess.Proofs.Connection.Sending

/-
  How executing a text fails, and what it writes to the log.

  A text that is executed leaves warnings in the log at most.
  If it fails, the engine has reported an error, or a call
  was refused, or a loop was given up.

  Key definitions include:
    * `Log.Warned`
    * `Failure.IsReported`
    * `Attempt.Modest`

  The programs are characterized by:
    * `Connection.execute_modest`
-/

namespace SqliteAccess

variable {E : Engine} {α β : Type}

open Attempt

------------------------------------------------------------
-- Warnings and Failures
------------------------------------------------------------

/- Whether a log came from another one by warnings. -/
def Log.Warned : Log → Log → Prop :=
  Relation.ReflTransGen fun log log' =>
    ∃ message fields,
      log' = log.write .warning message fields

/- Whether a failure is an error, or a loop was given up. -/
def Failure.IsReported : Failure → Prop
  | database _ => True
  | endless => True
  | foreign _ => False
  | noObject => False

/- Whether a quiet step writes warnings at most. -/
def Quiet.Modest (x : Quiet E α) : Prop :=
  ∀ s : Session E, Log.Warned s.log (x s).2.log

/-
  Whether an attempt writes warnings at most, and its failure
  is reported.
-/
structure Attempt.Modest (x : Attempt E α) : Prop where
  log : Quiet.Modest x.run
  failure : ∀ s e, (x.run s).1 = .error e → e.IsReported

------------------------------------------------------------
-- Quiet Steps
------------------------------------------------------------

namespace Quiet.Modest

variable {x : Quiet E α} {k : α → Quiet E β}

theorem pure (a : α) :
    Modest (pure a : Quiet E α) :=
  fun _ => .refl

theorem bind
    (h : Modest x)
    (hNext : ∀ a, Modest (k a)) :
    Modest (x >>= k) :=
  fun s => (h s).trans (hNext _ _)

theorem read (f : World E → α) :
    Modest (Quiet.read f) :=
  fun _ => .refl

theorem update (f : World E → World E) :
    Modest (Quiet.update f) :=
  fun _ => .refl

theorem invoke (c : Call) :
    Modest (E := E) (Quiet.invoke c) :=
  fun _ => .refl

theorem warning
    (message : String)
    (fields : List LogField) :
    Modest (E := E) (Quiet.note .warning message fields) :=
  fun _ => .single ⟨_, _, rfl⟩

theorem ite
    {c : Prop}
    [Decidable c]
    {x y : Quiet E α}
    (hThen : Modest x)
    (hElse : Modest y) :
    Modest (if c then x else y) := by
  split
  case isTrue => exact hThen
  case isFalse => exact hElse

end Quiet.Modest

------------------------------------------------------------
-- Attempts
------------------------------------------------------------

namespace Attempt.Modest

variable {x : Attempt E α} {k : α → Attempt E β}

theorem pure (a : α) :
    Modest (pure a : Attempt E α) where
  log _ := .refl
  failure _ _ := nofun

theorem bind
    (h : Modest x)
    (hNext : ∀ a, Modest (k a)) :
    Modest (x >>= k) where
  log s := by
    have hFirst := h.log s
    rw [run_bind]
    rcases hRun : x.run s with ⟨result, t⟩
    rw [hRun] at hFirst
    cases result with
    | ok a => exact hFirst.trans ((hNext a).log t)
    | error e => exact hFirst
  failure s e := by
    cases hRun : x.run s with
    | mk result t =>
        cases result with
        | ok a =>
            rw [run_bind_of_ok hRun]
            exact (hNext a).failure t e
        | error e' =>
            have hFirst := h.failure s e'
            rw [hRun] at hFirst
            rw [run_bind_of_error hRun]
            intro hSame
            cases hSame
            exact hFirst rfl

theorem lift
    {x : Quiet E α}
    (h : Quiet.Modest x) :
    Modest (Attempt.lift x) where
  log := h
  failure _ _ := nofun

theorem read (f : World E → α) :
    Modest (Attempt.lift (Quiet.read f)) :=
  lift (.read f)

theorem invoke (c : Call) :
    Modest (E := E) (Attempt.lift (Quiet.invoke c)) :=
  lift (.invoke c)

theorem throw
    {e : Failure}
    (hReported : e.IsReported) :
    Modest (MonadExcept.throw e : Attempt E α) where
  log _ := .refl
  failure _ _ h := by cases h; exact hReported

theorem fail (e : DatabaseError) :
    Modest (Attempt.fail e : Attempt E α) :=
  throw trivial

/- A failure leaves the rest undone. -/
theorem failed {e : DatabaseError} :
    Modest (Attempt.fail e >>= k) :=
  throw (α := β) trivial

theorem refuse (r : Refusal) :
    Modest (Attempt.refuse r : Attempt E α) :=
  throw trivial

theorem require
    (c : Bool)
    (r : Refusal) :
    Modest (E := E) (Attempt.require c r) := by
  cases c with
  | true => exact pure ()
  | false => exact refuse r

theorem accept (check : Except Refusal α) :
    Modest (E := E) (Attempt.accept check) := by
  cases check with
  | ok a => exact pure a
  | error r => exact refuse r

theorem ite
    {c : Prop}
    [Decidable c]
    {x y : Attempt E α}
    (hThen : Modest x)
    (hElse : Modest y) :
    Modest (if c then x else y) := by
  split
  case isTrue => exact hThen
  case isFalse => exact hElse

theorem ensuring
    {body : Attempt E α}
    {cleanup : Quiet E Unit}
    (hBody : Modest body)
    (hCleanup : Quiet.Modest cleanup) :
    Modest (Attempt.ensuring body cleanup) where
  log s := (hBody.log s).trans (hCleanup _)
  failure s e h := hBody.failure s e h

theorem handleError
    (db : DatabaseHandle)
    (code : ResultCode)
    (phase : Phase)
    (sql : Bytes) :
    Modest (E := E)
      (Attempt.lift (handleError db code phase sql)) := by
  apply lift
  apply Quiet.Modest.bind (.invoke _)
  intro full
  apply Quiet.Modest.bind (.invoke _)
  intro message
  apply Quiet.Modest.ite
  · exact .bind (.invoke _) fun _ => .pure _
  · exact .pure _

theorem check
    (db : DatabaseHandle)
    (code : ResultCode)
    (phase : Phase)
    (sql : Bytes) :
    Modest (E := E) (check db code phase sql) := by
  apply ite
  · exact .bind (.handleError db code phase sql) fun e =>
      .fail e
  · exact .pure ()

end Attempt.Modest

------------------------------------------------------------
-- Statements
------------------------------------------------------------

namespace Statement

variable (p : Place) (st : StatementHandle)

theorem requireHandle_modest (operation : String) :
    Modest (E := E) (requireHandle p operation) := by
  apply Modest.bind (.read _)
  intro s
  cases s.handle with
  | some st => exact .pure st
  | none => exact .refuse _

theorem destroy_modest :
    Quiet.Modest (E := E) (destroy p) := by
  apply Quiet.Modest.bind
  case hNext => exact fun _ => .update _
  apply Quiet.Modest.bind (.read _)
  intro s
  cases s.handle with
  | none => exact .update _
  | some st =>
      apply Quiet.Modest.bind (.update _)
      intro _
      apply Quiet.Modest.bind (.update _)
      intro _
      apply Quiet.Modest.bind (.invoke _)
      intro code
      exact .ite (.warning _ _) (.pure ())

theorem describeColumns_modest
    (first count : Nat) :
    Quiet.Modest (E := E)
      (describeColumns st first count) := by
  induction count generalizing first with
  | zero => exact .pure _
  | succ n ih =>
      apply Quiet.Modest.bind (.invoke _)
      intro name
      apply Quiet.Modest.bind (.invoke _)
      intro type
      exact .bind (ih (first + 1)) fun _ => .pure _

theorem describe_modest
    (c : ConnectionId)
    (anchor : Anchor)
    (sql : Bytes)
    (tail : Option Nat) :
    Quiet.Modest (E := E)
      (describe c anchor sql st tail) := by
  apply Quiet.Modest.bind (.invoke _)
  intro text
  apply Quiet.Modest.bind (.invoke _)
  intro parameters
  apply Quiet.Modest.bind (.invoke _)
  intro columns
  exact .bind (describeColumns_modest st 0 _) fun _ =>
    .pure _

theorem compile_modest
    (db : DatabaseHandle)
    (sql : Bytes) :
    Quiet.Modest (E := E) (compile db sql) := by
  apply Quiet.Modest.bind (.read _)
  intro issued
  apply Quiet.Modest.bind (.invoke _)
  intro answer
  apply Quiet.Modest.ite
  · exact .bind (.update _) fun _ => .pure _
  · exact .pure _

theorem keep_modest
    (c : ConnectionId)
    (db : DatabaseHandle)
    (sql : Bytes)
    (compiled : StatementHandle × PrepareAnswer) :
    Modest (E := E) (keep p c db sql compiled) := by
  rcases compiled with ⟨st, answer⟩
  apply Modest.ite
  · apply Modest.bind (.handleError _ _ _ _)
    intro e
    apply Modest.ite
    · exact .bind (.invoke _) fun _ => .failed
    · exact .failed
  · apply Modest.bind (.require _ _)
    intro _
    apply Modest.bind (.read _)
    intro issued
    apply Modest.bind
    · exact .lift (describe_modest st c _ sql _)
    · exact fun _ => .lift (.update _)

theorem prepare_modest
    (c : ConnectionId)
    (sql : Bytes) :
    Modest (E := E) (prepare c p sql) := by
  rw [prepare_eq]
  apply Modest.bind
  · apply Modest.bind (.read _)
    intro conn
    cases conn.handle with
    | some db => exact .pure db
    | none => exact .refuse _
  intro db
  apply Modest.bind (.accept _)
  intro _
  apply Modest.bind (.lift (compile_modest db sql))
  exact keep_modest p c db sql

theorem within_modest
    {work : Place → Attempt E α}
    (c : ConnectionId)
    (sql : Bytes)
    (hWork : ∀ p, Modest (work p)) :
    Modest (within c sql work) := by
  apply Modest.bind (prepare_modest .scratch c sql)
  exact fun _ => .ensuring (hWork _) (destroy_modest _)

theorem rewind_modest :
    Modest (E := E) (rewind p st) := by
  apply Modest.bind (.read _)
  intro s
  apply Modest.bind (.invoke _)
  intro code
  apply Modest.bind (.lift (.update _))
  intro _
  exact .ite (.check _ _ _ _) (.pure ())

theorem step_modest :
    Modest (E := E) (step p) := by
  apply Modest.bind (requireHandle_modest p _)
  intro st
  apply Modest.bind
  · apply Modest.bind (.read _)
    exact fun s => .ite (rewind_modest p st) (.pure ())
  intro _
  apply Modest.bind (.invoke _)
  intro code
  apply Modest.bind (.lift (.update _))
  intro _
  apply Modest.ite (.pure _)
  apply Modest.ite (.pure _)
  apply Modest.bind (.read _)
  intro s
  exact .bind (.handleError _ _ _ _) fun e => .fail e

theorem drain_modest (n : Nat) :
    Modest (E := E) (drain p n) := by
  induction n with
  | zero => exact .throw trivial
  | succ n ih =>
      apply Modest.bind (step_modest p)
      exact fun _ => .ite ih (.pure ())

theorem execute_modest :
    Modest (E := E) (execute p) := by
  apply Modest.bind (requireHandle_modest p _)
  intro st
  apply Modest.bind (.read _)
  intro patience
  apply Modest.bind (drain_modest p patience)
  intro _
  apply Modest.bind (.invoke _)
  intro changed
  exact .bind (rewind_modest p st) fun _ => .pure _

end Statement

------------------------------------------------------------
-- Executing
------------------------------------------------------------

/-
  Executing a text writes warnings at most, and its failure
  is reported.
-/
theorem Connection.execute_modest
    (c : ConnectionId)
    (sql : Bytes) :
    Modest (E := E) (execute c sql) := by
  apply Statement.within_modest
  intro p
  apply Modest.bind (.read _)
  intro s
  exact .bind (.require _ _) fun _ =>
    Statement.execute_modest p

end SqliteAccess
