import SqliteAccess.Proofs.Connection.Batch
import SqliteAccess.Proofs.Error.Attribution
import SqliteAccess.Proofs.Transaction.Retrying

/-
  Running a text as one statement and as a batch.

  A text that holds one statement is run in the same way by
  both.  A text that holds more is refused as one statement,
  and as a batch it is compiled piece by piece.

  Key definitions include:
    * `Attempt.Avoids`
    * `Failure.DemandsOne`
    * `Connection.RunsAlike`

  The agreement is proven by:
    * `Connection.execute_of_more`
    * `Connection.execute_of_last`
    * `Connection.executeFirst_of_prepared`
    * `Connection.execute_demandsOne_iff`
    * `Connection.execute_refused_iff`
    * `Connection.executeBatch_sent_iff`
    * `Connection.executeBatch_of_not_demandsOne`
    * `Connection.runs_alike`
-/

namespace SqliteAccess

variable {E : Engine} {α β : Type} {s t : Session E}
variable {c : ConnectionId} {p : Place} {sql : Bytes}

open Attempt

------------------------------------------------------------
-- Failures That Are Avoided
------------------------------------------------------------

/- Whether an attempt never fails in a certain way. -/
def Attempt.Avoids
    (F : Failure → Prop)
    (x : Attempt E α) : Prop :=
  ∀ s e, (x.run s).1 = .error e → ¬ F e

namespace Attempt.Avoids

variable {F : Failure → Prop} {x : Attempt E α}
variable {k : α → Attempt E β}

theorem pure (a : α) :
    Avoids (E := E) F (Pure.pure a) := by
  intro s e hFails
  cases hFails

theorem lift (x : Quiet E α) :
    Avoids F (Attempt.lift x) := by
  intro s e hFails
  cases hFails

theorem throw
    {e : Failure}
    (hOther : ¬ F e) :
    Avoids (E := E) (α := α) F (MonadExcept.throw e) := by
  intro s e' hFails
  cases hFails
  exact hOther

theorem bind
    (hFirst : Avoids F x)
    (hRest : ∀ a, Avoids F (k a)) :
    Avoids F (x >>= k) := by
  intro s e hFails
  rcases hRun : x.run s with ⟨result, t⟩
  cases result with
  | error e' =>
      rw [run_bind_of_error hRun] at hFails
      cases hFails
      exact hFirst s e (congrArg Prod.fst hRun)
  | ok a =>
      rw [run_bind_of_ok hRun] at hFails
      exact hRest a t e hFails

theorem require
    {r : Refusal}
    (hOther : ¬ F (.database r.error))
    (condition : Bool) :
    Avoids (E := E) F (Attempt.require condition r) := by
  cases condition with
  | true => exact .pure ()
  | false => exact .throw hOther

theorem accept
    {check : Except Refusal α}
    (hOther : ∀ r, check = .error r →
      ¬ F (.database r.error)) :
    Avoids (E := E) F (Attempt.accept check) := by
  cases check with
  | ok a => exact .pure a
  | error r => exact .throw (hOther r rfl)

theorem ite
    {condition : Prop}
    [Decidable condition]
    {y : Attempt E α}
    (hThen : Avoids F x)
    (hElse : Avoids F y) :
    Avoids F (if condition then x else y) := by
  split
  · exact hThen
  · exact hElse

end Attempt.Avoids

------------------------------------------------------------
-- The Demand for One Statement
------------------------------------------------------------

/-
  Whether a failure is the refusal of a text because more SQL
  follows its first statement.
-/
def Failure.DemandsOne (e : Failure) : Prop :=
  ∃ offset sql,
    e = .database (Refusal.moreSql offset sql).error

namespace Failure.DemandsOne

/- A message that starts in another way is no such demand. -/
theorem not_of_usage
    {message : Bytes}
    (hOther : ¬ Bytes.ascii
      "execute() runs a single statement but " <+: message)
    (sql : Bytes) :
    ¬ DemandsOne (.database (Refusal.usage message sql)) := by
  rintro ⟨offset, text, hSame⟩
  injection hSame with hSame
  have hMessage := List.append_cancel_left
    (congrArg DatabaseError.message hSame)
  apply hOther
  rw [hMessage, List.append_assoc, List.append_assoc]
  exact List.prefix_append _ _

/- Nor is one that comes with a code. -/
theorem not_longText :
    ¬ DemandsOne (.database Refusal.longText.error) := by
  rintro ⟨offset, text, hSame⟩
  injection hSame with hSame
  have hCode : ResultCode.tooBig = ResultCode.ok :=
    congrArg DatabaseError.code hSame
  exact absurd hCode (by decide)

/- The engine makes no such demand. -/
theorem not_ofHandle
    (describe : ResultCode → Bytes)
    (h : HandleError)
    (code : ResultCode)
    (phase : Phase)
    (sql : Bytes) :
    ¬ DemandsOne (.database
      (.ofHandle describe h code phase sql)) := by
  rintro ⟨offset, text, hSame⟩
  injection hSame with hSame
  have hKind := congrArg DatabaseError.kind hSame
  have hCode := congrArg DatabaseError.code hSame
  change DatabaseError.classify _ phase _ = .usage at hKind
  change (if _ then _ else _) = ResultCode.ok at hCode
  have hFixed : DatabaseError.fixedKind?
      (ResultCode.primary ResultCode.ok) = none := by decide
  -- without a code, no failure of the engine is misuse
  rw [hCode] at hKind
  unfold DatabaseError.classify at hKind
  rw [hFixed] at hKind
  simp only at hKind
  split at hKind
  · cases hKind
  · rw [if_neg (by decide)] at hKind
    cases hKind

end Failure.DemandsOne

section Demanding

open Failure (DemandsOne)
open Failure.DemandsOne

/- An error of the engine is no such demand. -/
theorem Attempt.handleError_avoids
    {db : DatabaseHandle}
    {code : ResultCode}
    {phase : Phase}
    {k : DatabaseError → Attempt E α}
    (hRest : ∀ h, Avoids DemandsOne
      (k (.ofHandle E.describe h code phase sql))) :
    Avoids DemandsOne
      (lift (handleError db code phase sql) >>= k) := by
  intro s e hFails
  rcases handleError_eq db code phase sql s with ⟨h, hError⟩
  rw [run_bind_of_ok (run_lift _ s), hError] at hFails
  exact hRest h _ e hFails

theorem Attempt.check_avoids
    (db : DatabaseHandle)
    (code : ResultCode)
    (phase : Phase)
    (sql : Bytes) :
    Avoids (E := E) DemandsOne (check db code phase sql) := by
  apply Avoids.ite
  · apply handleError_avoids
    exact fun h => .throw (not_ofHandle _ h code phase sql)
  · exact .pure ()

namespace Statement

theorem requireHandle_avoids
    {operation : String}
    (hOther : ∀ sql, ¬ DemandsOne (.database
      (Refusal.statementFinalized operation sql).error))
    (p : Place) :
    Avoids (E := E) DemandsOne
      (requireHandle p operation) := by
  apply Avoids.bind (.lift _)
  intro r
  cases r.handle with
  | some st => exact .pure st
  | none => exact .throw (hOther r.sql)

theorem rewind_avoids
    (p : Place)
    (st : StatementHandle) :
    Avoids (E := E) DemandsOne (rewind p st) := by
  apply Avoids.bind (.lift _)
  intro r
  apply Avoids.bind (.lift _)
  intro code
  apply Avoids.bind (.lift _)
  intro _
  exact .ite (check_avoids _ _ _ _) (.pure ())

theorem rewindIfDone_avoids
    (p : Place)
    (st : StatementHandle) :
    Avoids (E := E) DemandsOne (rewindIfDone p st) := by
  apply Avoids.bind (.lift _)
  intro r
  exact .ite (rewind_avoids p st) (.pure ())

theorem step_avoids (p : Place) :
    Avoids (E := E) DemandsOne (step p) := by
  apply Avoids.bind (requireHandle_avoids
    (not_of_usage (by decide +kernel)) p)
  intro st
  apply Avoids.bind (rewindIfDone_avoids p st)
  intro _
  apply Avoids.bind (.lift _)
  intro code
  apply Avoids.bind (.lift _)
  intro _
  apply Avoids.ite (.pure _)
  apply Avoids.ite (.pure _)
  apply Avoids.bind (.lift _)
  intro r
  apply handleError_avoids
  exact fun h =>
    .throw (not_ofHandle _ h code .stepping r.sql)

theorem drain_avoids
    (p : Place)
    (n : Nat) :
    Avoids (E := E) DemandsOne (drain p n) := by
  induction n with
  | zero =>
      apply Avoids.throw
      rintro ⟨offset, sql, hSame⟩
      cases hSame
  | succ n ih =>
      apply Avoids.bind (step_avoids p)
      exact fun _ => .ite ih (.pure ())

/- A statement that is run demands nothing of its text. -/
theorem execute_avoids (p : Place) :
    Avoids (E := E) DemandsOne (execute p) := by
  apply Avoids.bind (requireHandle_avoids
    (not_of_usage (by decide +kernel)) p)
  intro st
  apply Avoids.bind (.lift _)
  intro n
  apply Avoids.bind (drain_avoids p n)
  intro _
  apply Avoids.bind (.lift _)
  intro changed
  apply Avoids.bind (rewind_avoids p st)
  exact fun _ => .pure changed

/- A text that is compiled may hold many statements. -/
theorem prepare_avoids
    (c : ConnectionId)
    (p : Place)
    (sql : Bytes) :
    Avoids (E := E) DemandsOne (prepare c p sql) := by
  have hNone : ¬ DemandsOne
      (.database (Refusal.noStatement sql).error) :=
    not_of_usage (by decide +kernel) sql
  rw [prepare_eq]
  apply Avoids.bind
  · apply Avoids.bind (.lift _)
    intro conn
    cases conn.handle with
    | some db => exact .pure db
    | none =>
        exact .throw (not_of_usage (by decide +kernel) [])
  intro db
  apply Avoids.bind
  · apply Avoids.accept
    intro r hRefused
    rcases requireText_eq_error hRefused with rfl | rfl
    · exact hNone
    · exact not_longText
  intro _
  apply Avoids.bind (.lift _)
  rintro ⟨st, answer⟩ s e hFails
  by_cases hCode : answer.code = ResultCode.ok
  · cases hCreated : answer.created with
    | false =>
        rw [keep_of_empty hCode hCreated] at hFails
        cases hFails
        exact hNone
    | true =>
        rcases keep_of_created hCode hCreated p c db sql st s
          with ⟨t, hKept, _⟩
        rw [hKept] at hFails
        cases hFails
  · rcases keep_raised hCode p c db sql st s with
      ⟨h, hRaised⟩
    cases hRaised.symm.trans hFails
    exact not_ofHandle _ h answer.code .preparing sql

end Statement

end Demanding

------------------------------------------------------------
-- A Text That Was Compiled
------------------------------------------------------------

/- A statement that was compiled knows whether more follows. -/
theorem Statement.prepare_hasTail
    (hPrepared : (prepare c p sql).run s = (.ok (), t)) :
    (t.world.statement p).hasTail =
      ! Blank.isBlank (sql.drop
        (t.world.statement p).tailOffset) := by
  rw [prepare_eq] at hPrepared
  rcases run_bind_eq_ok.mp hPrepared with ⟨db, u, -, hRest⟩
  rcases run_bind_eq_ok.mp hRest with ⟨-, u, -, hRest⟩
  rw [run_bind_of_ok (run_lift _ u)] at hRest
  rcases hCompiled : compile db sql u with ⟨⟨st, answer⟩, v⟩
  rw [hCompiled] at hRest
  by_cases hCode : answer.code = ResultCode.ok
  · cases hCreated : answer.created with
    | false =>
        rw [keep_of_empty hCode hCreated] at hRest
        cases hRest
    | true =>
        unfold keep at hRest
        simp only [if_neg (not_not_intro hCode)] at hRest
        rw [run_bind_of_ok (run_require_of_true hCreated _ v),
          run_read, run_bind_of_ok (run_lift _ v)] at hRest
        cases hRest
        rw [World.statement_of_get? (by
          rw [register_eq]
          exact (Table.get?_put _ _ _ _).trans (if_pos rfl))]
        rfl
  · rcases keep_of_failed hCode p c db sql st v with
      ⟨e, w, hFailed, _⟩
    rw [hFailed] at hRest
    cases hRest

namespace Connection

section Prepared

variable (hPrepared :
  (Statement.prepare c .scratch sql).run s = (.ok (), t))

include hPrepared

/- If more follows, the statement is only destroyed. -/
theorem execute_of_more
    (hMore : (t.world.statement .scratch).hasTail = true) :
    (execute c sql).run s =
      (.error (.database (Refusal.moreSql
        (t.world.statement .scratch).tailOffset sql).error),
        (Statement.destroy .scratch t).2) := by
  unfold execute Statement.within Statement.lookup
  rw [run_bind_of_ok hPrepared, run_ensuring, run_read,
    run_bind_of_error
      (run_require_of_false (by simp [hMore]) _ t)]

/- If nothing follows, it is run and destroyed. -/
theorem execute_of_last
    (hLast : (t.world.statement .scratch).hasTail = false) :
    (execute c sql).run s =
      (((Statement.execute .scratch).run t).1,
        (Statement.destroy .scratch
          ((Statement.execute .scratch).run t).2).2) := by
  unfold execute Statement.within Statement.lookup
  rw [run_bind_of_ok hPrepared, run_ensuring, run_read,
    run_bind_of_ok
      (run_require_of_true (by simp [hLast]) _ t)]

/- As the first of many, it is run and destroyed anyway. -/
theorem executeFirst_of_prepared :
    (executeFirst c sql).run s =
      (((Statement.execute .scratch).run t).1.map fun _ =>
          (t.world.statement .scratch).tailOffset,
        (Statement.destroy .scratch
          ((Statement.execute .scratch).run t).2).2) := by
  unfold executeFirst Statement.within Statement.lookup
  rw [run_bind_of_ok hPrepared, run_ensuring, run_read]
  rcases hRun : (Statement.execute .scratch).run t with
    ⟨result, u⟩
  cases result with
  | error e => rw [run_bind_of_error hRun]; rfl
  | ok n =>
      rw [run_bind_of_ok hRun, run_bind_of_ok (run_lift _ u)]
      show (_, (Statement.destroy _
        (Statement.finalize _ u).2).2) = _
      rw [Statement.destroy_finalize]
      rfl

end Prepared

/-
  A text is refused because more SQL follows exactly when it
  was compiled and more follows its first statement.
-/
theorem execute_demandsOne_iff :
    (∃ e, ((execute c sql).run s).1 = .error e ∧
        e.DemandsOne) ↔
      ∃ t, (Statement.prepare c .scratch sql).run s =
          (.ok (), t) ∧
        (t.world.statement .scratch).hasTail = true := by
  rcases hPrepared : (Statement.prepare c .scratch sql).run s
    with ⟨result, t⟩
  cases result with
  | error e =>
      have hWhole : (execute c sql).run s = _ :=
        run_bind_of_error hPrepared
      have hOther : ¬ e.DemandsOne :=
        Statement.prepare_avoids c .scratch sql s e
          (congrArg Prod.fst hPrepared)
      constructor
      · rintro ⟨e', hFails, hDemand⟩
        rw [hWhole] at hFails
        cases hFails
        exact absurd hDemand hOther
      · rintro ⟨t', hCompiled, _⟩
        cases hCompiled
  | ok _ =>
      cases hMore : (t.world.statement .scratch).hasTail with
      | true =>
          rw [execute_of_more hPrepared hMore]
          exact iff_of_true ⟨_, rfl, _, _, rfl⟩ ⟨t, rfl, hMore⟩
      | false =>
          rw [execute_of_last hPrepared hMore]
          constructor
          · rintro ⟨e, hFails, hDemand⟩
            exact absurd hDemand
              (Statement.execute_avoids .scratch t e hFails)
          · rintro ⟨t', hCompiled, hTail⟩
            cases hCompiled
            cases hMore.symm.trans hTail

/- What was run first was compiled. -/
theorem prepared_of_executeFirst
    {consumed : Nat}
    (hRun : (executeFirst c sql).run s = (.ok consumed, t)) :
    ∃ u, (Statement.prepare c .scratch sql).run s =
        (.ok (), u) ∧
      consumed = (u.world.statement .scratch).tailOffset := by
  rcases hPrepared : (Statement.prepare c .scratch sql).run s
    with ⟨result, u⟩
  cases result with
  | error e =>
      have hFails : (executeFirst c sql).run s = _ :=
        run_bind_of_error hPrepared
      rw [hFails] at hRun
      cases hRun
  | ok _ =>
      rw [executeFirst_of_prepared hPrepared] at hRun
      refine ⟨u, rfl, ?_⟩
      have hResult := (Prod.ext_iff.mp hRun).1
      rcases hWork : ((Statement.execute .scratch).run u).1 with
        e | changed
      · rw [hWork] at hResult
        cases hResult
      · rw [hWork] at hResult
        cases hResult
        rfl

/-
  What was run first could be sent, and its connection stays
  open.
-/
theorem executeFirst_open
    {consumed : Nat}
    (hText : Blank.isBlank sql = false)
    (hRun : (executeFirst c sql).run s = (.ok consumed, t)) :
    Statement.Sendable sql ∧
      ∃ db, (t.world.connection c).handle = some db := by
  rcases prepared_of_executeFirst hRun with
    ⟨u, hPrepared, _⟩
  rw [executeFirst_of_prepared hPrepared] at hRun
  rcases Statement.sendable_of_prepare hText hPrepared with
    ⟨db, hOpen, hSendable⟩
  refine ⟨hSendable, db, ?_⟩
  rcases Statement.prepare_did hOpen hSendable .scratch with
    ⟨e, l, u', hFails, _⟩ |
      ⟨st, answer, u', hRun', hPrepares⟩
  · cases hPrepared.symm.trans hFails
  · cases hPrepared.symm.trans hRun'
    rcases hPrepares.enters.stands with
      ⟨r, hStands, hReady, hFresh⟩
    rcases Statement.execute_did hStands (by simp [hReady])
      hFresh with ⟨l, r', hDid, hStands', _⟩
    rcases Statement.destroy_did hStands' with
      ⟨code, _, hLeaves⟩
    rw [(Prod.ext_iff.mp hRun).2] at hLeaves
    rcases World.get?_of_connection_handle hOpen with
      ⟨conn, hFound, hHandle⟩
    have hListed : t.world.connections.get? c =
        some ((conn.addStatement .scratch).removeStatement
          .scratch) := by
      rw [hLeaves.connections, if_pos rfl, hDid.connections,
        hPrepares.enters.connections, if_pos rfl, hFound]
      rfl
    rw [World.connection_of_get? hListed]
    exact hHandle

/-
  What is run first is sent once, on an open connection, if
  it is not too long.
-/
theorem executeFirst_sent
    (hText : Blank.isBlank sql = false)
    (c : ConnectionId)
    (s : Session E) :
    ((executeFirst c sql).run s).2.sent =
      if (s.world.connection c).isOpen = true ∧
          sql.length ≤ Statement.longestText
        then sql :: s.sent else s.sent := by
  apply Statement.within_sent_once _ hText
  intro p
  apply Affects.bind (.read _)
  intro s
  apply Affects.bind (Statement.execute_affects p)
  intro _
  exact (Affects.lift (Statement.finalize_affects p)).map

------------------------------------------------------------
-- Texts That Start With a Statement
------------------------------------------------------------

/-
  Whether a text is run alike as one statement and as a
  batch:

    * `second`: if its first statement is run, the batch
      compiles another text if and only if the text is refused
      because more follows that statement
    * `first`: no second text is compiled unless the first
      statement is run
    * `same`: unless the text is refused for that, both end
      alike, in the same session, which holds the calls that
      were made and the log
-/
structure RunsAlike
    (c : ConnectionId)
    (sql : Bytes)
    (s : Session E) : Prop where
  second : ∀ {consumed t},
    (executeFirst c sql).run s = (.ok consumed, t) →
      ((∃ l, l ≠ [] ∧
          ((executeBatch c sql).run s).2.sent = l ++ t.sent) ↔
        ((execute c sql).run s).1 = .error (.database
          (Refusal.moreSql consumed sql).error))
  first : ∀ {l},
    ((executeBatch c sql).run s).2.sent = l ++ s.sent →
      2 ≤ l.length →
        ∃ consumed t,
          (executeFirst c sql).run s = (.ok consumed, t)
  same :
    (∀ e, ((execute c sql).run s).1 = .error e →
      ¬ e.DemandsOne) →
        (executeBatch c sql).run s =
          (((execute c sql).run s).1.map fun _ => (),
            ((execute c sql).run s).2)

/- A batch runs what a text starts with, and then the rest. -/
theorem executeBatch_run
    {n : Nat}
    (hAny : sql ≠ [])
    (hStart : Blank.length sql = 0)
    (hPatience : s.world.patience = n + 1) :
    (executeBatch c sql).run s =
      (executeFirst c sql >>= fun consumed =>
        executeUpTo c n (sql.drop consumed)).run s := by
  unfold executeBatch
  rw [run_read, hPatience, executeUpTo_of_text
    (Blank.isBlank_eq_false hAny hStart),
    Blank.rest_eq_self hStart]

/- What follows on an open connection is sent. -/
theorem executeUpTo_sent
    {db : DatabaseHandle}
    (hOpen : (s.world.connection c).handle = some db)
    (hText : Statement.Sendable sql)
    (n : Nat) :
    Blank.rest sql :: s.sent <:+
      ((executeUpTo c (n + 1) sql).run s).2.sent := by
  have hRest := Blank.isBlank_rest hText.text
  have hSendable : Statement.Sendable (Blank.rest sql) :=
    .drop hText.fits hRest
  have hSent := executeFirst_sent hRest c s
  rw [if_pos ⟨by simp [isOpen, hOpen], hSendable.fits⟩]
    at hSent
  rw [executeUpTo_of_text hText.text, ← hSent, run_bind]
  rcases (executeFirst c (Blank.rest sql)).run s with
    ⟨result, t⟩
  cases result with
  | error e => exact List.suffix_refl _
  | ok consumed =>
      exact (executeUpTo_affects c (A := (· = .compile)) rfl n _
        t).sent_suffix

/- What was run first is refused by itself if more follows. -/
theorem execute_refused_iff
    {consumed : Nat}
    (hRun : (executeFirst c sql).run s = (.ok consumed, t)) :
    ((execute c sql).run s).1 = .error (.database
        (Refusal.moreSql consumed sql).error) ↔
      Blank.isBlank (sql.drop consumed) = false := by
  rcases prepared_of_executeFirst hRun with
    ⟨u, hPrepared, rfl⟩
  have hTail := Statement.prepare_hasTail hPrepared
  cases hMore : (u.world.statement .scratch).hasTail with
  | true =>
      rw [execute_of_more hPrepared hMore]
      exact iff_of_true rfl (by simpa [hMore] using hTail)
  | false =>
      constructor
      · intro hRefused
        rcases execute_demandsOne_iff.mp
          ⟨_, hRefused, _, _, rfl⟩ with ⟨u', hPrepared', hMore'⟩
        cases hPrepared.symm.trans hPrepared'
        cases hMore.symm.trans hMore'
      · intro hText
        rw [hMore, hText] at hTail
        cases hTail

section Starting

variable {n : Nat}
variable (hAny : sql ≠ []) (hStart : Blank.length sql = 0)

include hAny hStart

/- After what was run first, more is sent if more follows. -/
theorem executeBatch_sent_iff
    {consumed : Nat}
    (hPatience : s.world.patience = n + 2)
    (hRun : (executeFirst c sql).run s = (.ok consumed, t)) :
    (∃ l, l ≠ [] ∧
        ((executeBatch c sql).run s).2.sent = l ++ t.sent) ↔
      Blank.isBlank (sql.drop consumed) = false := by
  rw [executeBatch_run hAny hStart hPatience,
    run_bind_of_ok hRun]
  cases hBlank : Blank.isBlank (sql.drop consumed) with
  | true =>
      rw [executeUpTo_of_blank hBlank]
      refine iff_of_false ?_ (by simp)
      rintro ⟨l, hMore, hSent⟩
      exact hMore (List.self_eq_append_left.mp hSent)
  | false =>
      rcases executeFirst_open
        (Blank.isBlank_eq_false hAny hStart) hRun with
        ⟨hSendable, db, hOpen⟩
      rcases executeUpTo_sent hOpen
        (.drop hSendable.fits hBlank) n with ⟨l, hSent⟩
      refine iff_of_true
        ⟨l ++ [Blank.rest (sql.drop consumed)], ?_, ?_⟩ rfl
      · simp
      · rw [← hSent, List.append_assoc]
        rfl

/- More than one text is sent only if the first was run. -/
theorem executeFirst_of_sent
    {l : List Bytes}
    (hPatience : s.world.patience = n + 1)
    (hSent :
      ((executeBatch c sql).run s).2.sent = l ++ s.sent)
    (hTwo : 2 ≤ l.length) :
    ∃ consumed t,
      (executeFirst c sql).run s = (.ok consumed, t) := by
  rcases hRun : (executeFirst c sql).run s with ⟨result, t⟩
  cases result with
  | ok consumed => exact ⟨consumed, t, rfl⟩
  | error e =>
      have hOnce := executeFirst_sent
        (Blank.isBlank_eq_false hAny hStart) c s
      rw [hRun] at hOnce
      rw [executeBatch_run hAny hStart hPatience,
        run_bind_of_error hRun, hOnce] at hSent
      have hLength := congrArg List.length hSent
      split at hLength <;>
        simp only [List.length_append, List.length_cons]
          at hLength <;> omega

/- Unless it is refused for what follows, a batch is alike. -/
theorem executeBatch_of_not_demandsOne
    (hPatience : s.world.patience = n + 2)
    (hNever : ∀ e, ((execute c sql).run s).1 = .error e →
      ¬ e.DemandsOne) :
    (executeBatch c sql).run s =
      (((execute c sql).run s).1.map fun _ => (),
        ((execute c sql).run s).2) := by
  rw [executeBatch_run hAny hStart hPatience]
  rcases hPrepared : (Statement.prepare c .scratch sql).run s
    with ⟨result, t⟩
  cases result with
  | error e =>
      have hFirst : (executeFirst c sql).run s = _ :=
        run_bind_of_error hPrepared
      have hWhole : (execute c sql).run s = _ :=
        run_bind_of_error hPrepared
      rw [run_bind_of_error hFirst, hWhole]
      rfl
  | ok _ =>
      have hTail := Statement.prepare_hasTail hPrepared
      have hFirst := executeFirst_of_prepared hPrepared
      cases hMore : (t.world.statement .scratch).hasTail with
      | true =>
          rcases execute_demandsOne_iff.mpr
            ⟨t, hPrepared, hMore⟩ with ⟨e, hFails, hDemand⟩
          exact absurd hDemand (hNever e hFails)
      | false =>
          rw [hMore] at hTail
          rw [execute_of_last hPrepared hMore]
          rcases hWork : (Statement.execute .scratch).run t
            with ⟨result, u⟩
          rw [hWork] at hFirst
          cases result with
          | error e =>
              rw [run_bind_of_error hFirst]
              rfl
          | ok changed =>
              rw [run_bind_of_ok hFirst, executeUpTo_of_blank]
              · rfl
              · simpa using hTail.symm

end Starting

/-
  A text that is not empty and does not start with blank is
  run alike as one statement and as a batch, if the batch is
  not given up before its second statement.
-/
theorem runs_alike
    (hAny : sql ≠ [])
    (hStart : Blank.length sql = 0)
    (hPatience : 2 ≤ s.world.patience) :
    RunsAlike c sql s := by
  obtain ⟨n, hEnough⟩ : ∃ n, s.world.patience = n + 2 :=
    ⟨s.world.patience - 2, by omega⟩
  constructor
  case second =>
    intro consumed t hRun
    exact (executeBatch_sent_iff hAny hStart hEnough hRun).trans
      (execute_refused_iff hRun).symm
  case first => exact executeFirst_of_sent hAny hStart hEnough
  case same =>
    exact executeBatch_of_not_demandsOne hAny hStart hEnough

/- So is a text with two statements. -/
theorem runs_alike_twoStatements :
    twoStatements ≠ [] ∧
      Blank.length twoStatements = 0 ∧
      2 ≤ twoRowSession.world.patience ∧
      RunsAlike { number := 1 } twoStatements
        twoRowSession := by
  have hAny : twoStatements ≠ [] := by decide +kernel
  have hStart : Blank.length twoStatements = 0 := by
    decide +kernel
  have hPatience : 2 ≤ twoRowSession.world.patience := by
    decide +kernel
  exact ⟨hAny, hStart, hPatience,
    runs_alike hAny hStart hPatience⟩

end Connection

end SqliteAccess
