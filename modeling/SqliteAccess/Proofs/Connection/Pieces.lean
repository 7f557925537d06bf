import SqliteAccess.Proofs.Connection.Sending
import SqliteAccess.Proofs.Statement.Exhausting
import SqliteAccess.Proofs.Text.Blank

/-
  How the first statement of a text is run.

  The engine makes a statement of a piece at the start of the
  text.  It is stepped over its rows, reset and finalized, and
  the session goes on behind the piece.

  Key definitions include:
    * `Piece`
    * `Piece.calls`
    * `Piece.Completes`
    * `Engine.Advances`
    * `Connection.executeFirstIn`
    * `Connection.Raises`

  The pieces are characterized by:
    * `Piece.Completes.bounds`
    * `Connection.executeFirstIn_cases`
    * `Connection.executeFirstIn_settles`
    * `Piece.sent_calls`
-/

namespace SqliteAccess

variable {E : Engine} {s t : Session E} {c : ConnectionId}
variable {db : DatabaseHandle} {sql : Bytes}

open Attempt

------------------------------------------------------------
-- Pieces of a Text
------------------------------------------------------------

/-
  A piece of a text: the offset from which on the text was
  compiled, what the engine answered to that, how many rows
  the statement yielded, and the result of finalizing it.
-/
structure Piece where
  start : Nat
  handle : StatementHandle
  answer : PrepareAnswer
  rows : Nat
  finalized : ResultCode

namespace Piece

variable (q : Piece) (sql : Bytes)

/- What was compiled. -/
def text : Bytes :=
  sql.drop q.start

/- How many bytes the engine took of it, if it took not all. -/
def length : Nat :=
  q.answer.tail.getD (q.text sql).length

/- The offset at which a piece stops. -/
def stop : Nat :=
  q.start + q.length sql

/-
  The calls by which a piece is run, the latest first: it is
  compiled, stepped over its rows until it is done, reset, and
  finalized.
-/
def calls : Trace :=
  ⟨.finalize q.handle, q.finalized⟩ ::
    ⟨.reset q.handle, ResultCode.ok⟩ ::
      ⟨.step q.handle, ResultCode.done⟩ ::
        List.replicate q.rows
            ⟨.step q.handle, ResultCode.row⟩ ++
          [⟨.prepare (q.text sql) q.handle, q.answer⟩]

end Piece

/- Whether a session runs a piece on a connection. -/
structure Piece.Completes
    (c : ConnectionId)
    (sql : Bytes)
    (s : Session E)
    (q : Piece)
    (t : Session E) : Prop where
  database :
    (s.world.connection c).handle = some q.handle.database
  answered : q.answer =
    (E.answer (.prepare (q.text sql) q.handle)
      s.world.engine).1
  code : q.answer.code = ResultCode.ok
  created : q.answer.created = true
  did : s.Did (q.calls sql) t

/-
  Whether an engine that makes a statement from a text takes
  at least one byte of it, and at most all.
-/
def Engine.Advances (E : Engine) : Prop :=
  ∀ sql st e,
    let answer : PrepareAnswer :=
      (E.answer (.prepare sql st) e).1
    answer.code = ResultCode.ok → answer.created = true →
      ∀ n, answer.tail = some n → 1 ≤ n ∧ n ≤ sql.length

/- A piece that was run lies inside its text. -/
theorem Piece.Completes.bounds
    {q : Piece}
    (hPiece : q.Completes c sql s t)
    (hAdvances : E.Advances)
    (hText : Blank.isBlank (sql.drop q.start) = false) :
    q.start < q.stop sql ∧ q.stop sql ≤ sql.length := by
  have hAny : 0 < (q.text sql).length := by
    apply List.length_pos_iff.mpr
    intro hNone
    unfold Piece.text at hNone
    rw [hNone] at hText
    cases hText
  have hLength : (q.text sql).length = sql.length - q.start :=
    List.length_drop
  have hAnswered := hPiece.answered
  have hTakes := hAdvances (q.text sql) q.handle s.world.engine
  simp only [← hAnswered] at hTakes
  have hBounds := hTakes hPiece.code hPiece.created
  unfold Piece.stop Piece.length
  cases hTail : q.answer.tail with
  | none =>
      simp only [Option.getD_none]
      omega
  | some n =>
      have hTaken := hBounds n hTail
      simp only [Option.getD_some]
      omega

namespace Connection

------------------------------------------------------------
-- One Piece
------------------------------------------------------------

/- Run the first statement of a text within some steps. -/
def executeFirstIn
    (c : ConnectionId)
    (n : Nat)
    (sql : Bytes) : Attempt E Nat :=
  Statement.within c sql fun p => do
    let consumed :=
      (← lift (Statement.lookup p)).tailOffset
    let _ ← Statement.executeIn p n
    lift (Statement.finalize p)
    return consumed

/- The first statement of a text is run within the patience. -/
theorem executeFirst_run
    (c : ConnectionId)
    (sql : Bytes)
    (s : Session E) :
    (executeFirst c sql).run s =
      (executeFirstIn c s.world.patience sql).run s := by
  have hPatience := Statement.prepare_patience c sql s
  unfold executeFirst executeFirstIn Statement.within
    Statement.lookup
  rcases hRun : (Statement.prepare c .scratch sql).run s with
    ⟨result, t⟩
  rw [hRun] at hPatience
  cases result with
  | error e =>
      rw [run_bind_of_error hRun, run_bind_of_error hRun]
  | ok _ =>
      have hWork := Statement.execute_run .scratch t
      rw [hPatience] at hWork
      rw [run_bind_of_ok hRun, run_bind_of_ok hRun,
        run_ensuring, run_ensuring, run_read, run_read,
        run_bind, run_bind, hWork]

/- What is done with a statement that has been compiled. -/
theorem executeFirstIn_of_prepared
    (hPrepared :
      (Statement.prepare c .scratch sql).run s = (.ok (), t))
    (n : Nat) :
    let r := (Statement.executeIn .scratch n >>= fun _ =>
      lift (Statement.finalize .scratch) >>= fun _ =>
        pure (t.world.statement .scratch).tailOffset).run t
    (executeFirstIn c n sql).run s =
      (r.1, (Statement.destroy .scratch r.2).2) := by
  unfold executeFirstIn Statement.within Statement.lookup
  rw [run_bind_of_ok hPrepared, run_ensuring, run_read]

/-
  A text that is sent and not given up has a first piece that
  is run, or it fails.
-/
theorem executeFirstIn_cases
    {o : Nat}
    (hOpen : (s.world.connection c).handle = some db)
    (hUnlisted : s.Unlisted .scratch c)
    (hText : Statement.Sendable (sql.drop o))
    (n : Nat)
    (hEnds : ((executeFirstIn c n (sql.drop o)).run s).1 ≠
      .error .endless) :
    (∃ e l t,
      (executeFirstIn c n (sql.drop o)).run s =
          (.error e, t) ∧
        s.Did l t ∧
        Statement.Ran db (sql.drop o) Statement.Exhausted
          false l) ∨
      ∃ (q : Piece) (t : Session E), q.start = o ∧
        (executeFirstIn c n (sql.drop o)).run s =
          (.ok (q.length sql), t) ∧
        q.Completes c sql s t := by
  rcases Statement.prepare_did hOpen hText .scratch with
    ⟨e, l, t, hFailed, hDid, hUncompiled⟩ |
      ⟨st, answer, t, hPrepared, hPrepares⟩
  · left
    exact ⟨e, l, t, run_bind_of_error hFailed, hDid,
      .uncompiled hUncompiled⟩
  · rcases hPrepares.enters.stands with
      ⟨r, hStands, hReady, hFresh⟩
    have hState : r.state ≠ .done := by simp [hReady]
    have hRun := executeFirstIn_of_prepared hPrepared n
    rw [hRun] at hEnds
    rcases Statement.executeIn_did hStands hState hFresh n
      (first_ends hEnds) with ⟨l, r', hDid, hStands', hWorks⟩
    rcases hWork : (Statement.executeIn .scratch n).run t with
      ⟨result, u⟩
    rw [hWork] at hDid hStands' hWorks
    cases result with
    | error e =>
        left
        rcases Statement.destroy_did hStands' with
          ⟨code, hLast, hLeaves⟩
        rw [run_bind_of_error hWork] at hRun
        exact ⟨e, _, _, hRun,
          Statement.worked_did hPrepares hUnlisted hDid hLast
            hLeaves,
          .worked hPrepares.database hPrepares.code
            hPrepares.created hWorks⟩
    | ok changed =>
        right
        rcases Statement.destroy_finalized_did hStands' with
          ⟨code, hLast, hLeaves⟩
        rw [run_bind_of_ok hWork, hPrepares.tail] at hRun
        cases hWorks with
        | @rewound rows reset _ hReset =>
            rw [hReset.mp rfl] at hDid
            let q : Piece :=
              { start := o
                handle := st
                answer
                rows
                finalized := code }
            have hAll := Statement.worked_did hPrepares
              hUnlisted hDid hLast hLeaves
            refine ⟨q, _, rfl, hRun, ?_⟩
            exact
              { database := by rw [hOpen, ← hPrepares.database]
                answered := hPrepares.answered
                code := hPrepares.code
                created := hPrepares.created
                did := hAll }

/- What was run is a piece. -/
theorem completes_of_executeFirstIn
    {n consumed : Nat}
    (hUnlisted : s.Unlisted .scratch c)
    (hText : Blank.isBlank sql = false)
    (hRun : (executeFirstIn c n sql).run s =
      (.ok consumed, t)) :
    ∃ q : Piece, q.start = 0 ∧ q.length sql = consumed ∧
      q.Completes c sql s t := by
  have hEnds : ((executeFirstIn c n sql).run s).1 ≠
      .error .endless := by
    rw [hRun]
    exact nofun
  rcases hPrepared :
      (Statement.prepare c .scratch sql).run s with
    ⟨result, u⟩
  cases result with
  | error e =>
      have hFails : (executeFirstIn c n sql).run s = _ :=
        run_bind_of_error hPrepared
      rw [hRun] at hFails
      cases hFails
  | ok _ =>
      rcases Statement.sendable_of_prepare hText hPrepared with
        ⟨db, hOpen, hSendable⟩
      rcases executeFirstIn_cases (o := 0) hOpen hUnlisted
        hSendable n hEnds with
        ⟨e, l, t', hFails, _⟩ | ⟨q, t', hStart, hDone, hPiece⟩
      · rw [List.drop_zero, hRun] at hFails
        cases hFails
      · rw [List.drop_zero, hRun] at hDone
        cases hDone
        exact ⟨q, hStart, rfl, hPiece⟩

------------------------------------------------------------
-- Failures
------------------------------------------------------------

/-
  The ways in which a text raises a failure: by being
  compiled, or by being executed.
-/
inductive Raises
    (c : ConnectionId)
    (sql : Bytes)
    (s : Session E)
    (e : Failure) : Prop where
  | compiling
      (hFails :
        ((Statement.prepare c .scratch sql).run s).1 =
          .error e) :
      Raises c sql s e
  | executing {t : Session E}
      (hPrepared :
        (Statement.prepare c .scratch sql).run s =
          (.ok (), t))
      (hFails :
        ((Statement.execute .scratch).run t).1 = .error e) :
      Raises c sql s e

/- A failure of the first statement is one of its text. -/
theorem raises_of_executeFirst
    {e : Failure}
    (hFails : ((executeFirst c sql).run s).1 = .error e) :
    Raises c sql s e := by
  rcases hRun : (Statement.prepare c .scratch sql).run s with
    ⟨result, t⟩
  cases result with
  | error e' =>
      have hSame : (executeFirst c sql).run s =
          (.error e', t) := run_bind_of_error hRun
      rw [hSame] at hFails
      cases hFails
      exact .compiling (by rw [hRun])
  | ok _ =>
      refine .executing hRun ?_
      have hPatience := Statement.prepare_patience c sql s
      rw [hRun] at hPatience
      rw [executeFirst_run,
        executeFirstIn_of_prepared hRun] at hFails
      rw [Statement.execute_run, hPatience]
      rcases hWork : (Statement.executeIn .scratch
        s.world.patience).run t with ⟨result, u⟩
      cases result with
      | error e' =>
          rw [run_bind_of_error hWork] at hFails
          cases hFails
          rfl
      | ok n =>
          rw [run_bind_of_ok hWork] at hFails
          cases hFails

/-
  Nothing is done with what a closed connection is to run
  first, and nothing with a text that is too long.
-/
theorem executeFirst_of_unsent
    (hText : Blank.isBlank sql = false)
    (hUnsent : (s.world.connection c).handle = none ∨
      Statement.longestText < sql.length) :
    ∃ e, (executeFirst c sql).run s = (.error e, s) := by
  cases hOpen : (s.world.connection c).handle with
  | none =>
      exact ⟨_, run_bind_of_error
        (Statement.prepare_of_closed hOpen .scratch sql)⟩
  | some db =>
      have hLong := hUnsent.resolve_left (by simp [hOpen])
      exact ⟨_, run_bind_of_error
        (Statement.prepare_of_long hOpen hText
          (Nat.not_le.mpr hLong) .scratch)⟩

------------------------------------------------------------
-- Patience
------------------------------------------------------------

/- A text that was compiled has a new statement. -/
theorem stands_of_prepare
    (hText : Blank.isBlank sql = false)
    (hPrepared :
      (Statement.prepare c .scratch sql).run s = (.ok (), t)) :
    ∃ st r, t.Stands .scratch c st r ∧ r.state ≠ .done := by
  rcases Statement.sendable_of_prepare hText hPrepared with
    ⟨db, hOpen, hSendable⟩
  rcases Statement.prepare_did hOpen hSendable .scratch with
    ⟨e, l, t', hFailed, _⟩ |
      ⟨st, answer, t', hSame, hPrepares⟩
  · rw [hPrepared] at hFailed
    cases hFailed
  · rw [hPrepared] at hSame
    cases hSame
    rcases hPrepares.enters.stands with
      ⟨r, hStands, hReady, _⟩
    exact ⟨st, r, hStands, by simp [hReady]⟩

/-
  Running the first statement comes to an end, and more steps
  change nothing.
-/
theorem executeFirstIn_settles
    (hRows : ∀ st e, E.Exhausts st e)
    (hText : Blank.isBlank sql = false)
    (c : ConnectionId)
    (s : Session E) :
    ∃ m, ((executeFirstIn c m sql).run s).1 ≠
        .error .endless ∧
      ∀ n, m ≤ n →
        (executeFirstIn c n sql).run s =
          (executeFirstIn c m sql).run s := by
  rcases hRun : (Statement.prepare c .scratch sql).run s with
    ⟨result, t⟩
  cases result with
  | error e =>
      have hFails : ∀ n,
          (executeFirstIn c n sql).run s = (.error e, t) :=
        fun n => run_bind_of_error hRun
      refine ⟨0, ?_, fun n _ => by rw [hFails, hFails]⟩
      have hEnds := Statement.prepare_finishes c .scratch sql s
      rw [hRun] at hEnds
      rw [hFails]
      intro hEndless
      cases hEndless
      exact hEnds rfl
  | ok _ =>
      rcases stands_of_prepare hText hRun with
        ⟨st, r, hStands, hState⟩
      rcases Statement.executeIn_settles hStands hState
        (hRows st t.world.engine) with ⟨m, hEnds, hSame⟩
      refine ⟨m, ?_, fun n hMore => ?_⟩
      · rw [executeFirstIn_of_prepared hRun]
        exact bind_ends hEnds fun _ =>
          .bind (.lift _) fun _ => .pure _
      · rw [executeFirstIn_of_prepared hRun,
          executeFirstIn_of_prepared hRun, run_bind, run_bind,
          hSame n hMore]

theorem executeFirstIn_mirrors
    {m : Mirror}
    (c : ConnectionId)
    (n : Nat)
    (sql : Bytes) :
    Attempt.Mirrors (E := E) m Eq (executeFirstIn c n sql)
      (executeFirstIn c n sql) := by
  apply Statement.within_mirrors
  apply Attempt.Mirrors.andThen
    (.lift (Statement.lookup_mirrors (p := .scratch) trivial))
  intro r
  apply Attempt.Mirrors.andThen
    (Statement.executeIn_mirrors (p := .scratch) trivial n)
  intro _
  apply Attempt.Mirrors.andThen
    (.lift (Statement.finalize_mirrors (p := .scratch)
      trivial))
  exact fun _ => .pure rfl

/- With any other patience, the first statement runs alike. -/
theorem executeFirst_of_lasting
    {n : Nat}
    {s' : Session E}
    {result : Except Failure Nat}
    (hMirrors : s.Mirrors (.lasting n) s')
    (hRun : (executeFirstIn c n sql).run s = (result, t)) :
    ∃ t', (executeFirst c sql).run s' = (result, t') ∧
      t.Mirrors (.lasting n) t' := by
  have hAgree :=
    (executeFirstIn_mirrors c n sql).sessions hMirrors
  rw [hRun] at hAgree
  rw [executeFirst_run, hMirrors.world.patience]
  exact ⟨((executeFirstIn c n sql).run s').2,
    Prod.ext hAgree.1.eq.symm rfl, hAgree.2⟩

end Connection

------------------------------------------------------------
-- What Is Sent
------------------------------------------------------------

/- Only calls that have an effect hand over a text. -/
theorem Trace.sent_effects (l : Trace) :
    l.effects.sent = l.sent := by
  unfold effects sent
  rw [List.filterMap_filter]
  congr 1
  funext e
  rcases e with ⟨call, answer⟩
  cases call <;> rfl

theorem Trace.sent_append (l l' : Trace) :
    sent (l ++ l') = l.sent ++ l'.sent :=
  List.filterMap_append

/- The calls that are heard tell which texts are sent. -/
theorem Session.Hears.sent
    {l : Trace}
    (hHears : s.Hears l t) :
    t.sent = l.sent ++ s.sent := by
  rcases hHears with ⟨events, hTrace, rfl⟩
  unfold Session.sent
  rw [hTrace, Trace.sent_append, Trace.sent_effects]

/- Steps send nothing. -/
theorem Trace.sent_steps
    (rows : Nat)
    (st : StatementHandle)
    (code : ResultCode) :
    sent (List.replicate rows ⟨.step st, code⟩) = [] := by
  induction rows with
  | zero => rfl
  | succ rows ih => exact ih

/- A piece sends one text. -/
theorem Piece.sent_calls
    (q : Piece)
    (sql : Bytes) :
    (q.calls sql).sent = [q.text sql] := by
  have hSteps := Trace.sent_steps q.rows q.handle ResultCode.row
  unfold calls
  rw [Trace.sent_append]
  show Trace.sent (List.replicate _ _) ++ [q.text sql] = _
  rw [hSteps]
  rfl

namespace Statement

/- What is run within some steps sends no other text. -/
theorem Exhausted.sent
    {st : StatementHandle}
    {ok : Bool}
    {l : Trace}
    (hWorks : Exhausted st ok l) :
    l.sent = [] := by
  cases hWorks with
  | stuck => exact Trace.sent_steps _ st ResultCode.row
  | rewound => exact Trace.sent_steps _ st ResultCode.row

/- So a text that is run sends itself alone. -/
theorem Ran.sent
    {ok : Bool}
    {l : Trace}
    (hRan : Ran db sql Exhausted ok l) :
    l.sent = [sql] := by
  cases hRan with
  | uncompiled hUncompiled => cases hUncompiled <;> rfl
  | @worked st answer code _ l _ _ _ hWorks =>
      show Trace.sent (l ++ [⟨.prepare sql st, answer⟩]) = _
      rw [Trace.sent_append, hWorks.sent]
      rfl

end Statement

end SqliteAccess
