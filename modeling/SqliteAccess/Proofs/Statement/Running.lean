import SqliteAccess.Proofs.Connection.Carrying
import SqliteAccess.Proofs.Session.Doing
import SqliteAccess.Proofs.Statement.Destroying

/-
  How a text is run by a temporary statement.

  The text is compiled, and if there is a statement then, it
  is worked with and finalized, however the work ends.  Each
  way in which that can go is a list of calls.

  Key definitions include:
    * `Statement.Drained`
    * `Statement.Executed`
    * `Statement.Uncompiled`
    * `Statement.Ran`
    * `Session.Stands`
    * `Session.Unlisted`
    * `Session.Prepares`

  The calls are characterized by:
    * `Statement.step_run`
    * `Statement.settle_decided`
    * `Statement.rewind_run`
    * `Statement.drain_did`
    * `Statement.execute_did`
    * `Statement.prepare_did`
    * `Statement.within_did`
    * `Connection.execute_did`
-/

namespace SqliteAccess

variable {E : Engine} {α : Type} {s t : Session E} {p : Place}
variable {c : ConnectionId} {st : StatementHandle}
variable {r : Statement}

open Attempt

------------------------------------------------------------
-- Ways to Run a Text
------------------------------------------------------------

namespace Statement

/-
  The ways in which a statement is stepped to its end, each
  with the calls that are made, the latest first.  Stepping
  fails if the engine does, and is given up if it takes too
  long.
-/
inductive Drained
    (st : StatementHandle) : Bool → Trace → Prop where
  | endless : Drained st false []
  | failed {code}
      (hRow : code ≠ ResultCode.row)
      (hDone : code ≠ ResultCode.done) :
      Drained st false [⟨.step st, code⟩]
  | done : Drained st true [⟨.step st, ResultCode.done⟩]
  | row {ok l}
      (hRest : Drained st ok l) :
      Drained st ok (l ++ [⟨.step st, ResultCode.row⟩])

/-
  The ways in which a statement is executed: it is refused
  because another one follows it, or it gets stuck, or it is
  reset once it is done.
-/
inductive Executed
    (st : StatementHandle) : Bool → Trace → Prop where
  | refused : Executed st false []
  | stuck {l}
      (hDrained : Drained st false l) :
      Executed st false l
  | rewound {ok code l}
      (hDrained : Drained st true l)
      (hCode : ok = true ↔ code = ResultCode.ok) :
      Executed st ok (⟨.reset st, code⟩ :: l)

/-
  The ways in which no statement is made from a text.  What a
  failure leaves is finalized.
-/
inductive Uncompiled
    (db : DatabaseHandle)
    (sql : Bytes) : Trace → Prop where
  | refused {st answer}
      (hDatabase : st.database = db)
      (hCode : answer.code ≠ ResultCode.ok)
      (hCreated : answer.created = false) :
      Uncompiled db sql [⟨.prepare sql st, answer⟩]
  | discarded {st answer code}
      (hDatabase : st.database = db)
      (hCode : answer.code ≠ ResultCode.ok)
      (hCreated : answer.created = true) :
      Uncompiled db sql
        [⟨.finalize st, code⟩, ⟨.prepare sql st, answer⟩]
  | empty {st answer}
      (hDatabase : st.database = db)
      (hCode : answer.code = ResultCode.ok)
      (hCreated : answer.created = false) :
      Uncompiled db sql [⟨.prepare sql st, answer⟩]

/-
  The ways in which a text is run by a temporary statement
  that is worked with.  If there is a statement, it is
  finalized last.
-/
inductive Ran
    (db : DatabaseHandle)
    (sql : Bytes)
    (Works : StatementHandle → Bool → Trace → Prop) :
    Bool → Trace → Prop where
  | uncompiled {l}
      (hUncompiled : Uncompiled db sql l) :
      Ran db sql Works false l
  | worked {st answer code ok l}
      (hDatabase : st.database = db)
      (hCode : answer.code = ResultCode.ok)
      (hCreated : answer.created = true)
      (hWorks : Works st ok l) :
      Ran db sql Works ok
        (⟨.finalize st, code⟩ :: l ++
          [⟨.prepare sql st, answer⟩])

section Tidying

variable {db : DatabaseHandle} {sql : Bytes} {ok : Bool}
variable {Works : StatementHandle → Bool → Trace → Prop}
variable {l : Trace}

/- Stepping makes no statement. -/
theorem Drained.tidy
    (hDrained : Drained st ok l) :
    l.Tidy := by
  induction hDrained with
  | endless | failed | done => exact fun _ => rfl
  | row _ ih => exact .append (fun _ => rfl) ih

/- Executing makes no statement. -/
theorem Executed.tidy
    (hExecuted : Executed st ok l) :
    l.Tidy := by
  cases hExecuted with
  | refused => exact .nil
  | stuck hDrained => exact hDrained.tidy
  | rewound hDrained hCode => exact hDrained.tidy

/- What a failed compilation has made is finalized. -/
theorem Uncompiled.tidy
    (hUncompiled : Uncompiled db sql l) :
    l.Tidy := by
  intro t
  cases hUncompiled with
  | refused _ _ hCreated | empty _ _ hCreated =>
      simp [Trace.unfinalized, hCreated]
  | discarded _ _ hCreated =>
      simp [Trace.unfinalized, hCreated]

/- A statement that was worked with is finalized. -/
theorem Ran.tidy
    (hWorks : ∀ {st ok l}, Works st ok l → l.Tidy)
    (hRan : Ran db sql Works ok l) :
    l.Tidy := by
  cases hRan with
  | uncompiled hUncompiled => exact hUncompiled.tidy
  | worked _ _ hCreated hDone =>
      intro t
      have hTidy := hWorks hDone
      simp [Trace.unfinalized, hCreated, hTidy _]

end Tidying

end Statement

------------------------------------------------------------
-- Working With a Statement
------------------------------------------------------------

/-
  Whether a statement at a place has a handle and refers to a
  connection.
-/
structure Session.Stands
    (s : Session E)
    (p : Place)
    (c : ConnectionId)
    (st : StatementHandle)
    (r : Statement) : Prop where
  found : s.world.statements.get? p = some r
  handle : r.handle = some st
  connection : r.connection = some c

namespace Session.Stands

theorem statement
    (hStands : s.Stands p c st r) :
    s.world.statement p = r :=
  World.statement_of_get? hStands.found

theorem requireHandle
    (hStands : s.Stands p c st r)
    (operation : String) :
    (Statement.requireHandle p operation).run s =
      (.ok st, s) := by
  apply Statement.requireHandle_of_some
  rw [hStands.statement]
  exact hStands.handle

/- Asking leaves a statement as it is. -/
theorem of_consulted
    (hStands : s.Stands p c st r)
    (hConsulted : s.Consulted t) :
    t.Stands p c st r := by
  rcases hConsulted with ⟨_, _, rfl, _⟩
  exact ⟨hStands.found, hStands.handle, hStands.connection⟩

/- So does a call. -/
theorem call
    (hStands : s.Stands p c st r)
    (c' : Call) :
    (Quiet.invoke c' s).2.Stands p c st r :=
  ⟨hStands.found, hStands.handle, hStands.connection⟩

/- A statement that is changed keeps what it refers to. -/
theorem modify
    {f : Statement → Statement}
    (hStands : s.Stands p c st r)
    (hHandle : (f r).handle = r.handle)
    (hConnection : (f r).connection = r.connection) :
    (Quiet.update (World.modifyStatement p f) s).2.Stands p c
      st (f r) where
  found := by
    unfold Quiet.update
    rw [World.modifyStatement_eq]
    show (s.world.statements.modify p f).get? p = _
    rw [Table.get?_modify, if_pos rfl, hStands.found]
    rfl
  handle := hHandle.trans hStands.handle
  connection := hConnection.trans hStands.connection

end Session.Stands

/- Whether a connection does not list a place. -/
def Session.Unlisted
    (s : Session E)
    (p : Place)
    (c : ConnectionId) : Prop :=
  ∀ conn, s.world.connections.get? c = some conn →
    p ∉ conn.statements

/- What leaves the connections as they are lists no more. -/
theorem Session.Unlisted.of_did
    {l : Trace}
    (hUnlisted : s.Unlisted p c)
    (hDid : s.Did l t) :
    t.Unlisted p c := by
  intro conn hFound
  rw [hDid.connections] at hFound
  exact hUnlisted conn hFound

/-
  Whether a session has a new statement at a place, which is
  entered at its connection, and is otherwise as it was.
-/
structure Session.Enters
    (s : Session E)
    (p : Place)
    (c : ConnectionId)
    (st : StatementHandle)
    (t : Session E) : Prop where
  stands : ∃ r, t.Stands p c st r ∧ r.state = .ready ∧
    r.stepFailed = false
  connections : ∀ c',
    t.world.connections.get? c' =
      if c' = c then
        (s.world.connections.get? c).map (·.addStatement p)
      else s.world.connections.get? c'
  library : t.world.library = s.world.library

/-
  Whether a session comes after another one by compiling a
  text on a database:

    * `answered`: the engine has answered one call
    * `code`, `created`: it has made a statement
    * `tail`: that one knows where the text goes on
    * `enters`: it is entered at a place
-/
structure Session.Prepares
    (s : Session E)
    (p : Place)
    (c : ConnectionId)
    (db : DatabaseHandle)
    (sql : Bytes)
    (st : StatementHandle)
    (answer : PrepareAnswer)
    (t : Session E) : Prop where
  database : st.database = db
  answered :
    answer = (E.answer (.prepare sql st) s.world.engine).1
  code : answer.code = ResultCode.ok
  created : answer.created = true
  tail : (t.world.statement p).tailOffset =
    answer.tail.getD sql.length
  heard : s.Hears [⟨.prepare sql st, answer⟩] t
  enters : s.Enters p c st t

namespace Statement

/- A statement that is stepped keeps what it refers to. -/
theorem stepped_refers
    (r : Statement)
    (code : ResultCode) :
    (r.stepped code).handle = r.handle ∧
      (r.stepped code).connection = r.connection := by
  unfold stepped
  split
  case isTrue => exact ⟨rfl, rfl⟩
  case isFalse =>
    split
    case isTrue => exact ⟨rfl, rfl⟩
    case isFalse => exact ⟨rfl, rfl⟩

/- A statement that is not done is stepped by one call. -/
theorem step_run
    (hStands : s.Stands p c st r)
    (hState : r.state ≠ .done) :
    (step p).run s =
      (settle p st (Quiet.invoke (.step st) s).1).run
        (Quiet.invoke (.step st) s).2 := by
  have hRewound : (rewindIfDone p st).run s = (.ok (), s) := by
    unfold rewindIfDone lookup
    rw [run_read, hStands.statement, if_neg hState]
    rfl
  rw [step_eq, run_bind_of_ok (hStands.requireHandle _),
    run_bind_of_ok hRewound, run_bind_of_ok (run_lift _ s)]

/-
  What is done once the engine has answered a step: the
  statement moves on, and an error is raised.
-/
theorem settle_decided
    (hStands : s.Stands p c st r)
    (code : ResultCode) :
    (code = ResultCode.row →
        ((settle p st code).run s).1 = .ok .row) ∧
      (code = ResultCode.done →
        ((settle p st code).run s).1 =
          .ok .completed) ∧
      (code ≠ ResultCode.row → code ≠ ResultCode.done →
        Raised E ((settle p st code).run s).1 code
          .stepping r.sql) ∧
      (Quiet.update (World.modifyStatement p
        (·.stepped code)) s).2.Consulted
          ((settle p st code).run s).2 := by
  let t := (Quiet.update
    (World.modifyStatement p (·.stepped code)) s).2
  have hStands' : t.Stands p c st (r.stepped code) :=
    hStands.modify (r.stepped_refers code).1
      (r.stepped_refers code).2
  unfold settle
  rw [run_bind_of_ok (run_lift _ _)]
  by_cases hRow : code = ResultCode.row
  · rw [if_pos hRow]
    exact ⟨fun _ => rfl,
      fun hDone => absurd (hRow.symm.trans hDone) (by decide),
      fun hNot => absurd hRow hNot, .refl t⟩
  · rw [if_neg hRow]
    by_cases hDone : code = ResultCode.done
    · rw [if_pos hDone]
      exact ⟨fun hIs => absurd hIs hRow, fun _ => rfl,
        fun _ hNot => absurd hDone hNot, .refl t⟩
    · rw [if_neg hDone]
      have hText : (t.world.statement p).sql = r.sql := by
        rw [hStands'.statement, stepped_eq]
      rcases handleError_eq st.database code .stepping
          (t.world.statement p).sql t with ⟨h, hError⟩
      refine ⟨fun hIs => absurd hIs hRow,
        fun hIs => absurd hIs hDone, fun _ _ => ⟨h, ?_⟩,
        handleError_consults st.database code .stepping
          (t.world.statement p).sql t⟩
      rw [← hText]
      exact congrArg (fun e =>
        Except.error (Failure.database e)) hError

/-
  A step of a statement that is not done is one call, whose
  answer tells how it ends.
-/
theorem step_did
    (hStands : s.Stands p c st r)
    (hState : r.state ≠ .done) :
    ∃ code : ResultCode,
      s.Did [⟨.step st, code⟩] ((step p).run s).2 ∧
      ((step p).run s).2.Stands p c st (r.stepped code) ∧
      ((code = ResultCode.row ∧
          ((step p).run s).1 = .ok .row) ∨
        (code = ResultCode.done ∧
          ((step p).run s).1 = .ok .completed) ∨
        (code ≠ ResultCode.row ∧ code ≠ ResultCode.done ∧
          ∃ e, ((step p).run s).1 = .error e)) := by
  let code : ResultCode := (Quiet.invoke (.step st) s).1
  let heard := (Quiet.invoke (.step st) s).2
  let t := (Quiet.update
    (World.modifyStatement p (·.stepped code)) heard).2
  have hHeard := hStands.call (.step st)
  have hDid : s.Did [⟨.step st, code⟩] t :=
    (Session.Did.call rfl s).trans (.statement p _ heard)
  have hStands' : t.Stands p c st (r.stepped code) :=
    hHeard.modify (r.stepped_refers code).1
      (r.stepped_refers code).2
  rcases settle_decided hHeard code with
    ⟨hRow, hDone, hRaised, hConsulted⟩
  rw [step_run hStands hState]
  refine ⟨code, hDid.trans (.of_consulted hConsulted),
    hStands'.of_consulted hConsulted, ?_⟩
  by_cases hIsRow : code = ResultCode.row
  · exact .inl ⟨hIsRow, hRow hIsRow⟩
  · by_cases hIsDone : code = ResultCode.done
    · exact .inr (.inl ⟨hIsDone, hDone hIsDone⟩)
    · rcases hRaised hIsRow hIsDone with ⟨_, hError⟩
      exact .inr (.inr ⟨hIsRow, hIsDone, _, hError⟩)

/- Stepping a statement to its end is one of its ways. -/
theorem drain_did
    (hStands : s.Stands p c st r)
    (hState : r.state ≠ .done)
    (hFailed : r.stepFailed = false)
    (n : Nat) :
    ∃ l r', s.Did l ((drain p n).run s).2 ∧
      ((drain p n).run s).2.Stands p c st r' ∧
      Drained st ((drain p n).run s).1.isOk l ∧
      (((drain p n).run s).1.isOk → r'.stepFailed = false) := by
  induction n generalizing s r with
  | zero =>
      exact ⟨[], r, .refl s, hStands, .endless,
        Bool.noConfusion⟩
  | succ n ih =>
      rcases step_did hStands hState with
        ⟨code, hDid, hStands', hEnds⟩
      unfold drain
      rcases hRun : (step p).run s with ⟨result, t⟩
      rw [hRun] at hDid hStands' hEnds
      rcases hEnds with ⟨rfl, rfl⟩ | ⟨rfl, rfl⟩ |
        ⟨hRow, hDone, e, rfl⟩
      · have hOnRow :
            (r.stepped ResultCode.row).state ≠ .done := by
          intro hDone
          cases hDone
        rcases ih hStands' hOnRow hFailed with
          ⟨l, r', hLater, hLast, hDrained, hEnd⟩
        rw [run_bind_of_ok hRun, if_pos rfl]
        exact ⟨_, r', hDid.trans hLater, hLast, .row hDrained,
          hEnd⟩
      · rw [run_bind_of_ok hRun]
        exact ⟨_, _, hDid, hStands', .done, fun _ => hFailed⟩
      · rw [run_bind_of_error hRun]
        exact ⟨_, _, hDid, hStands', .failed hRow hDone,
          Bool.noConfusion⟩

/- A reset is one call, followed by a check if that is due. -/
theorem rewind_run
    (hStands : s.Stands p c st r) :
    (rewind p st).run s =
      (if r.stepFailed then (pure () : Attempt E Unit) else
        check st.database (Quiet.invoke (.reset st) s).1
          .stepping r.sql).run
        (Quiet.update (World.modifyStatement p rewound)
          (Quiet.invoke (.reset st) s).2).2 := by
  unfold rewind lookup
  rw [run_read, run_bind_of_ok (run_lift _ s),
    run_bind_of_ok (run_lift _ _), hStands.statement]
  cases r.stepFailed <;> rfl

/- A reset is one call, whose answer tells how it ends. -/
theorem rewind_did
    (hStands : s.Stands p c st r)
    (hFailed : r.stepFailed = false) :
    ∃ code : ResultCode,
      s.Did [⟨.reset st, code⟩] ((rewind p st).run s).2 ∧
      ((rewind p st).run s).2.Stands p c st r.rewound ∧
      (((rewind p st).run s).1.isOk = true ↔
        code = ResultCode.ok) := by
  let code : ResultCode := (Quiet.invoke (.reset st) s).1
  let heard := (Quiet.invoke (.reset st) s).2
  let t := (Quiet.update
    (World.modifyStatement p rewound) heard).2
  have hConsulted :=
    check_consulted st.database code .stepping r.sql t
  have hDid : s.Did [⟨.reset st, code⟩] t :=
    (Session.Did.call rfl s).trans (.statement p _ heard)
  have hStands' : t.Stands p c st r.rewound :=
    (hStands.call (.reset st)).modify rfl rfl
  rw [rewind_run hStands, hFailed]
  exact ⟨code, hDid.trans (.of_consulted hConsulted),
    hStands'.of_consulted hConsulted, check_isOk _ _ _ _ t⟩

/- Executing a statement is one of its ways. -/
theorem execute_did
    (hStands : s.Stands p c st r)
    (hState : r.state ≠ .done)
    (hFailed : r.stepFailed = false) :
    ∃ l r', s.Did l ((execute p).run s).2 ∧
      ((execute p).run s).2.Stands p c st r' ∧
      Executed st ((execute p).run s).1.isOk l := by
  rcases drain_did hStands hState hFailed s.world.patience with
    ⟨l, r', hDid, hStands', hDrained, hEnd⟩
  unfold execute
  rw [run_bind_of_ok (hStands.requireHandle _), run_read]
  rcases hRun : (drain p s.world.patience).run s with
    ⟨result, t⟩
  rw [hRun] at hDid hStands' hDrained hEnd
  cases result with
  | error e =>
      rw [run_bind_of_error hRun]
      exact ⟨l, r', hDid, hStands', .stuck hDrained⟩
  | ok _ =>
      let asked := (Quiet.invoke (.changes st.database) t).2
      have hAsked : t.Consulted asked := .asked rfl t
      rcases rewind_did (hStands'.of_consulted hAsked) (hEnd rfl)
        with ⟨code, hReset, hLast, hCode⟩
      rw [run_bind_of_ok hRun, run_bind_of_ok (run_lift _ t)]
      have hAll := hDid.trans
        ((Session.Did.of_consulted hAsked).trans hReset)
      rcases hRewound : (rewind p st).run asked with
        ⟨result, u⟩
      rw [hRewound] at hReset hLast hCode hAll
      cases result with
      | error e =>
          rw [run_bind_of_error hRewound]
          exact ⟨_, _, hAll, hLast, .rewound hDrained hCode⟩
      | ok _ =>
          rw [run_bind_of_ok hRewound]
          exact ⟨_, _, hAll, hLast, .rewound hDrained hCode⟩

------------------------------------------------------------
-- Compiling
------------------------------------------------------------

/- Compiling is one call. -/
theorem compile_did
    (db : DatabaseHandle)
    (sql : Bytes)
    (s : Session E) :
    ∃ st answer t, compile db sql s = ((st, answer), t) ∧
      st.database = db ∧
      answer = (E.answer (.prepare sql st) s.world.engine).1 ∧
      s.Did [⟨.prepare sql st, answer⟩] t := by
  unfold compile
  simp only [Quiet.run_bind]
  split
  case isTrue =>
    exact ⟨_, _, _, rfl, rfl, rfl, ⟨[_], rfl, rfl⟩,
      fun _ => rfl, rfl⟩
  case isFalse =>
    exact ⟨_, _, _, rfl, rfl, rfl, ⟨[_], rfl, rfl⟩,
      fun _ => rfl, rfl⟩

/- The columns of a statement are only asked for. -/
theorem describeColumns_consults
    (st : StatementHandle)
    (first count : Nat) :
    Quiet.Consults (E := E)
      (describeColumns st first count) := by
  induction count generalizing first with
  | zero => exact .pure _
  | succ count ih =>
      apply Quiet.Consults.bind (.ask rfl)
      intro name
      apply Quiet.Consults.bind (.ask rfl)
      intro type
      apply Quiet.Consults.bind (ih (first + 1))
      exact fun _ => .pure _

/- A new statement is only asked to describe itself. -/
theorem describe_consults
    (c : ConnectionId)
    (anchor : Anchor)
    (sql : Bytes)
    (st : StatementHandle)
    (tail : Option Nat) :
    Quiet.Consults (E := E)
      (describe c anchor sql st tail) := by
  apply Quiet.Consults.bind (.ask rfl)
  intro text
  apply Quiet.Consults.bind (.ask rfl)
  intro parameters
  apply Quiet.Consults.bind (.ask rfl)
  intro columns
  apply Quiet.Consults.bind
    (describeColumns_consults st 0 columns)
  exact fun _ => .pure _

/- What a failure has left is finalized. -/
theorem keep_of_failed
    {answer : PrepareAnswer}
    (hCode : answer.code ≠ ResultCode.ok)
    (p : Place)
    (c : ConnectionId)
    (db : DatabaseHandle)
    (sql : Bytes)
    (st : StatementHandle)
    (s : Session E) :
    ∃ e t, (keep p c db sql (st, answer)).run s = (.error e, t) ∧
      ((answer.created = false ∧ s.Did [] t) ∨
        (answer.created = true ∧
          ∃ code : ResultCode,
            s.Did [⟨.finalize st, code⟩] t)) := by
  have hAsked := Session.Did.of_consulted
    (handleError_consults db answer.code .preparing sql s)
  unfold keep
  simp only [if_pos hCode]
  rw [run_bind_of_ok (run_lift _ s)]
  cases answer.created with
  | false => exact ⟨_, _, rfl, .inl ⟨rfl, hAsked⟩⟩
  | true =>
      exact ⟨_, _, rfl, .inr ⟨rfl, _, hAsked.trans
        (.call (c := .finalize st) rfl _)⟩⟩

/- No statement is kept where the engine has made none. -/
theorem keep_of_empty
    {answer : PrepareAnswer}
    (hCode : answer.code = ResultCode.ok)
    (hCreated : answer.created = false)
    (p : Place)
    (c : ConnectionId)
    (db : DatabaseHandle)
    (sql : Bytes)
    (st : StatementHandle)
    (s : Session E) :
    (keep p c db sql (st, answer)).run s =
      (.error (.database (Refusal.noStatement sql).error),
        s) := by
  unfold keep
  simp only [if_neg (not_not_intro hCode)]
  exact run_bind_of_error (run_require_of_false hCreated _ s)

/- A statement that the engine has made is entered. -/
theorem keep_of_created
    {answer : PrepareAnswer}
    (hCode : answer.code = ResultCode.ok)
    (hCreated : answer.created = true)
    (p : Place)
    (c : ConnectionId)
    (db : DatabaseHandle)
    (sql : Bytes)
    (st : StatementHandle)
    (s : Session E) :
    ∃ t, (keep p c db sql (st, answer)).run s = (.ok (), t) ∧
      (t.world.statement p).tailOffset =
        answer.tail.getD sql.length ∧
      s.Hears [] t ∧ s.Enters p c st t := by
  let n : Anchor := { number := s.world.issued.anchors + 1 }
  let r : Statement := (describe c n sql st answer.tail s).1
  let described := (describe c n sql st answer.tail s).2
  have hConsulted : s.Consulted described :=
    describe_consults c n sql st answer.tail s
  let t := (Quiet.update (register c p r) described).2
  have hRegistered : t.world = register c p r described.world :=
    rfl
  have hKept : t.world.statements.get? p = some r := by
    rw [hRegistered, register_eq]
    exact (Table.get?_put _ _ _ _).trans (if_pos rfl)
  refine ⟨t, ?_, ?_, ?_, ?_⟩
  · unfold keep
    simp only [if_neg (not_not_intro hCode)]
    rw [run_bind_of_ok (run_require_of_true hCreated _ s),
      run_read, run_bind_of_ok (run_lift
        (describe c n sql st answer.tail) s)]
    rfl
  · rw [World.statement_of_get? hKept]
    rfl
  · have hSame : t.world.trace = described.world.trace := by
      rw [hRegistered, register_eq]
    exact (Session.Hears.of_consulted hConsulted).trans
      (.of_trace hSame)
  · have hAsked := Session.Did.of_consulted hConsulted
    rw [register_eq] at hRegistered
    refine ⟨⟨r, ⟨hKept, rfl, rfl⟩, rfl, rfl⟩, fun c' => ?_, ?_⟩
    · rw [hRegistered, ← hAsked.connections,
        ← hAsked.connections]
      exact Table.get?_modify _ _ _ _
    · rw [hRegistered]
      exact hAsked.library

/-
  A text is compiled by one call.  There is no statement
  then, or a new one is entered.
-/
theorem prepare_did
    {db : DatabaseHandle}
    {sql : Bytes}
    (hOpen : (s.world.connection c).handle = some db)
    (hText : Sendable sql)
    (p : Place) :
    (∃ e l t, (prepare c p sql).run s = (.error e, t) ∧
        s.Did l t ∧ Uncompiled db sql l) ∨
      ∃ st answer t, (prepare c p sql).run s = (.ok (), t) ∧
        s.Prepares p c db sql st answer t := by
  rcases compile_did db sql s with
    ⟨st, answer, t, hCompiled, hDatabase, hAnswered, hDid⟩
  have hRun : (prepare c p sql).run s =
      (keep p c db sql (st, answer)).run t := by
    rw [prepare_run hOpen hText, hCompiled]
  rw [hRun]
  by_cases hCode : answer.code = ResultCode.ok
  · cases hCreated : answer.created with
    | false =>
        exact .inl ⟨_, _, t,
          keep_of_empty hCode hCreated p c db sql st t, hDid,
          .empty hDatabase hCode hCreated⟩
    | true =>
        rcases keep_of_created hCode hCreated p c db sql st t
          with ⟨t', hKept, hTail, hHears, hEnters⟩
        have hEntered : s.Enters p c st t' :=
          ⟨hEnters.stands,
            fun c' => by
              rw [hEnters.connections, hDid.connections,
                hDid.connections],
            hEnters.library.trans hDid.library⟩
        exact .inr ⟨st, answer, t', hKept, hDatabase,
          hAnswered, hCode, hCreated, hTail,
          hDid.heard.trans hHears, hEntered⟩
  · rcases keep_of_failed hCode p c db sql st t with
      ⟨e, t', hFailed, ⟨hCreated, hAfter⟩ |
        ⟨hCreated, code, hAfter⟩⟩
    · exact .inl ⟨e, _, t', hFailed, hDid.trans hAfter,
        .refused hDatabase hCode hCreated⟩
    · exact .inl ⟨e, _, t', hFailed, hDid.trans hAfter,
        .discarded hDatabase hCode hCreated⟩

------------------------------------------------------------
-- Temporary Statements
------------------------------------------------------------

/-
  Whether a session is without a statement that was entered
  at its connection, and is otherwise as it was.
-/
structure Leaves
    (s : Session E)
    (p : Place)
    (c : ConnectionId)
    (t : Session E) : Prop where
  connections : ∀ c',
    t.world.connections.get? c' =
      if c' = c then
        (s.world.connections.get? c).map (·.removeStatement p)
      else s.world.connections.get? c'
  library : t.world.library = s.world.library

/- A statement is finalized by one call. -/
theorem finalize_did
    (hStands : s.Stands p c st r) :
    ∃ code : ResultCode,
      s.Hears [⟨.finalize st, code⟩] (finalize p s).2 ∧
      Leaves s p c (finalize p s).2 ∧
      (finalize p s).2.world.statements.get? p =
        some r.ended := by
  let struck : Session E :=
    { s with
      world := World.modifyStatement p ended
        (s.world.modifyLinked (some c) (·.removeStatement p)) }
  let code : ResultCode := (Quiet.invoke (.finalize st) struck).1
  let heard := (Quiet.invoke (.finalize st) struck).2
  have hRun : ∃ log, (finalize p s).2 = { heard with log } := by
    unfold finalize lookup
    rw [Quiet.run_bind]
    simp only [Quiet.read, hStands.statement, hStands.handle,
      hStands.connection]
    rw [Quiet.run_bind, Quiet.run_bind, Quiet.run_bind]
    split
    case isTrue => exact ⟨_, rfl⟩
    case isFalse => exact ⟨_, rfl⟩
  have hStruck : struck.world =
      { s.world with
        statements := s.world.statements.modify p ended
        connections := s.world.connections.modify c
          (·.removeStatement p) } := by
    simp only [struck, World.modifyStatement_eq,
      World.modifyLinked_eq]
    rfl
  rcases hRun with ⟨log, hRun⟩
  rw [hRun]
  refine ⟨code, ⟨[⟨.finalize st, code⟩], ?_, rfl⟩,
    ⟨fun c' => ?_, ?_⟩, ?_⟩
  · show ⟨.finalize st, code⟩ :: struck.world.trace = _
    rw [hStruck]
    rfl
  · show struck.world.connections.get? c' = _
    rw [hStruck]
    exact Table.get?_modify _ _ _ _
  · show struck.world.library = _
    rw [hStruck]
  · show struck.world.statements.get? p = _
    rw [hStruck]
    show (s.world.statements.modify p ended).get? p = _
    rw [Table.get?_modify, if_pos rfl, hStands.found]
    rfl

/- So is one that is destroyed. -/
theorem destroy_did
    (hStands : s.Stands p c st r) :
    ∃ code : ResultCode,
      s.Hears [⟨.finalize st, code⟩] (destroy p s).2 ∧
      Leaves s p c (destroy p s).2 := by
  rcases finalize_did hStands with ⟨code, hHears, hLeaves, _⟩
  let ended := (finalize p s).2
  have hErased : (destroy p s).2.world =
      { ended.world with
        anchors := ended.world.anchors.erase?
          (ended.world.statement p).anchor
        statements := ended.world.statements.erase p } := by
    unfold destroy
    rw [Quiet.run_bind]
    simp only [Quiet.update, World.dropAnchor_eq]
    rfl
  refine ⟨code, ?_, fun c' => ?_, ?_⟩
  · exact hHears.trans (.of_trace (by rw [hErased]))
  · rw [hErased]
    exact hLeaves.connections c'
  · rw [hErased]
    exact hLeaves.library

/- Once it is finalized, it is destroyed without a call. -/
theorem destroy_finalized_did
    (hStands : s.Stands p c st r) :
    ∃ code : ResultCode,
      s.Hears [⟨.finalize st, code⟩]
        (destroy p (finalize p s).2).2 ∧
      Leaves s p c (destroy p (finalize p s).2).2 := by
  rw [destroy_finalize]
  exact destroy_did hStands

/- A connection lists again what it listed before. -/
theorem removeStatement_addStatement
    {conn : Connection}
    (hFree : p ∉ conn.statements) :
    (conn.addStatement p).removeStatement p = conn := by
  have hOthers : conn.statements.filter (· ≠ p) =
      conn.statements := by
    apply List.filter_eq_self.mpr
    intro q hListed
    apply decide_eq_true
    rintro rfl
    exact hFree hListed
  simp only [ne_eq, decide_not] at hOthers
  simp [Connection.addStatement, Connection.removeStatement,
    hOthers]

/-
  A new statement that is worked with and then finalized
  leaves the connections as they were.
-/
theorem worked_did
    {db : DatabaseHandle}
    {sql : Bytes}
    {answer : PrepareAnswer}
    {code : ResultCode}
    {l : Trace}
    {u v : Session E}
    (hPrepares : s.Prepares p c db sql st answer t)
    (hUnlisted : s.Unlisted p c)
    (hDid : t.Did l u)
    (hLast : u.Hears [⟨.finalize st, code⟩] v)
    (hLeaves : Leaves u p c v) :
    s.Did
      (⟨.finalize st, code⟩ :: l ++
        [⟨.prepare sql st, answer⟩]) v where
  heard := (hPrepares.heard.trans hDid.heard).trans hLast
  connections c' := by
    have hEnters := hPrepares.enters
    rw [hLeaves.connections, hDid.connections,
      hDid.connections, hEnters.connections,
      hEnters.connections, if_pos rfl]
    split
    case isTrue hSame =>
      subst hSame
      cases hFound : s.world.connections.get? c' with
      | none => rfl
      | some conn =>
          exact congrArg some
            (removeStatement_addStatement
              (hUnlisted conn hFound))
    case isFalse => rfl
  library := (hLeaves.library.trans hDid.library).trans
    hPrepares.enters.library

/-
  Working with a temporary statement is one of the ways to
  run its text, and leaves connections as they are.
-/
theorem within_did
    {db : DatabaseHandle}
    {conn : Connection}
    {sql : Bytes}
    (work : Place → Attempt E α)
    (Works : StatementHandle → Bool → Trace → Prop)
    (hFound : s.world.connections.get? c = some conn)
    (hOpen : conn.handle = some db)
    (hFree : conn.statements = [])
    (hText : Sendable sql)
    (hWork : ∀ (t : Session E) st r,
      t.Stands .scratch c st r → r.state = .ready →
        r.stepFailed = false →
          ∃ l r', t.Did l ((work .scratch).run t).2 ∧
            ((work .scratch).run t).2.Stands .scratch c st
              r' ∧
            Works st ((work .scratch).run t).1.isOk l) :
    ∃ l, s.Did l ((within c sql work).run s).2 ∧
      Ran db sql Works ((within c sql work).run s).1.isOk
        l := by
  have hHandle : (s.world.connection c).handle = some db := by
    rw [World.connection_of_get? hFound]
    exact hOpen
  rcases prepare_did hHandle hText .scratch with
    ⟨e, l, t, hFailed, hDid, hUncompiled⟩ |
      ⟨st, answer, t, hPrepared, hPrepares⟩
  · unfold within
    rw [run_bind_of_error hFailed]
    exact ⟨l, hDid, .uncompiled hUncompiled⟩
  · rcases hPrepares.enters.stands with
      ⟨r, hStands, hReady, hFresh⟩
    rcases hWork t st r hStands hReady hFresh with
      ⟨l, r', hDid, hStands', hWorks⟩
    rcases destroy_did hStands' with ⟨code, hLast, hLeaves⟩
    have hUnlisted : s.Unlisted .scratch c := by
      intro conn' hFound'
      rw [hFound] at hFound'
      cases hFound'
      rw [hFree]
      exact List.not_mem_nil
    unfold within
    rw [run_bind_of_ok hPrepared, run_ensuring]
    exact ⟨_,
      worked_did hPrepares hUnlisted hDid hLast hLeaves,
      .worked hPrepares.database hPrepares.code
        hPrepares.created hWorks⟩

end Statement

namespace Connection

variable {db : DatabaseHandle} {conn : Connection} {sql : Bytes}

/- Executing a text is one of the ways to run it. -/
theorem execute_did
    (hFound : s.world.connections.get? c = some conn)
    (hOpen : conn.handle = some db)
    (hFree : conn.statements = [])
    (hText : Statement.Sendable sql) :
    ∃ l, s.Did l ((execute c sql).run s).2 ∧
      Statement.Ran db sql Statement.Executed
        ((execute c sql).run s).1.isOk l := by
  apply Statement.within_did _ _ hFound hOpen hFree hText
  intro t st r hStands hReady hFresh
  unfold Statement.lookup
  rw [run_read, hStands.statement]
  cases r.hasTail with
  | true =>
      rw [run_bind_of_error
        (run_require_of_false (c := ! true) rfl _ t)]
      exact ⟨[], r, .refl t, hStands, .refused⟩
  | false =>
      rw [run_bind_of_ok
        (run_require_of_true (c := ! false) rfl _ t)]
      have hState : r.state ≠ .done := by simp [hReady]
      exact Statement.execute_did hStands hState hFresh

end Connection

end SqliteAccess
