import SqliteAccess.Proofs.Connection.Sending

/-
  Which texts a session carries out.

  A text is carried out on a database once a statement that
  was compiled from it has been stepped to its end.  A text
  that a connection executes is carried out at most once, and
  no other is.

  Key definitions include:
    * `Trace.textOf`
    * `Trace.carried`
    * `Session.Still`
    * `Session.Carries`

  The texts are characterized by:
    * `Statement.drain_carries`
    * `Statement.prepare_cases`
    * `Connection.execute_carries`
-/

namespace SqliteAccess

variable {E : Engine} {α β : Type}

open Attempt

------------------------------------------------------------
-- Texts That Are Carried Out
------------------------------------------------------------

/- Whether a call has to do with carrying out a text. -/
def Call.carries : Call → Bool
  | prepare .. => true
  | step _ => true
  | _ => false

/- The text that a call has compiled into a statement. -/
def Event.compiledAs?
    (st : StatementHandle)
    (e : Event) : Option Bytes :=
  match e.call with
  | .prepare sql st' => if st' = st then some sql else none
  | _ => none

namespace Trace

/- The text that a statement was last compiled from. -/
def textOf
    (t : Trace)
    (st : StatementHandle) : Option Bytes :=
  t.findSome? (·.compiledAs? st)

/-
  The text that a call has carried out, after other calls,
  and the database on which it has done so.
-/
def carried?
    (t : Trace)
    (e : Event) : Option (DatabaseHandle × Bytes) :=
  match e with
  | ⟨.step st, code⟩ =>
      if code = ResultCode.done then
        (t.textOf st).map fun sql => (st.database, sql)
      else none
  | _ => none

/- The texts that were carried out, the latest first. -/
def carried : Trace → List (DatabaseHandle × Bytes)
  | [] => []
  | e :: t => (carried? t e).toList ++ carried t

variable {e : Event} {l t : Trace} {st : StatementHandle}

/- Calls of other sorts leave the texts of statements. -/
theorem textOf_append
    (hOther : ∀ e ∈ l, e.call.carries = false) :
    (l ++ t).textOf st = t.textOf st := by
  have hNone : l.findSome? (·.compiledAs? st) = none := by
    apply List.findSome?_eq_none_iff.mpr
    rintro ⟨call, answer⟩ hMember
    have hCall := hOther _ hMember
    cases call <;> first | rfl | cases hCall
  unfold textOf
  rw [List.findSome?_append, hNone]
  rfl

/- Calls of other sorts carry nothing out. -/
theorem carried?_of_other
    (hOther : e.call.carries = false) :
    t.carried? e = none := by
  rcases e with ⟨call, answer⟩
  cases call <;> first | rfl | cases hOther

theorem carried_append
    (hOther : ∀ e ∈ l, e.call.carries = false) :
    (l ++ t).carried = t.carried := by
  induction l with
  | nil => rfl
  | cons e l ih =>
      have hNone : carried? (l ++ t) e = none :=
        carried?_of_other (hOther e (List.mem_cons_self ..))
      have hRest := ih fun e hMember =>
        hOther e (List.mem_cons_of_mem _ hMember)
      show (carried? (l ++ t) e).toList ++
        carried (l ++ t) = _
      rw [hNone, hRest]
      rfl

/- What was carried out remains so. -/
theorem carried_suffix
    (l t : Trace) :
    t.carried <:+ (l ++ t).carried := by
  induction l with
  | nil => exact List.suffix_refl _
  | cons e l ih =>
      exact ih.trans (List.suffix_append _ _)

end Trace

/- The texts that a session has carried out. -/
def Session.carried
    (s : Session E) : List (DatabaseHandle × Bytes) :=
  s.world.trace.carried

------------------------------------------------------------
-- Keeping Still
------------------------------------------------------------

/-
  Whether a session neither compiles nor steps anything, and
  a statement keeps its handle, if one is given.
-/
structure Session.Still
    (p : Option Place)
    (s s' : Session E) : Prop where
  handle : ∀ q, p = some q →
    (s'.world.statement q).handle =
      (s.world.statement q).handle
  heard : ∃ l, s'.world.trace = l ++ s.world.trace ∧
    ∀ e ∈ l, e.call.carries = false

namespace Session.Still

variable {p : Option Place} {s s' s'' : Session E}

theorem refl (s : Session E) : s.Still p s :=
  ⟨fun _ _ => rfl, [], rfl, nofun⟩

theorem trans
    (hFirst : s.Still p s')
    (hSecond : s'.Still p s'') :
    s.Still p s'' := by
  refine ⟨fun q hPlace => ?_, ?_⟩
  · exact (hSecond.handle q hPlace).trans
      (hFirst.handle q hPlace)
  · rcases hFirst.heard with ⟨l, hTrace, hOther⟩
    rcases hSecond.heard with ⟨l', hTrace', hOther'⟩
    refine ⟨l' ++ l, ?_, fun e hMember => ?_⟩
    · rw [hTrace', hTrace, List.append_assoc]
    · rcases List.mem_append.mp hMember with hNew | hOld
      · exact hOther' e hNew
      · exact hOther e hOld

/- Statements keep their texts. -/
theorem textOf
    (hStill : s.Still p s')
    (st : StatementHandle) :
    s'.world.trace.textOf st = s.world.trace.textOf st := by
  rcases hStill.heard with ⟨l, hTrace, hOther⟩
  rw [hTrace, Trace.textOf_append hOther]

/- Nothing is carried out. -/
theorem carried
    (hStill : s.Still p s') :
    s'.carried = s.carried := by
  rcases hStill.heard with ⟨l, hTrace, hOther⟩
  unfold Session.carried
  rw [hTrace, Trace.carried_append hOther]

/- A change that no call is made for. -/
theorem of_trace
    (hTrace : s'.world.trace = s.world.trace)
    (hHandle : ∀ q, p = some q →
      (s'.world.statement q).handle =
        (s.world.statement q).handle) :
    s.Still p s' :=
  ⟨hHandle, [], hTrace, nofun⟩

end Session.Still

/- Whether a quiet step keeps still. -/
def Quiet.Still
    (p : Option Place)
    (x : Quiet E α) : Prop :=
  ∀ s : Session E, s.Still p (x s).2

namespace Quiet.Still

variable {p : Option Place} {x : Quiet E α}
variable {k : α → Quiet E β}

theorem pure (a : α) :
    Still p (pure a : Quiet E α) :=
  fun s => .refl s

theorem bind
    (hFirst : Still p x)
    (hNext : ∀ a, Still p (k a)) :
    Still p (x >>= k) :=
  fun s => (hFirst s).trans (hNext _ _)

theorem read (f : World E → α) : Still p (Quiet.read f) :=
  fun s => .refl s

theorem note
    (level : LogLevel)
    (message : String)
    (fields : List LogField) :
    Still (E := E) p (Quiet.note level message fields) :=
  fun _ => .of_trace rfl fun _ _ => rfl

/- Other calls are made quietly. -/
theorem ask
    {c : Call}
    (hOther : c.carries = false) :
    Still (E := E) p (Quiet.invoke c) := by
  intro s
  let e : Event := ⟨c, (Quiet.invoke c s).1⟩
  exact ⟨fun _ _ => rfl, [e], rfl, fun e hMember => by
    cases List.mem_singleton.mp hMember
    exact hOther⟩

/- A change of the world that no statement notices. -/
theorem edit
    {f : World E → World E}
    (hTrace : ∀ w, (f w).trace = w.trace)
    (hHandle : ∀ w q, p = some q →
      ((f w).statement q).handle = (w.statement q).handle) :
    Still p (Quiet.update f) :=
  fun s => .of_trace (hTrace s.world) (hHandle s.world)

/- A statement that is changed keeps its handle. -/
theorem modify
    {f : Statement → Statement}
    (hKeeps : ∀ s, (f s).handle = s.handle)
    (q : Place) :
    Still (E := E) p
      (Quiet.update (World.modifyStatement q f)) := by
  apply edit
  · intro w
    rw [World.modifyStatement_eq]
  · intro w q' _
    rw [World.modifyStatement_eq]
    unfold World.statement
    rw [Table.get?_modify]
    split
    case isTrue hSame =>
      subst hSame
      cases w.statements.get? q' with
      | none => rfl
      | some s => exact hKeeps s
    case isFalse => rfl

theorem ite
    {c : Prop}
    [Decidable c]
    {y : Quiet E α}
    (hThen : Still p x)
    (hElse : Still p y) :
    Still p (if c then x else y) := by
  split
  · exact hThen
  · exact hElse

end Quiet.Still

/- Whether an attempt keeps still. -/
def Attempt.Still
    (p : Option Place)
    (x : Attempt E α) : Prop :=
  ∀ s : Session E, s.Still p (x.run s).2

namespace Attempt.Still

variable {p : Option Place} {x : Attempt E α}
variable {k : α → Attempt E β}

theorem pure (a : α) :
    Still p (pure a : Attempt E α) :=
  fun s => .refl s

theorem throw (e : Failure) :
    Still p (throw e : Attempt E α) :=
  fun s => .refl s

theorem bind
    (hFirst : Still p x)
    (hNext : ∀ a, Still p (k a)) :
    Still p (x >>= k) := by
  intro s
  have hStill := hFirst s
  rw [Attempt.run_bind]
  rcases hRun : x.run s with ⟨result, t⟩
  rw [hRun] at hStill
  cases result with
  | ok a => exact hStill.trans (hNext a t)
  | error e => exact hStill

theorem lift
    {y : Quiet E α}
    (hStill : Quiet.Still p y) :
    Still p (lift y) :=
  hStill

theorem ite
    {c : Prop}
    [Decidable c]
    {y : Attempt E α}
    (hThen : Still p x)
    (hElse : Still p y) :
    Still p (if c then x else y) := by
  split
  · exact hThen
  · exact hElse

end Attempt.Still

------------------------------------------------------------
-- Programs That Keep Still
------------------------------------------------------------

theorem Attempt.handleError_still
    {p : Option Place}
    (db : DatabaseHandle)
    (code : ResultCode)
    (phase : Phase)
    (sql : Bytes) :
    Quiet.Still (E := E) p (handleError db code phase sql) := by
  apply Quiet.Still.bind (.ask rfl)
  intro full
  apply Quiet.Still.bind (.ask rfl)
  intro message
  apply Quiet.Still.ite
  · apply Quiet.Still.bind (.ask rfl)
    exact fun _ => .pure _
  · exact .pure _

theorem Attempt.check_still
    {p : Option Place}
    (db : DatabaseHandle)
    (code : ResultCode)
    (phase : Phase)
    (sql : Bytes) :
    Attempt.Still (E := E) p (check db code phase sql) := by
  apply Attempt.Still.ite
  · apply Attempt.Still.bind
      (.lift (handleError_still db code phase sql))
    exact fun e => .throw _
  · exact .pure ()

namespace Statement

variable {p : Option Place}

theorem rewind_still
    (q : Place)
    (st : StatementHandle) :
    Attempt.Still (E := E) p (rewind q st) := by
  apply Attempt.Still.bind (.lift (.read _))
  intro s
  apply Attempt.Still.bind (.lift (.ask rfl))
  intro code
  apply Attempt.Still.bind
    (.lift (.modify (f := rewound) (fun _ => rfl) q))
  intro _
  apply Attempt.Still.ite
  · exact check_still _ _ _ _
  · exact .pure ()

theorem rewindIfDone_still
    (q : Place)
    (st : StatementHandle) :
    Attempt.Still (E := E) p (rewindIfDone q st) := by
  apply Attempt.Still.bind (.lift (.read _))
  intro s
  apply Attempt.Still.ite
  · exact rewind_still q st
  · exact .pure ()

theorem describeColumns_still
    (st : StatementHandle)
    (first count : Nat) :
    Quiet.Still (E := E) p
      (describeColumns st first count) := by
  induction count generalizing first with
  | zero => exact .pure _
  | succ n ih =>
      apply Quiet.Still.bind (.ask rfl)
      intro name
      apply Quiet.Still.bind (.ask rfl)
      intro type
      apply Quiet.Still.bind (ih (first + 1))
      exact fun _ => .pure _

theorem describe_still
    (c : ConnectionId)
    (anchor : Anchor)
    (sql : Bytes)
    (st : StatementHandle)
    (tail : Option Nat) :
    Quiet.Still (E := E) p
      (describe c anchor sql st tail) := by
  apply Quiet.Still.bind (.ask rfl)
  intro text
  apply Quiet.Still.bind (.ask rfl)
  intro parameters
  apply Quiet.Still.bind (.ask rfl)
  intro columns
  apply Quiet.Still.bind (describeColumns_still st 0 _)
  exact fun _ => .pure _

/- Destroying a statement keeps no handle, but is quiet. -/
theorem destroy_still (q : Place) :
    Quiet.Still (E := E) none (destroy q) := by
  have hEdited : ∀ {f : World E → World E},
      (∀ w, (f w).trace = w.trace) →
        Quiet.Still none (Quiet.update f) := fun hTrace =>
    .edit hTrace nofun
  apply Quiet.Still.bind
  · apply Quiet.Still.bind (.read _)
    intro s
    cases s.handle with
    | none => exact hEdited fun w => by simp
    | some st =>
        apply Quiet.Still.bind (hEdited fun w => by simp)
        intro _
        apply Quiet.Still.bind (hEdited fun w => by simp)
        intro _
        apply Quiet.Still.bind (.ask rfl)
        intro code
        apply Quiet.Still.ite
        · exact .note _ _ _
        · exact .pure _
  · exact fun _ => hEdited fun w => by simp

end Statement

------------------------------------------------------------
-- Stepping to the End
------------------------------------------------------------

/- Whether a statement has a handle that has a text. -/
structure Session.HasText
    (p : Place)
    (st : StatementHandle)
    (sql : Bytes)
    (s : Session E) : Prop where
  handle : (s.world.statement p).handle = some st
  text : s.world.trace.textOf st = some sql

/- It keeps both where nothing is compiled or stepped. -/
theorem Session.HasText.of_still
    {p : Place}
    {st : StatementHandle}
    {sql : Bytes}
    {s s' : Session E}
    (hText : s.HasText p st sql)
    (hStill : s.Still (some p) s') :
    s'.HasText p st sql :=
  ⟨(hStill.handle p rfl).trans hText.handle,
    (hStill.textOf st).trans hText.text⟩

/-
  Whether a program has carried out at most one text, and has
  done so if it succeeded.
-/
def Session.Carries
    (x : DatabaseHandle × Bytes)
    (s : Session E)
    (r : Except Failure α × Session E) : Prop :=
  ∃ l, r.2.carried = l ++ s.carried ∧ l.Sublist [x] ∧
    (r.1.isOk → l = [x])

namespace Session.Carries

variable {x : DatabaseHandle × Bytes} {s t : Session E}

/- What fails quietly has carried nothing out. -/
theorem failed
    {e : Failure}
    (hSame : t.carried = s.carried) :
    s.Carries x ((.error e : Except Failure α), t) :=
  ⟨[], hSame, List.nil_sublist _, nofun⟩

/- What follows quietly carries nothing more out. -/
theorem andThen
    {result : Except Failure α}
    {r : Except Failure β × Session E}
    (hCarries : s.Carries x (result, t))
    (hSame : r.2.carried = t.carried)
    (hOk : r.1.isOk → result.isOk) :
    s.Carries x r := by
  rcases hCarries with ⟨l, hCarried, hSub, hDone⟩
  exact ⟨l, hSame.trans hCarried, hSub,
    fun h => hDone (hOk h)⟩

/- What precedes it has carried nothing out. -/
theorem after
    {r : Except Failure α × Session E}
    (hSame : t.carried = s.carried)
    (hCarries : t.Carries x r) :
    s.Carries x r := by
  unfold Session.Carries
  rw [← hSame]
  exact hCarries

end Session.Carries

namespace Statement

variable {p : Place} {st : StatementHandle} {sql : Bytes}
variable {s : Session E}

/- A statement that has a handle gives it. -/
theorem requireHandle_of_some
    (hHandle : (s.world.statement p).handle = some st)
    (operation : String) :
    (requireHandle p operation).run s = (.ok st, s) := by
  unfold requireHandle lookup
  rw [run_read, hHandle]
  rfl

/- What is done once the engine has answered a step. -/
def settle
    (p : Place)
    (st : StatementHandle)
    (code : ResultCode) : Attempt E StepResult := do
  lift (Quiet.update (World.modifyStatement p (·.stepped code)))
  if code = ResultCode.row then
    return .row
  else if code = ResultCode.done then
    return .completed
  else
    let s ← lift (lookup p)
    fail (← lift (handleError st.database code .stepping
      s.sql))

theorem step_eq :
    step (E := E) p =
      (requireHandle p "step" >>= fun st =>
        rewindIfDone p st >>= fun _ =>
          lift (Quiet.invoke (.step st)) >>= settle p st) :=
  rfl

theorem settle_still
    (p : Place)
    (st : StatementHandle)
    (code : ResultCode) :
    Attempt.Still (E := E) (some p) (settle p st code) := by
  apply Attempt.Still.bind
  · apply Attempt.Still.lift
    apply Quiet.Still.modify
    intro s
    unfold stepped
    split
    · rfl
    · split <;> rfl
  intro _
  apply Attempt.Still.ite (.pure _)
  apply Attempt.Still.ite (.pure _)
  apply Attempt.Still.bind (.lift (.read _))
  intro s
  apply Attempt.Still.bind (.lift (handleError_still _ _ _ _))
  exact fun e => .throw _

/- The code of a step tells how it ends. -/
theorem settle_result
    (p : Place)
    (st : StatementHandle)
    (code : ResultCode)
    (s : Session E) :
    ((settle p st code).run s).1 = .ok .row ∧
        code = ResultCode.row ∨
      ((settle p st code).run s).1 = .ok .completed ∧
        code = ResultCode.done ∨
      ∃ e, ((settle p st code).run s).1 = .error e ∧
        code ≠ ResultCode.done := by
  unfold settle
  rw [run_bind_of_ok (run_lift _ s)]
  by_cases hRow : code = ResultCode.row
  · rw [if_pos hRow]
    exact .inl ⟨rfl, hRow⟩
  · rw [if_neg hRow]
    by_cases hDone : code = ResultCode.done
    · rw [if_pos hDone]
      exact .inr (.inl ⟨rfl, hDone⟩)
    · rw [if_neg hDone]
      exact .inr (.inr ⟨_, rfl, hDone⟩)

/-
  A step that completes a statement carries out its text, and
  no other step carries anything out.
-/
theorem step_carries
    (hText : s.HasText p st sql) :
    ((step p).run s).2.HasText p st sql ∧
      ((step p).run s).2.carried =
        match ((step p).run s).1 with
        | .ok .completed => (st.database, sql) :: s.carried
        | _ => s.carried := by
  rw [step_eq,
    run_bind_of_ok (requireHandle_of_some hText.handle _)]
  have hRewound := rewindIfDone_still (p := some p) p st s
  rcases hRun : (rewindIfDone p st).run s with ⟨result, t⟩
  rw [hRun] at hRewound
  have hStill := hText.of_still hRewound
  cases result with
  | error e =>
      rw [run_bind_of_error hRun]
      exact ⟨hStill, hRewound.carried⟩
  | ok _ =>
      rw [run_bind_of_ok hRun,
        run_bind_of_ok (run_lift (Quiet.invoke _) t)]
      let code : ResultCode := (Quiet.invoke (.step st) t).1
      let t' : Session E := (Quiet.invoke (.step st) t).2
      have hTrace : t'.world.trace =
          ⟨.step st, code⟩ :: t.world.trace := rfl
      have hStepped : t'.HasText p st sql := by
        refine ⟨hStill.handle, ?_⟩
        rw [hTrace]
        exact hStill.text
      have hSettled := settle_still p st code t'
      refine ⟨hStepped.of_still hSettled, ?_⟩
      show ((settle p st code).run t').2.carried =
        match ((settle p st code).run t').1 with
        | .ok .completed => (st.database, sql) :: s.carried
        | _ => s.carried
      have hCarried : t'.carried =
          (if code = ResultCode.done then
            [(st.database, sql)] else []) ++ s.carried := by
        rw [← hRewound.carried]
        unfold Session.carried
        rw [hTrace]
        show (Trace.carried? t.world.trace
          ⟨.step st, code⟩).toList ++ _ = _
        simp only [Trace.carried?]
        split
        · rw [hStill.text]
          rfl
        · rfl
      rw [hSettled.carried, hCarried]
      rcases settle_result p st code t' with
        ⟨hResult, hCode⟩ | ⟨hResult, hCode⟩ |
          ⟨e, hResult, hCode⟩
      · rw [hResult, if_neg (by rw [hCode]; decide)]
        rfl
      · rw [hResult, if_pos hCode]
        rfl
      · rw [hResult, if_neg hCode]
        rfl

/- Stepping to the end carries out the text. -/
theorem drain_carries
    (hText : s.HasText p st sql)
    (n : Nat) :
    ((drain p n).run s).2.HasText p st sql ∧
      s.Carries (st.database, sql) ((drain p n).run s) := by
  induction n generalizing s with
  | zero => exact ⟨hText, .failed rfl⟩
  | succ n ih =>
      rcases step_carries hText with ⟨hStill, hCarried⟩
      unfold drain
      rcases hRun : (step p).run s with ⟨result, t⟩
      rw [hRun] at hStill hCarried
      cases result with
      | error e =>
          rw [run_bind_of_error hRun]
          exact ⟨hStill, .failed hCarried⟩
      | ok found =>
          rw [run_bind_of_ok hRun]
          cases found with
          | row =>
              rcases ih hStill with ⟨hLater, hCarries⟩
              exact ⟨hLater, hCarries.after hCarried⟩
          | completed =>
              exact ⟨hStill, [(st.database, sql)], hCarried,
                List.Sublist.refl _, fun _ => rfl⟩

/- Running a statement to its end carries out its text. -/
theorem execute_carries
    (hText : s.HasText p st sql) :
    s.Carries (st.database, sql) ((execute p).run s) := by
  have hRest : Attempt.Still (E := E) (some p)
      (lift (Quiet.invoke (.changes st.database)) >>=
        fun changed => rewind p st >>= fun _ =>
          pure changed) := by
    apply Attempt.Still.bind (.lift (.ask rfl))
    intro changed
    apply Attempt.Still.bind (rewind_still p st)
    exact fun _ => .pure _
  unfold execute
  rw [run_bind_of_ok (requireHandle_of_some hText.handle _),
    run_read]
  have hCarries := (drain_carries hText s.world.patience).2
  rcases hRun : (drain p s.world.patience).run s with
    ⟨result, t⟩
  rw [hRun] at hCarries
  cases result with
  | error e =>
      rw [run_bind_of_error hRun]
      exact hCarries.andThen rfl nofun
  | ok _ =>
      rw [run_bind_of_ok hRun]
      exact hCarries.andThen (hRest t).carried fun _ => rfl

------------------------------------------------------------
-- Compiling
------------------------------------------------------------

/- Compiling gives a handle of the database for the text. -/
theorem compile_run
    (db : DatabaseHandle)
    (sql : Bytes)
    (s : Session E) :
    ∃ st answer t,
      compile db sql s = ((st, answer), t) ∧
        st.database = db ∧
        t.world.trace =
          ⟨.prepare sql st, answer⟩ :: s.world.trace := by
  unfold compile
  simp only [Quiet.run_bind]
  split
  · exact ⟨_, _, _, rfl, rfl, rfl⟩
  · exact ⟨_, _, _, rfl, rfl, rfl⟩

/- A statement describes itself with its handle. -/
theorem describe_handle
    (c : ConnectionId)
    (anchor : Anchor)
    (sql : Bytes)
    (st : StatementHandle)
    (tail : Option Nat)
    (s : Session E) :
    (describe c anchor sql st tail s).1.handle =
      some st := rfl

/-
  What has been compiled is kept with its handle, or given up.
-/
theorem keep_cases
    (p : Place)
    (c : ConnectionId)
    (db : DatabaseHandle)
    (sql : Bytes)
    (st : StatementHandle)
    (answer : PrepareAnswer)
    (s : Session E) :
    ∃ result t,
      (keep p c db sql (st, answer)).run s = (result, t) ∧
        s.Still none t ∧
        (result = .ok () →
          (t.world.statement p).handle = some st) := by
  unfold keep
  by_cases hCode : answer.code ≠ ResultCode.ok
  · -- every way that starts here ends with a failure
    have hStill : Attempt.Still (E := E) none
        (lift (handleError db answer.code .preparing sql) >>=
          fun e => (if answer.created = true then
            lift (Quiet.invoke (.finalize st)) >>= fun _ =>
              fail e
          else fail e : Attempt E Unit)) := by
      apply Attempt.Still.bind
        (.lift (handleError_still _ _ _ _))
      intro e
      apply Attempt.Still.ite
      · exact .bind (.lift (.ask rfl)) fun _ => .throw _
      · exact .throw _
    have hRun : ∀ t : Session E, ∃ e t',
        (lift (handleError db answer.code .preparing sql) >>=
          fun e => (if answer.created = true then
            lift (Quiet.invoke (.finalize st)) >>= fun _ =>
              fail e
          else fail e : Attempt E Unit)).run t =
            (.error e, t') := by
      intro t
      rw [run_bind_of_ok (run_lift _ t)]
      split
      · exact ⟨_, _, rfl⟩
      · exact ⟨_, _, rfl⟩
    rcases hRun s with ⟨e, t, hFailed⟩
    have hQuiet := hStill s
    rw [hFailed] at hQuiet
    refine ⟨.error e, t, ?_, hQuiet, nofun⟩
    simp only [if_pos hCode]
    exact hFailed
  · simp only [if_neg hCode]
    cases hCreated : answer.created with
    | false =>
        exact ⟨_, s, run_bind_of_error
          (run_require_of_false rfl _ s), .refl s, nofun⟩
    | true =>
        rw [run_bind_of_ok (run_require_of_true rfl _ s),
          run_read]
        let n : Anchor := { number := s.world.issued.anchors + 1 }
        have hStill := describe_still (E := E) (p := none) c n
          sql st answer.tail s
        rw [run_bind_of_ok (run_lift
          (describe c n sql st answer.tail) s)]
        refine ⟨_, _, rfl, hStill.trans ?_, fun _ => ?_⟩
        · refine .of_trace ?_ nofun
          show (register c p _ _).trace = _
          rw [register_eq]
        · show ((register c p _ _).statement p).handle = _
          rw [register_eq]
          simp [World.statement, describe_handle]

/-
  A statement that is prepared on an open connection has a
  handle for its text, and nothing is carried out.
-/
theorem prepare_cases
    {c : ConnectionId}
    {db : DatabaseHandle}
    (hOpen : (s.world.connection c).handle = some db)
    (p : Place)
    (sql : Bytes) :
    ∃ result t, (prepare c p sql).run s = (result, t) ∧
      t.carried = s.carried ∧
      (result = .ok () →
        ∃ st, st.database = db ∧ t.HasText p st sql) := by
  rw [prepare_eq,
    run_bind_of_ok (Connection.requireOpen_of_open hOpen _)]
  cases requireText sql with
  | error r =>
      rw [accept_error_bind]
      exact ⟨_, s, run_refuse r s, rfl, nofun⟩
  | ok _ =>
      rw [accept_ok_bind]
      rcases compile_run db sql s with
        ⟨st, answer, t, hCompiled, hDatabase, hTrace⟩
      have hLifted : (lift (compile db sql)).run s =
          (.ok (st, answer), t) := by
        rw [run_lift, hCompiled]
      rw [run_bind_of_ok hLifted]
      rcases keep_cases p c db sql st answer t with
        ⟨result, t', hRun, hStill, hKept⟩
      refine ⟨result, t', hRun, ?_, fun hOk => ?_⟩
      · rw [hStill.carried]
        unfold Session.carried
        rw [hTrace]
        rfl
      · refine ⟨st, hDatabase, hKept hOk, ?_⟩
        rw [hStill.textOf, hTrace]
        unfold Trace.textOf
        rw [List.findSome?_cons]
        simp [Event.compiledAs?]

/- A statement is run to its end if nothing follows it. -/
theorem executeAlone_carries
    (hText : s.HasText p st sql) :
    s.Carries (st.database, sql)
      ((lift (lookup p) >>= fun r =>
        require (! r.hasTail) (.moreSql r.tailOffset sql) >>=
          fun _ => execute p).run s) := by
  unfold lookup
  rw [run_read]
  cases (s.world.statement p).hasTail with
  | true =>
      rw [run_bind_of_error
        (run_require_of_false (c := ! true) rfl _ s)]
      exact .failed rfl
  | false =>
      rw [run_bind_of_ok
        (run_require_of_true (c := ! false) rfl _ s)]
      exact execute_carries hText

end Statement

------------------------------------------------------------
-- Executing
------------------------------------------------------------

/-
  What an open connection executes is carried out on its
  database, at most once, and once if that succeeds.
-/
theorem Connection.execute_carries
    {c : ConnectionId}
    {db : DatabaseHandle}
    {s : Session E}
    (hOpen : (s.world.connection c).handle = some db)
    (sql : Bytes) :
    s.Carries (db, sql) ((execute c sql).run s) := by
  unfold execute Statement.within
  rcases Statement.prepare_cases hOpen .scratch sql with
    ⟨result, t, hPrepared, hCarried, hCompiled⟩
  cases result with
  | error e =>
      rw [run_bind_of_error hPrepared]
      exact .failed hCarried
  | ok _ =>
      rcases hCompiled rfl with ⟨st, rfl, hText⟩
      rw [run_bind_of_ok hPrepared, run_ensuring]
      apply Session.Carries.after hCarried
      have hCarries := Statement.executeAlone_carries hText
      exact hCarries.andThen
        (Statement.destroy_still .scratch _).carried id

end SqliteAccess
