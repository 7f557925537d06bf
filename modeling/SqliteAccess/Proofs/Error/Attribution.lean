import SqliteAccess.Proofs.Error.Translation
import SqliteAccess.Proofs.Statement.Named
import SqliteAccess.Proofs.Statement.Reporting

/-
  Which SQL text the errors of the engine name.

  A call on a statement that fails is raised once, unless it
  is a reset that repeats the failure of a step.  The error
  names the text that was to be compiled, or the text of the
  statement, unless its kind is one of the two that carry no
  text.

  Key definitions include:
    * `FailedCall`
    * `Trace.failures`
    * `FailedCall.ToldBy`
    * `Session.Attributes`
    * `Attempt.Attributes`
    * `Session.AttributesErrors`

  The errors are characterized by:
    * `Session.Hears.failures`
    * `Attempt.Attributes.bind`
    * `Statement.prepare_attributes`
    * `Session.Knows.step_attributes`
    * `Session.Knows.bindArgument_attributes`
    * `Session.Knows.execute_attributes`
    * `Session.errors_attributed`
-/

namespace SqliteAccess

variable {E : Engine} {α β : Type} {s t u : Session E}

------------------------------------------------------------
-- Failed Calls
------------------------------------------------------------

/-
  A call on a statement that has failed, with the code that
  was returned and what the call was made for.
-/
structure FailedCall where
  call : Call
  code : ResultCode
  phase : Phase
  deriving DecidableEq

/- A call has failed if its code is not the good one. -/
def FailedCall.ofCode?
    (call : Call)
    (code : ResultCode)
    (phase : Phase) : Option FailedCall :=
  if code = ResultCode.ok then none
  else some { call, code, phase }

/-
  The failure that a call on a statement tells of, after a
  trace.  A reset after a failed step tells nothing new.
-/
def Event.failure? (t : Trace) : Event → Option FailedCall
  | ⟨.prepare sql st, answer⟩ =>
      FailedCall.ofCode? (.prepare sql st) answer.code .preparing
  | ⟨.bind st index payload, code⟩ =>
      FailedCall.ofCode? (.bind st index payload) code
        .binding
  | ⟨.clearBindings st, code⟩ =>
      FailedCall.ofCode? (.clearBindings st) code .binding
  | ⟨.step st, code⟩ =>
      if code = ResultCode.row ∨ code = ResultCode.done then
        none
      else
        some { call := .step st, code, phase := .stepping }
  | ⟨.reset st, code⟩ =>
      if t.hasFailed st then none
      else FailedCall.ofCode? (.reset st) code .stepping
  | _ => none

namespace Trace

/- The failures that a trace tells of, the latest first. -/
def failures : Trace → List FailedCall
  | [] => []
  | e :: t => (e.failure? t).toList ++ failures t

/- A question tells of no failure. -/
theorem failures_of_question
    {e : Event}
    (hQuestion : e.call.isEffect = false)
    (t : Trace) :
    failures (e :: t) = failures t := by
  rcases e with ⟨call, answer⟩
  cases call <;> first | rfl | cases hQuestion

/- A failure is told by what has failed before. -/
theorem failure?_congr
    {t t' : Trace}
    (hSame : ∀ st, t.hasFailed st = t'.hasFailed st)
    (e : Event) :
    e.failure? t = e.failure? t' := by
  rcases e with ⟨call, answer⟩
  cases call <;> simp only [Event.failure?, hSame]

theorem failures_effects_append (t t' : Trace) :
    failures (t.effects ++ t') = failures (t ++ t') := by
  induction t with
  | nil => rfl
  | cons e t ih =>
      cases hEffect : e.call.isEffect with
      | true =>
          have hKept : effects (e :: t) = e :: effects t :=
            List.filter_cons_of_pos hEffect
          rw [hKept, List.cons_append, List.cons_append,
            failures, failures, ih,
            failure?_congr (hasFailed_effects_append t t')]
      | false =>
          have hLeft : effects (e :: t) = effects t :=
            List.filter_cons_of_neg (by simp [hEffect])
          rw [hLeft, ih, List.cons_append,
            failures_of_question hEffect]

end Trace

/- Calls that have an effect tell what has failed. -/
theorem Session.Hears.failures
    {l : Trace}
    (hHears : s.Hears l t) :
    t.world.trace.failures =
      (l ++ s.world.trace).failures := by
  rcases hHears with ⟨events, hTrace, rfl⟩
  rw [hTrace, ← Trace.failures_effects_append]

/- Asking tells of no failure. -/
theorem Session.Consulted.failures
    (hConsulted : s.Consulted t) :
    t.world.trace.failures = s.world.trace.failures :=
  (Hears.of_consulted hConsulted).failures

------------------------------------------------------------
-- Errors That Tell of Them
------------------------------------------------------------

/- The two kinds of errors that carry no SQL text. -/
theorem ErrorKind.carriesSql_eq_false {kind : ErrorKind} :
    kind.carriesSql = false ↔
      kind = .opening ∨ kind = .conversion := by
  cases kind <;> simp [carriesSql]

/-
  Whether an error tells of a failed call on a statement with
  a certain text:

    * `translates`: it says what the handle of the database
      tells about the code
    * `named`, `dropped`: it names the text, unless it is of
      one of the two kinds that carry none
-/
structure FailedCall.ToldBy
    (f : FailedCall)
    (describe : ResultCode → Bytes)
    (text : Bytes)
    (e : DatabaseError) : Prop where
  translates : ∃ h,
    DatabaseError.Translates describe h f.code f.phase text e
  named : e.kind ≠ .opening → e.kind ≠ .conversion →
    e.sql = text
  dropped : e.kind = .opening ∨ e.kind = .conversion →
    e.sql = []

/- The error of a handle tells of the call that has failed. -/
theorem FailedCall.toldBy_ofHandle
    (f : FailedCall)
    (describe : ResultCode → Bytes)
    (text : Bytes)
    (h : HandleError) :
    f.ToldBy describe text
      (.ofHandle describe h f.code f.phase text) := by
  have hTranslates : DatabaseError.Translates describe h
      f.code f.phase text
      (.ofHandle describe h f.code f.phase text) :=
    DatabaseError.ofHandle_translates h f.code f.phase text
  constructor
  case translates => exact ⟨h, hTranslates⟩
  case named =>
    intro hOpening hConversion
    have hCarries : (DatabaseError.ofHandle describe h f.code
        f.phase text).kind.carriesSql = true := by
      by_contra hNot
      rcases ErrorKind.carriesSql_eq_false.mp
        (Bool.eq_false_iff.mpr hNot) with hIs | hIs
      · exact hOpening hIs
      · exact hConversion hIs
    rw [hTranslates.sql, if_pos hCarries]
  case dropped =>
    intro hKind
    rw [hTranslates.sql,
      ErrorKind.carriesSql_eq_false.mpr hKind]
    rfl

/-
  Whether what is done between two sessions, on a statement
  with a certain text, raises what it tells of: nothing has
  failed, and an error is a refusal of this library, or one
  call has failed, and an error that tells of it is raised.
-/
inductive Session.Attributes
    (s : Session E)
    (text : Bytes)
    (result : Except Failure α)
    (t : Session E) : Prop where
  | quiet
      (hSame : t.world.trace.failures =
        s.world.trace.failures)
      (hRefused : ∀ e, result = .error (.database e) →
        ∃ r : Refusal, e = r.error)
  | raised {f e}
      (hNew : t.world.trace.failures =
        f :: s.world.trace.failures)
      (hRaised : result = .error (.database e))
      (hTold : f.ToldBy E.describe text e)

namespace Session.Attributes

variable {text : Bytes} {result : Except Failure α}

/- What a check finds is raised. -/
theorem of_decided
    {call : Call}
    {answer : call.Answer}
    {code : ResultCode}
    {phase : Phase}
    {result : Except Failure Unit}
    (hHears : s.Hears [⟨call, answer⟩] t)
    (hFailure : Event.failure? s.world.trace ⟨call, answer⟩ =
      FailedCall.ofCode? call code phase)
    (hDecided : Attempt.Decided E result code phase text) :
    s.Attributes text result t := by
  have hFailures := hHears.failures
  rw [List.singleton_append, Trace.failures, hFailure]
    at hFailures
  unfold Attempt.Decided at hDecided
  unfold FailedCall.ofCode? at hFailures
  split at hDecided
  case isTrue hCode =>
    rw [if_pos hCode] at hFailures
    subst hDecided
    exact .quiet hFailures nofun
  case isFalse hCode =>
    rw [if_neg hCode] at hFailures
    rcases hDecided with ⟨h, hRaised⟩
    exact .raised hFailures hRaised
      (FailedCall.toldBy_ofHandle _ _ _ _)

/- What a session does where nothing has failed before. -/
theorem of_same
    (hSame : u.world.trace.failures = s.world.trace.failures)
    (hAttributes : u.Attributes text result t) :
    s.Attributes text result t := by
  cases hAttributes with
  | quiet hNone hRefused =>
      exact .quiet (hNone.trans hSame) hRefused
  | raised hNew hRaised hTold =>
      exact .raised (hSame ▸ hNew) hRaised hTold

/- Nothing has failed where there is a result. -/
theorem failures_of_ok
    {a : α}
    (hAttributes : s.Attributes text (.ok a) t) :
    t.world.trace.failures = s.world.trace.failures := by
  cases hAttributes with
  | quiet hSame => exact hSame
  | raised _ hRaised => cases hRaised

/- Where a call has failed, an error is raised that tells it. -/
theorem raises
    {f : FailedCall}
    (hAttributes : s.Attributes text result t)
    (hFailed : t.world.trace.failures =
      f :: s.world.trace.failures) :
    ∃ e, result = .error (.database e) ∧
      f.ToldBy E.describe text e := by
  cases hAttributes with
  | quiet hSame =>
      have hMore := congrArg List.length
        (hSame.symm.trans hFailed)
      simp at hMore
  | raised hNew hRaised hTold =>
      cases hNew.symm.trans hFailed
      exact ⟨_, hRaised, hTold⟩

/- An error is raised whatever result was expected. -/
theorem of_error
    {e : Failure}
    (hAttributes :
      s.Attributes text (.error e : Except Failure α) t) :
    s.Attributes text (.error e : Except Failure β) t := by
  cases hAttributes with
  | quiet hSame hRefused =>
      refine .quiet hSame fun e' hError => ?_
      cases hError
      exact hRefused e' rfl
  | raised hNew hRaised hTold =>
      cases hRaised
      exact .raised hNew rfl hTold

end Session.Attributes

------------------------------------------------------------
-- Attempts That Raise Them
------------------------------------------------------------

/-
  Whether an attempt, made in a session on a statement with a
  certain text, raises what it tells of.
-/
def Attempt.Attributes
    (x : Attempt E α)
    (text : Bytes)
    (s : Session E) : Prop :=
  s.Attributes text (x.run s).1 (x.run s).2

namespace Attempt.Attributes

open Attempt

variable {text : Bytes} {x y : Attempt E α}
variable {k : α → Attempt E β}

/- An attempt that is refused has done nothing. -/
theorem of_refused
    {r : Refusal}
    (hRun : x.run s = (.error (.database r.error), s)) :
    x.Attributes text s := by
  unfold Attempt.Attributes
  rw [hRun]
  refine .quiet rfl fun e hError => ⟨r, ?_⟩
  cases hError
  rfl

/- An attempt that goes on from where nothing has failed. -/
theorem of_run
    (hRun : x.run s = y.run u)
    (hSame : u.world.trace.failures = s.world.trace.failures)
    (hAttributes : y.Attributes text u) :
    x.Attributes text s := by
  unfold Attempt.Attributes
  rw [hRun]
  exact hAttributes.of_same hSame

/- An attempt whose result does not depend on the engine. -/
theorem pure
    (a : α)
    (s : Session E) :
    (Pure.pure a : Attempt E α).Attributes text s :=
  .quiet rfl nofun

/- Asking is no failure. -/
theorem consults
    {q : Quiet E α}
    (hConsults : Quiet.Consults q)
    (s : Session E) :
    (lift q).Attributes text s :=
  .quiet (hConsults s).failures nofun

/- Requiring something is no failure. -/
theorem require
    (c : Bool)
    (r : Refusal)
    (s : Session E) :
    (Attempt.require c r : Attempt E Unit).Attributes text
      s := by
  cases hHolds : c with
  | true => exact .pure () s
  | false => exact .of_refused (run_require_of_false rfl r s)

/- An attempt goes on where its first part gives a result. -/
theorem bind
    (hFirst : x.Attributes text s)
    (hRest : ∀ {a u}, x.run s = (.ok a, u) →
      (k a).Attributes text u) :
    (x >>= k).Attributes text s := by
  unfold Attempt.Attributes at hFirst
  rcases hRun : x.run s with ⟨result, u⟩
  rw [hRun] at hFirst
  cases result with
  | error e =>
      unfold Attempt.Attributes
      rw [run_bind_of_error hRun]
      exact hFirst.of_error
  | ok a =>
      exact .of_run (run_bind_of_ok hRun)
        hFirst.failures_of_ok (hRest hRun)

end Attempt.Attributes

------------------------------------------------------------
-- Compiling
------------------------------------------------------------

namespace Statement

open Attempt

/- What the engine says about a text is raised. -/
theorem keep_raised
    {answer : PrepareAnswer}
    (hCode : answer.code ≠ ResultCode.ok)
    (p : Place)
    (c : ConnectionId)
    (db : DatabaseHandle)
    (sql : Bytes)
    (st : StatementHandle)
    (s : Session E) :
    Raised E ((keep p c db sql (st, answer)).run s).1
      answer.code .preparing sql := by
  rcases handleError_eq db answer.code .preparing sql s with
    ⟨h, hError⟩
  refine ⟨h, ?_⟩
  rw [← hError]
  unfold keep
  simp only [if_pos hCode]
  rw [run_bind_of_ok (run_lift _ s)]
  cases answer.created <;> rfl

/- What is kept of a text that was compiled. -/
theorem keep_attributes
    {sql : Bytes}
    {st : StatementHandle}
    {answer : PrepareAnswer}
    (hHears : s.Hears [⟨.prepare sql st, answer⟩] t)
    (p : Place)
    (c : ConnectionId)
    (db : DatabaseHandle) :
    s.Attributes sql
      ((keep p c db sql (st, answer)).run t).1
      ((keep p c db sql (st, answer)).run t).2 := by
  have hCalled : t.world.trace.failures =
      (FailedCall.ofCode? (.prepare sql st) answer.code
        .preparing).toList ++ s.world.trace.failures :=
    hHears.failures
  unfold FailedCall.ofCode? at hCalled
  by_cases hCode : answer.code = ResultCode.ok
  · rw [if_pos hCode] at hCalled
    cases hCreated : answer.created with
    | false =>
        rw [keep_of_empty hCode hCreated]
        refine .quiet hCalled fun e hError =>
          ⟨.noStatement sql, ?_⟩
        cases hError
        rfl
    | true =>
        rcases keep_of_created hCode hCreated p c db sql st t
          with ⟨t', hRun, -, hAfter, -⟩
        rw [hRun]
        exact .quiet (hAfter.failures.trans hCalled) nofun
  · rw [if_neg hCode] at hCalled
    rcases keep_raised hCode p c db sql st t with ⟨h, hRaised⟩
    refine .raised (Eq.trans ?_ hCalled) hRaised
      (FailedCall.toldBy_ofHandle _ _ _ _)
    -- giving a handle back is not compiling
    rcases keep_of_failed hCode p c db sql st t with
      ⟨e, t', hRun, ⟨-, hAfter⟩ | ⟨-, code, hAfter⟩⟩
    · rw [hRun]
      exact hAfter.heard.failures
    · rw [hRun]
      exact hAfter.heard.failures

/- A failure to compile a text names the text. -/
theorem prepare_attributes
    (c : ConnectionId)
    (p : Place)
    (sql : Bytes)
    (s : Session E) :
    (prepare c p sql).Attributes sql s := by
  cases hHandle : (s.world.connection c).handle with
  | none => exact .of_refused (prepare_of_closed hHandle p sql)
  | some db =>
      have hOpen := Connection.requireOpen_of_open hHandle
        "prepare"
      rw [prepare_eq]
      apply Attempt.Attributes.of_run (run_bind_of_ok hOpen) rfl
      cases requireText sql with
      | error refusal =>
          rw [accept_error_bind]
          exact .of_refused (run_refuse refusal s)
      | ok _ =>
          rw [accept_ok_bind]
          rcases compile_did db sql s with
            ⟨st, answer, t, hCompiled, -, -, hDid⟩
          unfold Attempt.Attributes
          rw [run_bind_of_ok (run_lift _ s), hCompiled]
          exact keep_attributes hDid.heard p c db

end Statement

------------------------------------------------------------
-- Requests of a Statement
------------------------------------------------------------

namespace Session.Knows

open Attempt

variable {p : Place} {c : ConnectionId}
variable {st : StatementHandle} {r : Statement}

/- A reset that fails names the text of its statement. -/
theorem reset_attributes
    (hKnows : s.Knows p c st r) :
    (Statement.reset p).Attributes r.sql s := by
  have hResets := hKnows.resets
  have hResult := hResets.result
  rw [hKnows.statement] at hResult
  cases hFailed : s.world.trace.hasFailed st with
  | true =>
      rw [if_pos hFailed] at hResult
      have hSilent := hResets.call.heard.failures
      simp only [List.singleton_append, Trace.failures,
        Event.failure?, if_pos hFailed] at hSilent
      exact .quiet hSilent (by rw [hResult]; nofun)
  | false =>
      rw [if_neg (by simp [hFailed])] at hResult
      refine .of_decided hResets.call.heard ?_ hResult
      simp [Event.failure?, hFailed]

/-
  What resets a statement that is done first raises what it
  tells of, if it does so for statements that are not done.
-/
theorem attributes_of_resetsFirst
    {x : Attempt E α}
    (hKnows : s.Knows p c st r)
    (hFirst : r.state = .done → x.ResetsFirst p s)
    (hThen : ∀ {t : Session E} {r' : Statement},
      t.Knows p c st r' → r'.state ≠ .done →
        x.Attributes r'.sql t) :
    x.Attributes r.sql s := by
  by_cases hDone : r.state = .done
  · apply Attempt.Attributes.of_run (hFirst hDone) rfl
    apply hKnows.reset_attributes.bind
    intro _ t hRun
    have hRewound := hKnows.rewound.2
    rw [← hKnows.reset_run, hRun] at hRewound
    exact @hThen t r.rewound hRewound nofun
  · exact hThen hKnows hDone

/- A call whose code is checked raises what it tells of. -/
theorem checked_attributes
    {call : Call}
    {code : call.Answer → ResultCode}
    {db : DatabaseHandle}
    {phase : Phase}
    {text : Bytes}
    (hEffect : call.isEffect = true)
    (hFailure : ∀ answer,
      Event.failure? s.world.trace ⟨call, answer⟩ =
        FailedCall.ofCode? call (code answer) phase) :
    (lift (Quiet.invoke call) >>= fun answer =>
      check db (code answer) phase text).Attributes text s := by
  unfold Attempt.Attributes
  rw [run_bind_of_ok (run_lift _ s)]
  exact .of_decided
    ((Hears.call hEffect s).trans
      (.of_consulted (check_consulted _ _ _ _ _)))
    (hFailure _) (check_decided _ _ _ _ _)

------------------------------------------------------------
-- Stepping
------------------------------------------------------------

/- A step that fails names the text of its statement. -/
theorem step_attributes
    (hKnows : s.Knows p c st r) :
    (Statement.step p).Attributes r.sql s := by
  apply hKnows.attributes_of_resetsFirst
    hKnows.step_resetsFirst
  intro t r' hKnows' hState
  have hAdvances := (hKnows'.stepped hState).1
  have hFailures := hAdvances.call.heard.failures
  rw [List.singleton_append, Trace.failures, Event.failure?]
    at hFailures
  split at hFailures
  case isTrue hGood =>
    refine .quiet hFailures fun e hError => ?_
    rcases hGood with hRow | hDone
    · cases (hAdvances.row hRow).symm.trans hError
    · cases (hAdvances.completed hDone).symm.trans hError
  case isFalse hBad =>
    rw [not_or] at hBad
    rcases hAdvances.raised hBad.1 hBad.2 with ⟨h, hRaised⟩
    rw [hKnows'.statement] at hRaised
    exact .raised hFailures hRaised
      (FailedCall.toldBy_ofHandle _ _ _ _)

theorem next_attributes
    (hKnows : s.Knows p c st r) :
    (Statement.next p).Attributes r.sql s :=
  hKnows.step_attributes.bind fun _ => .pure _ _

theorem fetch_attributes
    (hKnows : s.Knows p c st r) :
    (Statement.fetch p).Attributes r.sql s := by
  apply hKnows.step_attributes.bind
  intro result t _
  cases result with
  | completed => exact .pure _ _
  | row => exact .pure _ _

/- So does every step of a run to the end. -/
theorem drain_attributes
    {n : Nat}
    (hKnows : s.Knows p c st r) :
    (Statement.drain p n).Attributes r.sql s := by
  induction n generalizing s r with
  | zero => exact .quiet rfl nofun
  | succ n ih =>
      apply hKnows.step_attributes.bind
      intro result t hStep
      rcases hKnows.step_ok hStep with ⟨r', hKnows', -, hText⟩
      split
      case isTrue =>
        rw [← hText]
        exact ih hKnows'
      case isFalse => exact .pure _ _

/- And so does the reset that ends the run. -/
theorem execute_attributes
    (hKnows : s.Knows p c st r) :
    (Statement.execute p).Attributes r.sql s := by
  apply Attempt.Attributes.of_run
    (run_bind_of_ok (hKnows.requireHandle _)) rfl
  apply Attempt.Attributes.bind (.consults (.read _) s)
  rintro n _ ⟨⟩
  apply hKnows.drain_attributes.bind
  intro _ t hDrained
  rcases hKnows.drain_ok hDrained with ⟨r', hKnows', -, hText⟩
  apply Attempt.Attributes.bind (.consults (.ask rfl) t)
  rintro changed _ ⟨⟩
  have hLast := hKnows'.of_consulted
    (.asked (c := .changes st.database) rfl t)
  rw [← hText]
  apply Attempt.Attributes.bind
    (.of_run hLast.reset_run.symm rfl hLast.reset_attributes)
  exact fun _ => .pure _ _

------------------------------------------------------------
-- Binding
------------------------------------------------------------

/- A statement that is not done is not reset. -/
theorem rewindIfDone_run
    (hKnows : s.Knows p c st r)
    (hState : r.state ≠ .done) :
    (Statement.rewindIfDone p st).run s = (.ok (), s) := by
  unfold Statement.rewindIfDone Statement.lookup
  rw [run_read, hKnows.statement, if_neg hState]
  rfl

/- Clearing bindings names the text if it fails. -/
theorem clearBindings_attributes
    (hKnows : s.Knows p c st r) :
    (Statement.clearBindings p).Attributes r.sql s := by
  apply hKnows.attributes_of_resetsFirst
    hKnows.clearBindings_resetsFirst
  intro t r' hKnows' hState
  apply Attempt.Attributes.of_run
    (run_bind_of_ok (hKnows'.requireHandle _)) rfl
  by_cases hRow : r'.state = .row
  · exact .of_refused (run_bind_of_error
      (run_require_of_false
        (by simp [hKnows'.statement, hRow]) _ t))
  · apply Attempt.Attributes.of_run (run_bind_of_ok
      (run_require_of_true
        (by simp [hKnows'.statement, hRow]) _ t)) rfl
    apply Attempt.Attributes.of_run (run_bind_of_ok
      (hKnows'.rewindIfDone_run hState)) rfl
    apply Attempt.Attributes.of_run (run_read _ _ t) rfl
    rw [hKnows'.statement]
    exact checked_attributes rfl fun _ => rfl

/- Binding an argument names the text if it fails. -/
theorem bindArgument_attributes
    (hKnows : s.Knows p c st r)
    (index : Int)
    (argument : Argument) :
    (Statement.bindArgument p index argument).Attributes r.sql
      s := by
  by_cases hRefused : ∃ refusal : Refusal,
      (Statement.bindArgument p index argument).run s =
        (.error (.database refusal.error), s)
  · rcases hRefused with ⟨refusal, hRun⟩
    exact .of_refused hRun
  apply hKnows.attributes_of_resetsFirst
  · intro hDone
    exact (hKnows.bindArgument_resetsFirst hDone index
      argument).resolve_left hRefused
  intro t r' hKnows' hState
  rw [Statement.bindArgument_eq]
  cases argument.checked with
  | error refusal => exact .of_refused (run_refuse refusal t)
  | ok v =>
      rw [accept_ok_bind]
      by_cases hTakes : (t.world.statement p).Takes index
      · have hHandle : (t.world.statement p).handle = some st :=
          hKnows'.statement ▸ hKnows'.handle
        apply Attempt.Attributes.of_run
          (Statement.bindPayload_of_takes hTakes hHandle _ _)
          rfl
        apply Attempt.Attributes.of_run (run_bind_of_ok
          (hKnows'.rewindIfDone_run hState)) rfl
        apply Attempt.Attributes.of_run (run_read _ _ t) rfl
        rw [hKnows'.statement]
        exact checked_attributes rfl fun _ => rfl
      · rcases Statement.bindPayload_of_not_takes hTakes
          v.bindingName v.payload with ⟨refusal, hRun⟩
        exact .of_refused hRun

/- Looking a parameter up is no failure of the engine. -/
theorem requireParameterIndex_attributes
    (hKnows : s.Knows p c st r)
    (name text : Bytes) :
    (Statement.requireParameterIndex p name).Attributes text
      s := by
  apply Attempt.Attributes.of_run
    (Statement.requireParameterIndex_run
      (hKnows.statement ▸ hKnows.handle) name) rfl
  apply Attempt.Attributes.bind
    (.consults (Statement.searchNames_consults _ _) s)
  intro index t _
  apply Attempt.Attributes.of_run (run_read _ _ t) rfl
  apply Attempt.Attributes.bind (.require _ _ t)
  exact fun _ => .pure _ _

/- So does binding it to the parameter with a name. -/
theorem bindNamed_attributes
    (hKnows : s.Knows p c st r)
    (name : Bytes)
    (argument : Argument) :
    (Statement.bindNamed p name argument).Attributes r.sql
      s := by
  apply (hKnows.requireParameterIndex_attributes name
    r.sql).bind
  intro index t hRun
  have hConsulted := (Statement.requireParameterIndex_consults
    p name).consulted_of_run hRun
  exact (hKnows.of_consulted hConsulted).bindArgument_attributes
    index argument

end Session.Knows

------------------------------------------------------------
-- Sessions
------------------------------------------------------------

/-
  Whether what is asked of the statement at a place raises
  the failures it meets, and names the text of the statement
  in doing so.
-/
structure Session.AttributesRequests
    (s : Session E)
    (p : Place)
    (text : Bytes) : Prop where
  bind : ∀ index argument,
    (Statement.bindArgument p index argument).Attributes text s
  bindNamed : ∀ name argument,
    (Statement.bindNamed p name argument).Attributes text s
  clear : (Statement.clearBindings p).Attributes text s
  step : (Statement.step p).Attributes text s
  next : (Statement.next p).Attributes text s
  fetch : (Statement.fetch p).Attributes text s
  execute : (Statement.execute p).Attributes text s
  reset : (Statement.reset p).Attributes text s

/-
  Whether the errors of the engine name their SQL text:

    * `rests`: any operations lead to a world that is passed
    * `prepare`: what is said about a text names that text
    * `requests`: in every world that is passed, between two
      operations or inside of one, what is said about a
      statement names its text
-/
structure Session.AttributesErrors (s : Session E) : Prop where
  rests : ∀ ops : List Operation,
    s.Passes { hosted := s.hosted ops } (s.runAll ops).2.world
  prepare : ∀ (t : Session E) c p sql,
    (Statement.prepare c p sql).Attributes sql t
  requests : ∀ {k} {t : Session E} {p st},
    s.Passes k t.world →
      (t.world.statement p).handle = some st →
        t.AttributesRequests p (t.world.statement p).sql

namespace Session

/-
  On any engine, in any run, an error of the engine names the
  SQL text whose call has failed, unless it is about opening a
  database or about a conversion; those errors name no text.
-/
theorem errors_attributed
    (engine : E.State)
    (patience : Nat)
    (log : Log) :
    (start engine patience log :
      Session E).AttributesErrors := by
  have hStart := start_sound engine patience log
  constructor
  case rests =>
    intro ops
    have hSteps := runAll_steps ops hStart
    rw [List.append_nil] at hSteps
    exact hSteps
  case prepare =>
    exact fun t c p sql =>
      Statement.prepare_attributes c p sql t
  case requests =>
    intro k t p st hPasses hHandle
    have hHere : Sound ⟨k, t.world⟩ :=
      Steps.sound hStart hPasses
    rcases hHere.knows rfl hHandle with ⟨c, hKnows⟩
    exact
      { bind := hKnows.bindArgument_attributes
        bindNamed := hKnows.bindNamed_attributes
        clear := hKnows.clearBindings_attributes
        step := hKnows.step_attributes
        next := hKnows.next_attributes
        fetch := hKnows.fetch_attributes
        execute := hKnows.execute_attributes
        reset := hKnows.reset_attributes }

/- The session in which a step will violate a constraint. -/
def constraintSession : Session Engine.scripted :=
  ((start failingEngine 10 {}).runAll oneRowSetup).2

/- The call that will fail there. -/
def constraintCall : FailedCall :=
  { call := .step firstStatement
    code := ResultCode.constraint
    phase := .stepping }

/-
  There a step fails, and its error names the text of the
  statement.
-/
theorem errors_attributed_constraint :
    ∃ e,
      ((Statement.step (.slot 0)).run constraintSession).1 =
          .error (.database e) ∧
        e.kind = .constraint ∧
        e.sql = Bytes.ascii "S" := by
  have hText :
      (constraintSession.world.statement (.slot 0)).sql =
        Bytes.ascii "S" := by
    decide +kernel
  have hHandle :
      (constraintSession.world.statement (.slot 0)).handle =
        some firstStatement := by
    decide +kernel
  have hFailed :
      ((Statement.step (.slot 0)).run
        constraintSession).2.world.trace.failures =
          constraintCall ::
            constraintSession.world.trace.failures := by
    decide +kernel
  have hAll := errors_attributed failingEngine 10 {}
  have hPasses := hAll.rests oneRowSetup
  -- The session stays folded, so that nothing runs it again.
  rw [← constraintSession] at hPasses
  have hStep := (hAll.requests hPasses hHandle).step
  rcases Attributes.raises hStep hFailed with
    ⟨e, hRaised, hTold⟩
  have hKind : e.kind = .constraint := by
    rcases hTold.translates with ⟨h, hTranslates⟩
    have hRow := hTranslates.kind
    rw [DatabaseError.firstRow?_kindTable] at hRow
    exact (Option.some.inj hRow).symm
  have hNamed := hTold.named
    (by rw [hKind]; nofun) (by rw [hKind]; nofun)
  exact ⟨e, hRaised, hKind, hNamed.trans hText⟩

/- An engine that knows a statement whose step mismatches. -/
def mismatchEngine : Engine.scripted.State :=
  ({ script :=
      { programs :=
          [{ sql := Bytes.ascii "S"
             runs :=
              [{ outcomes :=
                  [{ ending :=
                      .failed { code := ResultCode.mismatch }
                   }] }] }] } } : Scripted.State)

/- The session in which that statement is prepared. -/
def mismatchSession : Session Engine.scripted :=
  ((start mismatchEngine 10 {}).runAll oneRowSetup).2

/-
  There a step fails, and its error does not name the text of
  the statement.
-/
theorem mismatch_unnamed :
    (mismatchSession.world.statement (.slot 0)).sql =
        Bytes.ascii "S" ∧
      ((Statement.step (.slot 0)).run
        mismatchSession).2.world.trace.failures =
          [{ call := .step firstStatement
             code := ResultCode.mismatch
             phase := .stepping }] ∧
      ((Statement.step (.slot 0)).run mismatchSession).1 =
        .error (.database
          { kind := .conversion
            message := Bytes.ascii
              "Conversion error: datatype mismatch"
            code := ResultCode.mismatch
            sql := []
            offset := none }) := by
  decide +kernel

end Session

end SqliteAccess
