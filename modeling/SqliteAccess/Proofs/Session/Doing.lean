import SqliteAccess.Proofs.Session.Changes
import SqliteAccess.Proofs.Session.Consulting
import SqliteAccess.Proofs.Session.Leads

/-
  What is done to the engine.

  A session is followed by the calls that have an effect; the
  questions between them are left out.  Most of what is done
  with a statement leaves the connections and the library as
  they are.

  Key definitions include:
    * `Trace.effects`
    * `Trace.Tidy`
    * `Session.Hears`
    * `Session.Did`
    * `Attempt.Raised`
    * `Attempt.Decided`

  The sessions are characterized by:
    * `Session.Hears.unfinalized`
    * `Session.Hears.hasFailed`
    * `Session.Did.trans`
    * `Session.Did.of_consulted`
    * `Session.Did.call`
    * `Attempt.check_decided`
-/

namespace SqliteAccess

variable {E : Engine} {s s' s'' : Session E} {l l' : Trace}

------------------------------------------------------------
-- Effects
------------------------------------------------------------

namespace Trace

/- The calls of a trace that have an effect. -/
def effects (t : Trace) : Trace :=
  t.filter (·.call.isEffect)

@[simp]
theorem effects_append (t t' : Trace) :
    effects (t ++ t') = t.effects ++ t'.effects :=
  List.filter_append t t'

/- Questions have no effect. -/
theorem effects_of_questions
    {t : Trace}
    (hQuestions : ∀ e ∈ t, e.call.isEffect = false) :
    t.effects = [] := by
  apply List.filter_eq_nil_iff.mpr
  intro e hMember
  rw [hQuestions e hMember]
  exact Bool.false_ne_true

/- A question neither makes a statement nor finalizes one. -/
theorem unfinalized_of_question
    {e : Event}
    (hQuestion : e.call.isEffect = false)
    (t : Trace) :
    unfinalized (e :: t) = unfinalized t := by
  rcases e with ⟨call, answer⟩
  cases call <;> first | rfl | cases hQuestion

/- What is left depends on what was left before. -/
theorem unfinalized_cons_congr
    {t t' : Trace}
    (hSame : unfinalized t = unfinalized t')
    (e : Event) :
    unfinalized (e :: t) = unfinalized (e :: t') := by
  rcases e with ⟨call, answer⟩
  cases call <;> simp only [unfinalized, hSame]

theorem unfinalized_effects_append (t t' : Trace) :
    unfinalized (t.effects ++ t') = unfinalized (t ++ t') := by
  induction t with
  | nil => rfl
  | cons e t ih =>
      cases hEffect : e.call.isEffect with
      | true =>
          have hKept : effects (e :: t) = e :: effects t :=
            List.filter_cons_of_pos hEffect
          rw [hKept]
          exact unfinalized_cons_congr ih e
      | false =>
          have hLeft : effects (e :: t) = effects t :=
            List.filter_cons_of_neg (by simp [hEffect])
          rw [hLeft]
          exact ih.trans
            (unfinalized_of_question hEffect _).symm

/- A question does not tell whether a step has failed. -/
theorem hasFailed_of_question
    {e : Event}
    (hQuestion : e.call.isEffect = false)
    (t : Trace)
    (st : StatementHandle) :
    hasFailed (e :: t) st = hasFailed t st := by
  rw [hasFailed_cons]
  rcases e with ⟨call, answer⟩
  cases call <;> first | rfl | cases hQuestion

theorem hasFailed_effects_append
    (t t' : Trace)
    (st : StatementHandle) :
    hasFailed (t.effects ++ t') st = hasFailed (t ++ t') st := by
  induction t with
  | nil => rfl
  | cons e t ih =>
      cases hEffect : e.call.isEffect with
      | true =>
          have hKept : effects (e :: t) = e :: effects t :=
            List.filter_cons_of_pos hEffect
          rw [hKept, List.cons_append, hasFailed_cons, ih,
            ← hasFailed_cons]
          rfl
      | false =>
          have hLeft : effects (e :: t) = effects t :=
            List.filter_cons_of_neg (by simp [hEffect])
          rw [hLeft]
          exact ih.trans
            (hasFailed_of_question hEffect _ st).symm

/-
  Whether calls finalize exactly the statements that they
  make.
-/
def Tidy (l : Trace) : Prop :=
  ∀ t : Trace, unfinalized (l ++ t) = unfinalized t

namespace Tidy

theorem nil : Tidy [] :=
  fun _ => rfl

theorem append
    (hFirst : l.Tidy)
    (hSecond : l'.Tidy) :
    Tidy (l' ++ l) := by
  intro t
  rw [List.append_assoc, hSecond, hFirst]

end Tidy

end Trace

------------------------------------------------------------
-- Calls of a Session
------------------------------------------------------------

/-
  Whether a session comes after another one by certain calls
  that have an effect, the latest first.
-/
def Session.Hears
    (s : Session E)
    (l : Trace)
    (s' : Session E) : Prop :=
  ∃ events : Trace,
    s'.world.trace = events ++ s.world.trace ∧
      events.effects = l

namespace Session.Hears

theorem of_trace
    (hTrace : s'.world.trace = s.world.trace) :
    s.Hears [] s' :=
  ⟨[], hTrace, rfl⟩

theorem trans
    (hFirst : s.Hears l s')
    (hSecond : s'.Hears l' s'') :
    s.Hears (l' ++ l) s'' := by
  rcases hFirst with ⟨events, hTrace, rfl⟩
  rcases hSecond with ⟨events', hTrace', rfl⟩
  refine ⟨events' ++ events, ?_, Trace.effects_append _ _⟩
  rw [hTrace', hTrace, List.append_assoc]

theorem of_consulted
    (hConsulted : s.Consulted s') :
    s.Hears [] s' := by
  rcases hConsulted with ⟨events, engine, rfl, hQuestions⟩
  exact ⟨events, rfl, Trace.effects_of_questions hQuestions⟩

/- One call that has an effect. -/
theorem call
    {c : Call}
    (hEffect : c.isEffect = true)
    (s : Session E) :
    s.Hears [⟨c, (Quiet.invoke c s).1⟩]
      (Quiet.invoke c s).2 :=
  ⟨[⟨c, (Quiet.invoke c s).1⟩], rfl,
    List.filter_cons_of_pos hEffect⟩

/- Calls that are tidy leave no other statement. -/
theorem unfinalized
    (hHears : s.Hears l s')
    (hTidy : l.Tidy) :
    s'.world.trace.unfinalized =
      s.world.trace.unfinalized := by
  rcases hHears with ⟨events, hTrace, rfl⟩
  rw [hTrace, ← Trace.unfinalized_effects_append, hTidy]

/- Calls that have an effect tell whether a step has failed. -/
theorem hasFailed
    (hHears : s.Hears l s')
    (st : StatementHandle) :
    s'.world.trace.hasFailed st =
      (l ++ s.world.trace).hasFailed st := by
  rcases hHears with ⟨events, hTrace, rfl⟩
  rw [hTrace, ← Trace.hasFailed_effects_append]

end Session.Hears

/-
  Whether a session comes after another one by certain calls
  and has the same connections and the same use of the engine.
-/
structure Session.Did
    (s : Session E)
    (l : Trace)
    (s' : Session E) : Prop where
  heard : s.Hears l s'
  connections : ∀ c,
    s'.world.connections.get? c = s.world.connections.get? c
  library : s'.world.library = s.world.library

namespace Session.Did

theorem refl (s : Session E) : s.Did [] s :=
  ⟨.of_trace rfl, fun _ => rfl, rfl⟩

theorem trans
    (hFirst : s.Did l s')
    (hSecond : s'.Did l' s'') :
    s.Did (l' ++ l) s'' where
  heard := hFirst.heard.trans hSecond.heard
  connections c :=
    (hSecond.connections c).trans (hFirst.connections c)
  library := hSecond.library.trans hFirst.library

theorem of_consulted
    (hConsulted : s.Consulted s') :
    s.Did [] s' where
  heard := .of_consulted hConsulted
  connections c := by
    rcases hConsulted with ⟨_, _, rfl, _⟩
    rfl
  library := by
    rcases hConsulted with ⟨_, _, rfl, _⟩
    rfl

/- One call that has an effect. -/
theorem call
    {c : Call}
    (hEffect : c.isEffect = true)
    (s : Session E) :
    s.Did [⟨c, (Quiet.invoke c s).1⟩]
      (Quiet.invoke c s).2 :=
  ⟨.call hEffect s, fun _ => rfl, rfl⟩

/- A line in the log. -/
theorem note
    (level : LogLevel)
    (message : String)
    (fields : List LogField)
    (s : Session E) :
    s.Did [] (Quiet.note level message fields s).2 :=
  ⟨.of_trace rfl, fun _ => rfl, rfl⟩

/- A change of statements alone. -/
theorem statement
    (p : Place)
    (f : Statement → Statement)
    (s : Session E) :
    s.Did []
      (Quiet.update (World.modifyStatement p f) s).2 := by
  unfold Quiet.update
  rw [World.modifyStatement_eq]
  exact ⟨.of_trace rfl, fun _ => rfl, rfl⟩

/- A connection that was found is found again. -/
theorem connection
    {c : ConnectionId}
    {conn : Connection}
    (hDid : s.Did l s')
    (hFound : s.world.connections.get? c = some conn) :
    s'.world.connections.get? c = some conn :=
  (hDid.connections c).trans hFound

end Session.Did

------------------------------------------------------------
-- Errors of the Engine
------------------------------------------------------------

namespace Attempt

/-
  Whether a result is the error of the engine for a call with
  a code, as the handle of the database describes it.
-/
def Raised
    {α : Type}
    (E : Engine)
    (result : Except Failure α)
    (code : ResultCode)
    (phase : Phase)
    (sql : Bytes) : Prop :=
  ∃ h : HandleError,
    result = .error (.database
      (.ofHandle E.describe h code phase sql))

/-
  Whether a result is decided by a code: a good one succeeds,
  and any other one raises the error of the engine.
-/
def Decided
    (E : Engine)
    (result : Except Failure Unit)
    (code : ResultCode)
    (phase : Phase)
    (sql : Bytes) : Prop :=
  if code = ResultCode.ok then
    result = .ok ()
  else
    Raised E result code phase sql

/- What is said about a call is an error for its code. -/
theorem handleError_eq
    (db : DatabaseHandle)
    (code : ResultCode)
    (phase : Phase)
    (sql : Bytes)
    (s : Session E) :
    ∃ h : HandleError,
      (handleError db code phase sql s).1 =
        .ofHandle E.describe h code phase sql := by
  unfold handleError
  simp only [Quiet.run_bind]
  split
  case isTrue => exact ⟨_, rfl⟩
  case isFalse => exact ⟨_, rfl⟩

theorem check_decided
    (db : DatabaseHandle)
    (code : ResultCode)
    (phase : Phase)
    (sql : Bytes)
    (s : Session E) :
    Decided E ((check db code phase sql).run s).1 code
      phase sql := by
  unfold Decided
  split
  case isTrue hCode =>
    rw [hCode, check_ok]
    rfl
  case isFalse hCode =>
    rcases handleError_eq db code phase sql s with ⟨h, hError⟩
    rw [check_of_ne hCode, run_bind_of_ok (run_lift _ s),
      hError]
    exact ⟨h, rfl⟩

/- A result is good if it is decided by a good code. -/
theorem Decided.isOk
    {result : Except Failure Unit}
    {code : ResultCode}
    {phase : Phase}
    {sql : Bytes}
    (hDecided : Decided E result code phase sql) :
    result.isOk = true ↔ code = ResultCode.ok := by
  unfold Decided at hDecided
  split at hDecided
  case isTrue hCode =>
    subst hDecided
    exact ⟨fun _ => hCode, fun _ => rfl⟩
  case isFalse hCode =>
    rcases hDecided with ⟨_, rfl⟩
    exact ⟨nofun, fun hOk => absurd hOk hCode⟩

/- A result passes its check if and only if it is good. -/
theorem check_isOk
    (db : DatabaseHandle)
    (code : ResultCode)
    (phase : Phase)
    (sql : Bytes)
    (s : Session E) :
    ((check db code phase sql).run s).1.isOk = true ↔
      code = ResultCode.ok :=
  (check_decided db code phase sql s).isOk

/- Whatever a check finds, it does nothing to the engine. -/
theorem check_did
    (db : DatabaseHandle)
    (code : ResultCode)
    (phase : Phase)
    (sql : Bytes)
    (s : Session E) :
    s.Did [] ((check db code phase sql).run s).2 :=
  .of_consulted (check_consulted db code phase sql s)

end Attempt

end SqliteAccess
