import SqliteAccess.Proofs.Trace.Lifetime
import SqliteAccess.Statement.Basic

/-
  What a trace tells about the statement handles in it.

  Key definitions include:
    * `Trace.stateOf`
    * `Trace.transitions`
    * `Trace.hasFailed`
    * `Trace.parameters`
    * `Trace.columns`
    * `Event.Still`
    * `Event.Silent`
    * `Trace.RestsSince`
-/

namespace SqliteAccess

------------------------------------------------------------
-- Single Calls
------------------------------------------------------------

namespace Event

/- The state in which a call leaves a statement handle. -/
def stateSet
    (st : StatementHandle) : Event → Option StatementState
  | ⟨.prepare _ st', answer⟩ =>
      if st' = st ∧ answer.created then some .ready else none
  | ⟨.step st', code⟩ =>
      if st' = st then
        some (if code = ResultCode.row then .row else .done)
      else
        none
  | ⟨.reset st', _⟩ =>
      if st' = st then some .ready else none
  | ⟨.finalize st', _⟩ =>
      if st' = st then some .finalized else none
  | _ => none

/-
  Whether a call moves the cursor of a statement handle: it
  is stepped, reset or finalized.
-/
def isTransitionOf
    (st : StatementHandle) : Event → Bool
  | ⟨.step st', _⟩ => st' = st
  | ⟨.reset st', _⟩ => st' = st
  | ⟨.finalize st', _⟩ => st' = st
  | _ => false

/-
  Whether a call leaves a statement handle with a step that
  failed: a step does if it answers neither a row nor the
  end, and compiling or resetting it does not.
-/
def failureSet
    (st : StatementHandle) : Event → Option Bool
  | ⟨.prepare _ st', answer⟩ =>
      if st' = st ∧ answer.created then some false else none
  | ⟨.step st', code⟩ =>
      if st' = st ∧ code ≠ ResultCode.row ∧
          code ≠ ResultCode.done then
        some true
      else
        none
  | ⟨.reset st', _⟩ =>
      if st' = st then some false else none
  | _ => none

/- The number of parameters that a statement has told. -/
def parametersTold
    (st : StatementHandle) : Event → Option Nat
  | ⟨.parameterCount st', count⟩ =>
      if st' = st then some count else none
  | _ => none

/- The number of columns that a statement has told. -/
def columnsTold
    (st : StatementHandle) : Event → Option Nat
  | ⟨.columnCount st', count⟩ =>
      if st' = st then some count else none
  | _ => none

end Event

------------------------------------------------------------
-- Traces
------------------------------------------------------------

namespace Trace

/-
  The state of a statement handle: ready after it was
  compiled or reset, on a row after a step that answered one,
  done after any other step.  A handle that does not exist,
  or no longer, counts as finalized.
-/
def stateOf
    (t : Trace)
    (st : StatementHandle) : StatementState :=
  (t.findSome? (·.stateSet st)).getD .finalized

/- How often the cursor of a statement was moved. -/
def transitions
    (t : Trace)
    (st : StatementHandle) : Nat :=
  t.countP (·.isTransitionOf st)

/-
  Whether a step of a statement handle has failed since it
  was compiled or reset.
-/
def hasFailed
    (t : Trace)
    (st : StatementHandle) : Bool :=
  (t.findSome? (·.failureSet st)).getD false

/- The number of parameters that a statement told last. -/
def parameters
    (t : Trace)
    (st : StatementHandle) : Option Nat :=
  t.findSome? (·.parametersTold st)

/- The number of columns that a statement told last. -/
def columns
    (t : Trace)
    (st : StatementHandle) : Option Nat :=
  t.findSome? (·.columnsTold st)

------------------------------------------------------------
-- One More Call
------------------------------------------------------------

theorem stateOf_cons
    (e : Event)
    (t : Trace)
    (st : StatementHandle) :
    stateOf (e :: t) st =
      (e.stateSet st).getD (stateOf t st) := by
  simp only [stateOf, List.findSome?_cons]
  cases e.stateSet st <;> rfl

theorem hasFailed_cons
    (e : Event)
    (t : Trace)
    (st : StatementHandle) :
    hasFailed (e :: t) st =
      (e.failureSet st).getD (hasFailed t st) := by
  simp only [hasFailed, List.findSome?_cons]
  cases e.failureSet st <;> rfl

theorem parameters_cons
    (e : Event)
    (t : Trace)
    (st : StatementHandle) :
    parameters (e :: t) st =
      (e.parametersTold st).or (parameters t st) := by
  simp only [parameters, List.findSome?_cons]
  cases e.parametersTold st <;> rfl

theorem columns_cons
    (e : Event)
    (t : Trace)
    (st : StatementHandle) :
    columns (e :: t) st =
      (e.columnsTold st).or (columns t st) := by
  simp only [columns, List.findSome?_cons]
  cases e.columnsTold st <;> rfl

theorem transitions_cons
    (e : Event)
    (t : Trace)
    (st : StatementHandle) :
    transitions (e :: t) st =
      transitions t st +
        if e.isTransitionOf st then 1 else 0 := by
  simp [transitions, List.countP_cons]

end Trace

------------------------------------------------------------
-- Calls That Tell Nothing New
------------------------------------------------------------

namespace Event

/- Whether a call leaves the cursor of a statement alone. -/
structure Still
    (st : StatementHandle)
    (e : Event) : Prop where
  state : e.stateSet st = none
  transition : e.isTransitionOf st = false

/-
  Whether a call leaves the cursor of a statement alone and
  does not make it tell its numbers.
-/
structure Silent
    (st : StatementHandle)
    (e : Event) : Prop extends Still st e where
  parameters : e.parametersTold st = none
  columns : e.columnsTold st = none

variable {st : StatementHandle} {e : Event} {t : Trace}

/- A call says nothing about handles that it does not name. -/
theorem silent_of_ne
    (hOther : e.call.statement? ≠ some st) :
    e.Silent st := by
  rcases e with ⟨c, a⟩
  refine { state := ?_, transition := ?_, parameters := ?_,
           columns := ?_ }
  · cases c <;> try rfl
    all_goals simp_all [Call.statement?, stateSet]
  · cases c <;> try rfl
    all_goals simp_all [Call.statement?, isTransitionOf]
  · cases c <;> try rfl
    all_goals simp_all [Call.statement?, parametersTold]
  · cases c <;> try rfl
    all_goals simp_all [Call.statement?, columnsTold]

theorem Still.stateOf
    (hStill : e.Still st) :
    Trace.stateOf (e :: t) st = t.stateOf st := by
  simp [Trace.stateOf_cons, hStill.state]

theorem Still.transitions
    (hStill : e.Still st) :
    Trace.transitions (e :: t) st = t.transitions st := by
  simp [Trace.transitions_cons, hStill.transition]

theorem Still.failure
    (hStill : e.Still st) :
    e.failureSet st = none := by
  rcases hStill with ⟨hState, hMoves⟩
  rcases e with ⟨c, a⟩
  cases c <;> try rfl
  all_goals
    simp_all [stateSet, isTransitionOf, failureSet]

theorem Still.hasFailed
    (hStill : e.Still st) :
    Trace.hasFailed (e :: t) st = t.hasFailed st := by
  simp [Trace.hasFailed_cons, hStill.failure]

theorem Silent.parameters_cons
    (hSilent : e.Silent st) :
    Trace.parameters (e :: t) st = t.parameters st := by
  simp [Trace.parameters_cons, hSilent.parameters]

theorem Silent.columns_cons
    (hSilent : e.Silent st) :
    Trace.columns (e :: t) st = t.columns st := by
  simp [Trace.columns_cons, hSilent.columns]

end Event

/- A call that moves a cursor names it and does not make it. -/
theorem Event.names_of_isTransitionOf
    {e : Event}
    {st : StatementHandle}
    (hMoves : e.isTransitionOf st) :
    (Lifetime.statement st).names e ∧
      (Lifetime.statement st).makes e = false := by
  rcases e with ⟨c, a⟩
  cases c <;> try cases hMoves
  all_goals
    simp_all [Event.isTransitionOf, Call.statement?,
      Call.makesStatement]

/-
  The cursor of a statement handle that was never created was
  never moved.
-/
theorem Trace.transitions_eq_zero
    {t : Trace}
    {st : StatementHandle}
    (hRespected : (Lifetime.statement st).Respected t)
    (hBirths : (Lifetime.statement st).births t = 0) :
    t.transitions st = 0 := by
  induction t with
  | nil => rfl
  | cons e t ih =>
      rw [Lifetime.births_cons] at hBirths
      have hBefore : (Lifetime.statement st).births t = 0 := by
        omega
      have hNone := ih hRespected.2 hBefore
      rw [Trace.transitions_cons, hNone]
      cases hMoves : e.isTransitionOf st with
      | false => rfl
      | true =>
          rcases Event.names_of_isTransitionOf hMoves with
            ⟨hNames, hMakes⟩
          have hAlive := hRespected.1.2 hNames hMakes
          exact absurd hBefore
            (Lifetime.births_ne_zero_of_alive hAlive)

/- Nor has a step of it failed. -/
theorem Trace.hasFailed_of_transitions
    {t : Trace}
    {st : StatementHandle}
    (hNone : t.transitions st = 0) :
    t.hasFailed st = false := by
  induction t with
  | nil => rfl
  | cons e t ih =>
      rw [Trace.transitions_cons] at hNone
      have hBefore := ih (by omega)
      have hRests : e.isTransitionOf st = false := by
        cases hMoves : e.isTransitionOf st with
        | false => rfl
        | true =>
            rw [hMoves, if_pos rfl] at hNone
            omega
      rw [Trace.hasFailed_cons, hBefore]
      rcases e with ⟨c, a⟩
      cases c <;> try rfl
      all_goals
        simp_all [Event.isTransitionOf, Event.failureSet]
      split <;> rfl

------------------------------------------------------------
-- Cursors at Rest
------------------------------------------------------------

/- Whether a call moves the cursor of some statement. -/
def Event.isTransition : Event → Bool
  | ⟨.step _, _⟩ => true
  | ⟨.reset _, _⟩ => true
  | ⟨.finalize _, _⟩ => true
  | _ => false

namespace Trace

variable {t t₀ t₁ : Trace} {st : StatementHandle}

/- How often the cursors of all statements were moved. -/
def moves (t : Trace) : Nat :=
  t.countP Event.isTransition

/- Whether a cursor was not moved since an earlier moment. -/
def RestsSince
    (t : Trace)
    (st : StatementHandle)
    (t₀ : Trace) : Prop :=
  ∃ later, t = later ++ t₀ ∧
    ∀ e ∈ later, e.isTransitionOf st = false

theorem transitions_le_moves
    (t : Trace)
    (st : StatementHandle) :
    t.transitions st ≤ t.moves := by
  apply List.countP_mono_left
  rintro ⟨c, a⟩ _ hMoves
  cases c <;> first | rfl | cases hMoves

theorem transitions_mono
    (hSuffix : t₀ <:+ t)
    (st : StatementHandle) :
    t₀.transitions st ≤ t.transitions st :=
  hSuffix.sublist.countP_le

/- A cursor rests while its moves are as many as before. -/
theorem restsSince_iff
    (hSuffix : t₀ <:+ t) :
    t.RestsSince st t₀ ↔
      t.transitions st = t₀.transitions st := by
  rcases hSuffix with ⟨later, rfl⟩
  have hSum : transitions (later ++ t₀) st =
      transitions later st + transitions t₀ st :=
    List.countP_append
  rw [hSum]
  constructor
  · rintro ⟨later', hSplit, hRests⟩
    rw [List.append_cancel_right hSplit, transitions,
      List.countP_eq_zero.mpr (by simpa using hRests)]
    omega
  · intro hSame
    refine ⟨later, rfl, ?_⟩
    have hNone : transitions later st = 0 := by omega
    simpa using List.countP_eq_zero.mp hNone

/- A cursor that rests has rested all the time. -/
theorem RestsSince.of_suffix
    (hRests : t.RestsSince st t₀)
    (hEarlier : t₀ <:+ t₁)
    (hLater : t₁ <:+ t) :
    t₁.RestsSince st t₀ := by
  rw [restsSince_iff hEarlier]
  have hSame :=
    (restsSince_iff (hEarlier.trans hLater)).mp hRests
  have hFirst := transitions_mono hEarlier st
  have hSecond := transitions_mono hLater st
  omega

/- A statement that exists keeps its state at rest. -/
theorem RestsSince.stateOf
    (hRests : t.RestsSince st t₀)
    (hRespected : (Lifetime.statement st).Respected t)
    (hBirths : (Lifetime.statement st).births t₀ ≠ 0) :
    t.stateOf st = t₀.stateOf st := by
  rcases hRests with ⟨later, rfl, hStill⟩
  induction later with
  | nil => rfl
  | cons e later ih =>
      have hBefore := ih
        (fun e' hLater => hStill e' (.tail _ hLater))
        hRespected.2
      rw [List.cons_append, stateOf_cons, hBefore]
      have hSome := Lifetime.births_ne_zero_of_suffix
        (List.suffix_append later t₀) hBirths
      have hNotMade := hRespected.1.makes_eq_false hSome
      have hNotMoved := hStill e (.head _)
      rcases e with ⟨c, a⟩
      cases c <;> try rfl
      all_goals
        simp_all [Event.stateSet, Event.isTransitionOf,
          Call.makesStatement, Call.statement?]

end Trace

end SqliteAccess
