import SqliteAccess.Proofs.Operation.Run

/-
  How the library drives the statements of the engine.

  Parameters are bound and cleared only on a cursor that has
  not been stepped since it was last reset, a cursor that has
  run to its end is reset before it is stepped again, and
  columns are read only on a row.  The state that a statement
  reports is the one that the trace tells.

  Key definitions include:
    * `Event.compiles`
    * `Trace.Rewound`
    * `Trace.OnRow`
    * `Trace.CursorProtocol`

  The protocol is characterized by:
    * `Session.cursor_protocol`
-/

namespace SqliteAccess

variable {E : Engine}

------------------------------------------------------------
-- The Protocol
------------------------------------------------------------

/- Whether a call has compiled a statement. -/
def Event.compiles (st : StatementHandle) : Event → Bool
  | ⟨.prepare _ st', answer⟩ => st' = st && answer.created
  | _ => false

namespace Trace

/-
  Whether a cursor has not been stepped since it was compiled
  or last reset.
-/
def Rewound
    (t : Trace)
    (st : StatementHandle) : Prop :=
  ∃ since e before, t = since ++ e :: before ∧
    (e.compiles st ∨ e.call = .reset st) ∧
      ∀ e' ∈ since, e'.call ≠ .step st

/-
  Whether a cursor has not been moved since it was stepped
  onto a row.
-/
def OnRow
    (t : Trace)
    (st : StatementHandle) : Prop :=
  ∃ since before,
    t = since ++ ⟨.step st, ResultCode.row⟩ :: before ∧
      ∀ e ∈ since, e.isTransitionOf st = false

/-
  Whether the calls of a trace keep to the protocol that the
  engine asks for:

    * `bound`, `cleared`: parameters are bound, at an index
      that exists, and cleared on rewound cursors only
    * `stepped`: between a step that answered no row and any
      later step of the same cursor there is a reset
    * `read`: columns are read on a row only, at an index that
      exists
-/
structure CursorProtocol (t : Trace) : Prop where
  bound : ∀ later e earlier st (index : Int) payload,
    t = later ++ e :: earlier →
      e.call = .bind st index payload →
        Rewound earlier st ∧ 1 ≤ index ∧
          ∃ count : Nat, parameters earlier st = some count ∧
            index ≤ count
  cleared : ∀ later e earlier st,
    t = later ++ e :: earlier → e.call = .clearBindings st →
      Rewound earlier st
  stepped : ∀ later e between st code earlier,
    t = later ++ e :: (between ++
        ⟨.step st, code⟩ :: earlier) →
      e.call = .step st → code ≠ ResultCode.row →
        ∃ e' ∈ between, e'.call = .reset st
  read : ∀ later e earlier st (index : Int),
    t = later ++ e :: earlier →
      e.call.column? = some (st, index) →
        OnRow earlier st ∧ 0 ≤ index ∧
          ∃ count : Nat, columns earlier st = some count ∧
            index < count

end Trace

/-
  Whether every statement reports the state that the trace
  tells of its cursor, and is finalized if it has none.
-/
def World.StatesTold (w : World E) : Prop :=
  ∀ p s, w.statements.get? p = some s →
    match s.handle with
    | some st => s.state = w.trace.stateOf st
    | none => s.state = .finalized

------------------------------------------------------------
-- What the State Tells
------------------------------------------------------------

section States

variable {hosted : List StatementHandle} {t : Trace}
variable {st : StatementHandle} {e : Event}

/- Only compiling and resetting make a statement ready. -/
theorem Event.stateSet_eq_ready
    (hSet : e.stateSet st = some .ready) :
    e.compiles st ∨ e.call = .reset st := by
  rcases e with ⟨c, a⟩
  cases c <;> try cases hSet
  case prepare =>
    left
    simpa [Event.stateSet, Event.compiles] using hSet
  case step =>
    simp only [Event.stateSet, Option.ite_none_right_eq_some]
      at hSet
    rcases hSet with ⟨_, hSet⟩
    split at hSet <;> cases hSet
  case reset =>
    right
    simpa [Event.stateSet] using hSet
  case finalize => simp [Event.stateSet] at hSet

/- Only a step that answers a row leads onto one. -/
theorem Event.stateSet_eq_row
    (hSet : e.stateSet st = some .row) :
    e = ⟨.step st, ResultCode.row⟩ := by
  rcases e with ⟨c, a⟩
  cases c <;> try cases hSet
  case prepare => simp [Event.stateSet] at hSet
  case step => simp_all [Event.stateSet]
  case reset => simp [Event.stateSet] at hSet
  case finalize => simp [Event.stateSet] at hSet

/- A call that sets no state moves no cursor. -/
theorem Event.still_of_stateSet
    (hNone : e.stateSet st = none) :
    e.isTransitionOf st = false ∧ e.call ≠ .step st := by
  rcases e with ⟨c, a⟩
  cases c <;> try exact ⟨rfl, Call.noConfusion⟩
  all_goals
    simp_all [Event.stateSet, Event.isTransitionOf]

/- A column is read on a row. -/
theorem Event.Conforms.of_column
    {index : Int}
    (hConforms : e.Conforms t)
    (hColumn : e.call.column? = some (st, index)) :
    t.stateOf st = .row ∧ 0 ≤ index ∧
      ∃ count : Nat, t.columns st = some count ∧
        index < count := by
  rcases e with ⟨c, a⟩
  cases c <;>
    first
    | exact hConforms st index hColumn
    | cases hColumn

namespace Trace

/- The call that set a state, and that none has set it since. -/
theorem exists_of_stateOf
    {state : StatementState}
    (hState : t.stateOf st = state)
    (hLives : state ≠ .finalized) :
    ∃ since e before, t = since ++ e :: before ∧
      e.stateSet st = some state ∧
        ∀ e' ∈ since, e'.stateSet st = none := by
  unfold stateOf at hState
  cases hFound : t.findSome? (·.stateSet st) with
  | none =>
      rw [hFound] at hState
      exact absurd hState.symm hLives
  | some found =>
      rw [hFound] at hState
      cases hState
      exact List.findSome?_eq_some_iff.mp hFound

/- A cursor that is ready has been rewound. -/
theorem rewound_of_ready
    (hReady : t.stateOf st = .ready) :
    t.Rewound st := by
  rcases exists_of_stateOf hReady (by simp) with
    ⟨since, e, before, hSplit, hSet, hNone⟩
  exact ⟨since, e, before, hSplit,
    Event.stateSet_eq_ready hSet,
    fun e' hSince =>
      (Event.still_of_stateSet (hNone e' hSince)).2⟩

/- A cursor that is on a row was stepped there. -/
theorem onRow_of_row
    (hRow : t.stateOf st = .row) :
    t.OnRow st := by
  rcases exists_of_stateOf hRow (by simp) with
    ⟨since, e, before, hSplit, hSet, hNone⟩
  rw [Event.stateSet_eq_row hSet] at hSplit
  exact ⟨since, before, hSplit,
    fun e' hSince =>
      (Event.still_of_stateSet (hNone e' hSince)).1⟩

/-
  Once a step has answered no row, a cursor stays done, if it
  is not finalized, until it is reset.
-/
theorem done_until_reset
    {between earlier : Trace}
    {code : ResultCode}
    (hLawful :
      Lawful hosted (between ++ ⟨.step st, code⟩ :: earlier))
    (hCode : code ≠ ResultCode.row)
    (hNever : ∀ e ∈ between, e.call ≠ .reset st) :
    stateOf (between ++ ⟨.step st, code⟩ :: earlier) st =
        .done ∨
      stateOf (between ++ ⟨.step st, code⟩ :: earlier) st =
        .finalized := by
  induction between with
  | nil =>
      left
      simp [stateOf_cons, Event.stateSet, hCode]
  | cons e between ih =>
      rcases hLawful with ⟨hOrder, hBefore⟩
      have hEnded := ih hBefore
        fun e' hBetween => hNever e' (.tail _ hBetween)
      have hNotReset := hNever e (.head _)
      have hAlive := (hBefore.of_append.statements st).2
        (by simp [Call.statement?])
        (by simp [Call.makesStatement])
      have hSuffix :=
        (List.suffix_cons ⟨.step st, code⟩ earlier).trans
          (List.suffix_append between _)
      have hBirths := Lifetime.births_ne_zero_of_suffix
        hSuffix (Lifetime.births_ne_zero_of_alive hAlive)
      have hNotMade :=
        (hOrder.statements st).makes_eq_false hBirths
      have hConforms := hOrder.conforms
      rw [List.cons_append, stateOf_cons]
      rcases e with ⟨c, a⟩
      cases c
      case prepare =>
        simp_all [Event.stateSet, Call.makesStatement,
          Call.statement?]
      case step st' =>
        simp only [Event.Conforms] at hConforms
        by_cases hSame : st' = st
        · subst hSame
          rcases hEnded with hIs | hIs <;>
            simp [hIs] at hConforms
        · simpa [Event.stateSet, hSame] using hEnded
      case reset st' =>
        have hOther : st' ≠ st := by simpa using hNotReset
        simpa [Event.stateSet, hOther] using hEnded
      case finalize st' =>
        by_cases hSame : st' = st
        · simp [Event.stateSet, hSame]
        · simpa [Event.stateSet, hSame] using hEnded
      all_goals simpa [Event.stateSet] using hEnded

/- Calls that come in order keep to the protocol. -/
theorem Lawful.cursorProtocol
    (hLawful : t.Lawful hosted) :
    t.CursorProtocol where
  bound := by
    rintro later ⟨c, a⟩ earlier st index payload rfl hCall
    cases hCall
    rcases hLawful.of_append.conforms with ⟨hReady, hRange⟩
    exact ⟨rewound_of_ready hReady, hRange⟩
  cleared := by
    rintro later ⟨c, a⟩ earlier st rfl hCall
    cases hCall
    exact rewound_of_ready hLawful.of_append.conforms
  stepped := by
    rintro later ⟨c, a⟩ between st code earlier rfl hCall
      hCode
    cases hCall
    have hGoes := hLawful.of_append.conforms
    simp only [Event.Conforms] at hGoes
    refine Decidable.byContradiction fun hNone => ?_
    have hEnded := done_until_reset hLawful.suffix.2 hCode
      fun e hBetween hReset => hNone ⟨e, hBetween, hReset⟩
    rcases hEnded with hIs | hIs <;> simp [hIs] at hGoes
  read := by
    rintro later e earlier st index rfl hColumn
    rcases hLawful.of_append.conforms.of_column hColumn with
      ⟨hRow, hRange⟩
    exact ⟨onRow_of_row hRow, hRange⟩

end Trace

end States

------------------------------------------------------------
-- Reachable Sessions
------------------------------------------------------------

/- A statement reports what the trace tells of its cursor. -/
theorem Sound.statesTold
    {g : Stage E}
    (hSound : Sound g) :
    g.world.StatesTold := by
  intro p s hStatement
  cases hHandle : s.handle with
  | none => exact hSound.linked.ended hStatement hHandle
  | some st =>
      have hFollows :=
        hSound.linked.follows hStatement hHandle
      exact hFollows.state.symm

theorem Session.cursorProtocol_of_sound
    {s : Session E}
    {h : List StatementHandle}
    (hSound : Sound (s.rest h)) :
    s.world.trace.CursorProtocol ∧ s.world.StatesTold :=
  ⟨hSound.lawful.cursorProtocol, hSound.statesTold⟩

/-
  On every engine, all operations and the end of a session
  keep to the protocol, and between operations statements
  report what the trace tells.
-/
theorem Session.cursor_protocol
    (engine : E.State)
    (patience : Nat)
    (log : Log)
    (ops : List Operation) :
    (((start engine patience log).runAll
        ops).2.world.trace.CursorProtocol ∧
      ((start engine patience log).runAll
        ops).2.world.StatesTold) ∧
      ((start engine patience log).runAll
        ops).2.dismantle.world.trace.CursorProtocol := by
  have hSound := reachable_sound engine patience log ops
  have hEnd := (dismantle_steps hSound).1.sound hSound
  exact ⟨cursorProtocol_of_sound hSound,
    (cursorProtocol_of_sound hEnd).1⟩

end SqliteAccess
