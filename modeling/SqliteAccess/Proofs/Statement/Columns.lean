import SqliteAccess.Proofs.Statement.Execution
import SqliteAccess.Statement.Columns

/-
  Reading columns, step by step.

  Reading changes no object, and asks only the cursor that is
  read, or its database why there is no text.

  Key definitions include:
    * `Statement.Reads`
    * `Stage.Reads`

  The programs are characterized by:
    * `Statement.readColumns_leads`
    * `Statement.columnValue_leads`
    * `Statement.columnType_leads`
-/

namespace SqliteAccess

variable {E : Engine} {α β : Type} {A : Part → Prop}
variable {g g' g'' : Stage E} {p : Place}
variable {s : Statement} {st : StatementHandle}
variable {index : Int}

------------------------------------------------------------
-- Stages After Reads
------------------------------------------------------------

/- Whether a call is made to read the row of a statement. -/
def Statement.Reads
    (s : Statement)
    (c : Call) : Prop :=
  ∃ st, s.handle = some st ∧
    ((∃ index, c.column? = some (st, index)) ∨
      c = .errorCode st.database)

/- Whether a stage comes after another by reading a row. -/
def Stage.Reads
    (p : Place)
    (g g' : Stage E) : Prop :=
  ∃ events engine,
    (∀ e ∈ events,
      (g.world.statement p).Reads (Event.call e)) ∧
    g' =
      { g with
        world :=
          { g.world with
            trace := events ++ g.world.trace, engine } }

namespace Stage.Reads

theorem refl (g : Stage E) : g.Reads p g :=
  ⟨[], g.world.engine, by simp, rfl⟩

theorem trans
    (hFirst : g.Reads p g')
    (hSecond : g'.Reads p g'') :
    g.Reads p g'' := by
  rcases hFirst with ⟨events, engine, hEvents, rfl⟩
  rcases hSecond with ⟨events', engine', hEvents', rfl⟩
  refine ⟨events' ++ events, engine', ?_, by simp⟩
  intro e hMem
  rcases List.mem_append.mp hMem with hMem | hMem
  · exact hEvents' e hMem
  · exact hEvents e hMem

theorem heard
    {e : Event}
    (hReads : g.Reads p g')
    (hCall : (g.world.statement p).Reads e.call)
    (engine : E.State) :
    g.Reads p (g'.heard e engine) := by
  rcases hReads with ⟨events, _, hEvents, rfl⟩
  refine ⟨e :: events, engine, ?_, rfl⟩
  intro e' hMem
  rcases List.mem_cons.mp hMem with rfl | hMem
  · exact hCall
  · exact hEvents e' hMem

theorem asked
    (hReads : g.Reads p g') :
    g.Asked g' := by
  rcases hReads with ⟨_, _, _, rfl⟩
  exact ⟨_, _, rfl⟩

end Stage.Reads

/-
  Whether a cursor is that of a statement on a row with a
  given column.
-/
def Stage.HasColumn
    (g : Stage E)
    (p : Place)
    (st : StatementHandle)
    (index : Int) : Prop :=
  ∃ s, g.world.statements.get? p = some s ∧
    s.handle = some st ∧ s.state = .row ∧ 0 ≤ index ∧
      index < (s.columnNames.length : Int)

------------------------------------------------------------
-- Checks
------------------------------------------------------------

namespace Attempt.Leads

variable {Q : β → Stage E → Prop} {F : Stage E → Prop}

/- The cursor of a statement on a row, or a refusal. -/
theorem requireRow
    {operation : String}
    {k : StatementHandle → Attempt E β}
    (hRow : ∀ s st, g.world.statements.get? p = some s →
      s.handle = some st → s.state = .row →
        Leads A g g.world (k st) Q F)
    (hNone : F g) :
    Leads A g g.world
      (Statement.requireRow p operation >>= k) Q F := by
  apply bind
  unfold Statement.requireRow
  apply requireHandle
  case hNone => exact hNone
  intro st hHandle
  rcases World.get?_of_statement_handle hHandle with
    ⟨s, hStatement, hOwn⟩
  apply read
  apply require
  · intro hState
    rw [World.statement_of_get? hStatement] at hState
    exact pure
      (hRow s st hStatement hOwn (of_decide_eq_true hState))
  · exact fun _ => hNone

/- An index of a column, or a refusal. -/
theorem requireColumn
    {k : Unit → Attempt E β}
    (hIn : 0 ≤ index →
      index < ((g.world.statement p).columnNames.length : Int) →
        Leads A g g.world (k ()) Q F)
    (hOut : F g) :
    Leads A g g.world
      (Statement.requireColumn p index >>= k) Q F := by
  apply bind
  unfold Statement.requireColumn
  apply read
  apply last
  apply require
  · intro hIs
    simp only [Bool.and_eq_true, decide_eq_true_eq] at hIs
    exact pure (hIn hIs.1 hIs.2)
  · exact fun _ => hOut

/- A read of a column of the row that a statement is on. -/
theorem askColumn
    {c : Call}
    {k : c.Answer → Attempt E β}
    (hCall : c.column? = some (st, index))
    (hColumn : g.HasColumn p st index)
    (h : ∀ answer engine,
      g.Reads p (g.heard ⟨c, answer⟩ engine) →
        Leads A (g.heard ⟨c, answer⟩ engine)
          (g.heard ⟨c, answer⟩ engine).world (k answer)
          Q F) :
    Leads A g g.world (Attempt.lift (Quiet.invoke c) >>= k)
      Q F := by
  rcases hColumn with
    ⟨s, hStatement, hHandle, hState, hFirst, hLast⟩
  apply ask
  · exact fun _ => .column hCall hStatement hHandle hState
      hFirst hLast
  intro answer engine
  apply h
  apply (Stage.Reads.refl g).heard
  rw [World.statement_of_get? hStatement]
  exact ⟨st, hHandle, .inl ⟨index, hCall⟩⟩

end Attempt.Leads

namespace Statement

open Attempt

------------------------------------------------------------
-- Values
------------------------------------------------------------

theorem readText_leads
    (hColumn : g.HasColumn p st index) :
    Leads A g g.world (readText p st index)
      (fun _ => g.Reads p) (g.Reads p) := by
  unfold readText
  apply Leads.askColumn
  case hCall => rfl
  case hColumn => exact hColumn
  intro text engine hReads
  cases text with
  | some t =>
      apply Leads.require
      · exact fun _ => .pure hReads
      · exact fun _ => hReads
  | none =>
      rcases hColumn with ⟨s, hStatement, hOwn, _⟩
      have hHandle : (g.world.statement p).handle = some st := by
        rw [World.statement_of_get? hStatement, hOwn]
      apply Leads.sound
      intro hSound
      apply Leads.ask
      · exact fun _ =>
          .database rfl (.inl (hSound.opens_of_handle hHandle))
      intro code engine'
      have hReads' := hReads.heard
        (e := ⟨.errorCode st.database, code⟩)
        ⟨st, hHandle, .inr rfl⟩ engine'
      apply Leads.read
      apply Leads.require
      · exact fun _ => .pure hReads'
      · exact fun _ => hReads'

theorem readColumn_leads
    (hColumn : g.HasColumn p st index) :
    Leads A g g.world (readColumn p st index)
      (fun _ => g.Reads p) (g.Reads p) := by
  unfold readColumn
  apply Leads.askColumn
  case hCall => rfl
  case hColumn => exact hColumn
  intro type engine hReads
  split
  case h_1 =>
    apply Leads.askColumn
    case hCall => rfl
    case hColumn => exact hColumn
    intro n engine' hReads'
    exact .pure (hReads.trans hReads')
  case h_2 =>
    apply Leads.askColumn
    case hCall => rfl
    case hColumn => exact hColumn
    intro x engine' hReads'
    exact .pure (hReads.trans hReads')
  case h_3 =>
    apply Leads.mono
      (readText_leads
        (g := g.heard ⟨.columnType st index, _⟩ engine)
        hColumn)
    · intro _ g' _ _ hReads'
      exact hReads.trans hReads'
    · intro g' _ _ hReads'
      exact hReads.trans hReads'
  case h_4 =>
    apply Leads.askColumn
    case hCall => rfl
    case hColumn => exact hColumn
    intro blob engine' hReads'
    exact .pure (hReads.trans hReads')
  case h_5 => exact .pure hReads

/- All columns that are read must be columns of the row. -/
theorem readColumns_leads
    (first n : Nat)
    (hStatement : g.world.statements.get? p = some s)
    (hHandle : s.handle = some st)
    (hState : s.state = .row)
    (hLast : first + n ≤ s.columnNames.length) :
    Leads A g g.world (readColumns p st first n)
      (fun _ => g.Reads p) (g.Reads p) := by
  induction n generalizing g first with
  | zero => exact .pure (.refl g)
  | succ n ih =>
      unfold readColumns
      apply Leads.bind
      apply Leads.mono
        (readColumn_leads
          ⟨s, hStatement, hHandle, hState, by omega, by omega⟩)
      case hFail =>
        intro g' _ _ hReads
        exact hReads
      intro v g₁ _ _ hReads
      have hStatement₁ :
          g₁.world.statements.get? p = some s := by
        rcases hReads with ⟨_, _, _, rfl⟩
        exact hStatement
      apply Leads.bind
      apply Leads.mono (ih (first + 1) hStatement₁ (by omega))
      · intro rest g₂ _ _ hReads'
        exact .pure (hReads.trans hReads')
      · intro g₂ _ _ hReads'
        exact hReads.trans hReads'

theorem columnValue_leads :
    Leads A g g.world (columnValue p index)
      (fun _ => g.Reads p) (g.Reads p) := by
  unfold columnValue
  apply Leads.requireRow
  case hNone => exact .refl g
  intro s st hStatement hHandle hState
  apply Leads.requireColumn
  case hOut => exact .refl g
  rw [World.statement_of_get? hStatement]
  intro hFirst hLast
  exact readColumn_leads
    ⟨s, hStatement, hHandle, hState, hFirst, hLast⟩

theorem columnAs_leads
    (t : HostType) :
    Leads A g g.world (columnAs p t index)
      (fun _ => g.Reads p) (g.Reads p) := by
  unfold columnAs
  apply Leads.bind
  apply columnValue_leads.mono
  case hFail =>
    intro g' _ _ hReads
    exact hReads
  intro v g' _ _ hReads
  apply Leads.last
  apply Leads.accept
  · exact fun _ _ => .pure hReads
  · exact hReads

theorem columnType_leads :
    Leads A g g.world (columnType p index)
      (fun _ => g.Reads p) (g.Reads p) := by
  unfold columnType
  apply Leads.requireRow
  case hNone => exact .refl g
  intro s st hStatement hHandle hState
  apply Leads.requireColumn
  case hOut => exact .refl g
  rw [World.statement_of_get? hStatement]
  intro hFirst hLast
  apply Leads.askColumn
  case hCall => rfl
  case hColumn =>
    exact ⟨s, hStatement, hHandle, hState, hFirst, hLast⟩
  intro type engine hReads
  exact .pure hReads

theorem columnIsNull_leads :
    Leads A g g.world (columnIsNull p index)
      (fun _ => g.Reads p) (g.Reads p) := by
  unfold columnIsNull
  apply Leads.bind
  apply columnType_leads.mono
  · exact fun _ _ _ _ hReads => .pure hReads
  · exact fun _ _ _ hReads => hReads

/- Columns are read with nothing more under way. -/
theorem keeps_of_reads
    {P : Custody → Prop}
    {x : Attempt E α}
    (h : ∀ g : Stage E,
      Leads A g g.world x (fun _ => g.Reads p) (g.Reads p)) :
    Keeps A P x := by
  apply Keeps.of_asked
  intro g
  apply (h g).mono
  · exact fun _ g' _ _ hReads => hReads.asked
  · exact fun g' _ _ hReads => hReads.asked

------------------------------------------------------------
-- Metadata
------------------------------------------------------------

/- The number of columns is known without asking. -/
theorem columnCount_leads :
    Leads A g g.world (columnCount p)
      (fun n g' => g' = g ∧
        n = (g.world.statement p).columnNames.length)
      (· = g) := by
  unfold columnCount
  apply Leads.requireHandle
  · exact fun _ _ => .read (.pure ⟨rfl, rfl⟩)
  · rfl

theorem columnCount_keeps
    {P : Custody → Prop} :
    Keeps (E := E) A P (columnCount p) := by
  intro g _
  apply columnCount_leads.mono
  · rintro _ _ _ _ ⟨rfl, _⟩
    rfl
  · rintro _ _ _ rfl
    rfl

/- The names of columns are known without asking. -/
theorem columnName_leads :
    Leads A g g.world (columnName p index)
      (fun _ g' => g' = g) (· = g) := by
  unfold columnName
  apply Leads.requireHandle
  case hNone => rfl
  intro _ _
  apply Leads.requireColumn
  · exact fun _ _ => .read (.pure rfl)
  · rfl

theorem columnDeclaration_leads :
    Leads A g g.world (columnDeclaration p index)
      (fun _ g' => g' = g) (· = g) := by
  unfold columnDeclaration
  apply Leads.requireHandle
  case hNone => rfl
  intro _ _
  apply Leads.requireColumn
  · exact fun _ _ => .read (.pure rfl)
  · rfl

theorem countParameters_leads :
    Leads A g g.world (countParameters p)
      (fun _ g' => g' = g) (· = g) := by
  unfold countParameters
  apply Leads.requireHandle
  · exact fun _ _ => .read (.pure rfl)
  · rfl

theorem owner_leads :
    Leads A g g.world (owner p)
      (fun _ g' => g' = g) (· = g) := by
  unfold owner
  apply Leads.requireHandle
  · exact fun _ _ => .read (.pure rfl)
  · rfl

theorem parameterName_leads :
    Leads A g g.world (parameterName p index)
      (fun _ => g.Asked) g.Asked := by
  unfold parameterName
  apply Leads.requireHandle
  case hNone => exact .refl g
  intro st hHandle
  apply Leads.read
  apply Leads.require
  case hFalse => exact fun _ => .refl g
  intro _
  apply Leads.ask
  · exact fun _ =>
      .statement rfl (World.holds_of_handle hHandle)
  intro name engine
  exact .pure ((Stage.Asked.refl g).heard _ _)

theorem isReadOnly_leads :
    Leads A g g.world (isReadOnly p)
      (fun _ => g.Asked) g.Asked := by
  unfold isReadOnly
  apply Leads.requireHandle
  case hNone => exact .refl g
  intro st hHandle
  apply Leads.last
  apply Leads.ask
  · exact fun _ =>
      .statement rfl (World.holds_of_handle hHandle)
  intro answer engine
  exact .pure ((Stage.Asked.refl g).heard _ _)

theorem expandedSql_leads :
    Leads A g g.world (expandedSql p)
      (fun _ => g.Asked) g.Asked := by
  unfold expandedSql
  apply Leads.requireHandle
  case hNone => exact .refl g
  intro st hHandle
  apply Leads.ask
  · exact fun _ =>
      .statement rfl (World.holds_of_handle hHandle)
  intro text engine
  have hAsked := (Stage.Asked.refl g).heard
    ⟨.expandedText st, text⟩ engine
  cases text with
  | some t => exact .pure hAsked
  | none => exact .read (.refuse hAsked)

end Statement

end SqliteAccess
