import SqliteAccess.Proofs.Statement.Columns
import SqliteAccess.Statement.Row

/-
  Reading rows, step by step.

  A row is read from the cursor of the statement that stands
  on it.

  Key definitions include:
    * `Stage.ReadsRow`

  The programs are characterized by:
    * `Row.current_leads`
    * `Row.values_leads`
-/

namespace SqliteAccess

variable {E : Engine} {β : Type} {A : Part → Prop}
variable {g : Stage E} {p : Place} {r : Row} {index : Int}

/-
  Whether a stage comes after another by reading from the
  statement that a row finds.
-/
structure Stage.ReadsRow
    (r : Row)
    (g g' : Stage E) : Prop where
  asked : g.Asked g'
  reads : ∀ p, g.world.placeOf r = some p → g.Reads p g'

theorem Stage.ReadsRow.refl (g : Stage E) : g.ReadsRow r g :=
  ⟨.refl g, fun _ _ => .refl g⟩

namespace Row

open Attempt

/- A statement that stands on a row, or a refusal. -/
theorem current_leads
    {k : Place → Attempt E β}
    (h : ∀ p, r.matches (g.world.statement p) →
      Leads A g g.world (k p)
        (fun _ => g.Reads p) (g.Reads p)) :
    Leads A g g.world (r.current >>= k)
      (fun _ => g.ReadsRow r) (g.ReadsRow r) := by
  apply Leads.bind
  unfold current
  apply Leads.read
  cases hPlace : g.world.placeOf r with
  | none => exact .refuse (.refl g)
  | some p =>
      apply Leads.read
      apply Leads.require
      case hFalse => exact fun _ => .refl g
      intro hMatches
      apply Leads.pure
      have hReads : ∀ g', g.Reads p g' → g.ReadsRow r g' := by
        intro g' hReads
        refine ⟨hReads.asked, ?_⟩
        rw [hPlace]
        rintro _ ⟨⟩
        exact hReads
      apply (h p hMatches).mono
      · exact fun _ g' _ _ => hReads g'
      · exact fun g' _ _ => hReads g'

theorem size_leads :
    Leads A g g.world r.size
      (fun _ => g.ReadsRow r) (g.ReadsRow r) := by
  apply current_leads
  intro p _
  apply Statement.columnCount_leads.mono
  · rintro _ _ _ _ ⟨rfl, _⟩
    exact .refl _
  · rintro _ _ _ rfl
    exact .refl _

theorem columnName_leads :
    Leads A g g.world (r.columnName index)
      (fun _ => g.ReadsRow r) (g.ReadsRow r) := by
  apply current_leads
  intro p _
  apply Statement.columnName_leads.mono
  · rintro _ _ _ _ rfl
    exact .refl _
  · rintro _ _ _ rfl
    exact .refl _

theorem value_leads :
    Leads A g g.world (r.value index)
      (fun _ => g.ReadsRow r) (g.ReadsRow r) := by
  apply current_leads
  exact fun _ _ => Statement.columnValue_leads

theorem isNull_leads :
    Leads A g g.world (r.isNull index)
      (fun _ => g.ReadsRow r) (g.ReadsRow r) := by
  apply current_leads
  exact fun _ _ => Statement.columnIsNull_leads

theorem getAs_leads
    (t : HostType) :
    Leads A g g.world (r.getAs t index)
      (fun _ => g.ReadsRow r) (g.ReadsRow r) := by
  apply current_leads
  exact fun _ _ => Statement.columnAs_leads t

/- All columns are read, from the first one. -/
theorem values_leads :
    Leads A g g.world r.values
      (fun _ => g.ReadsRow r) (g.ReadsRow r) := by
  apply current_leads
  intro p hMatches
  apply Leads.bind
  apply Statement.columnCount_leads.mono
  case hFail =>
    rintro _ _ _ rfl
    exact .refl _
  rintro count g' _ _ ⟨rfl, hCount⟩
  apply Leads.requireHandle
  case hNone => exact .refl _
  intro st hHandle
  rcases World.get?_of_statement_handle hHandle with
    ⟨s, hStatement, hOwn⟩
  rw [World.statement_of_get? hStatement] at hMatches hCount
  have hState : s.state = .row := by
    simp only [Row.matches, Bool.and_eq_true,
      decide_eq_true_eq] at hMatches
    exact hMatches.1
  exact Statement.readColumns_leads 0 count hStatement hOwn
    hState (by omega)

end Row

end SqliteAccess
