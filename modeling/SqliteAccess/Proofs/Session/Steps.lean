import Mathlib.Logic.Relation
import SqliteAccess.Proofs.Backup.Steps
import SqliteAccess.Proofs.Connection.Steps
import SqliteAccess.Proofs.Statement.Steps

/-
  The steps that a session is made of.

  Whatever the library does is a sequence of small steps on
  stages.  What every step keeps is kept by every run.

  Key definitions include:
    * `Step`
    * `Steps`

  The steps are characterized by:
    * `Steps.sound`
    * `Steps.mono`
    * `Steps.trace_suffix`
    * `Steps.keeps_statement`
    * `Steps.keeps_backup`
    * `Steps.keeps_handle`
    * `Steps.statement_before`
    * `Steps.backup_before`
    * `Steps.keeps_slots`
-/

namespace SqliteAccess

variable {E : Engine}

------------------------------------------------------------
-- Steps
------------------------------------------------------------

/-
  The steps on stages that change certain parts only.  A call
  that changes no object is a step, as is a change of what no
  handle depends on, and moving connections between slots.
-/
inductive Step (A : Part → Prop) : Stage E → Stage E → Prop
  | ask {g e}
      (hAllowed : g.Allows e)
      (engine : E.State) :
      Step A g (g.heard e engine)
  | aside {g}
      (transactions : Table Place Transaction)
      (savepoints : Table Place Savepoint)
      (rows : Table Nat Row)
      (library : Library) :
      Step A g
        { g with
          world :=
            { g.world with
              transactions, savepoints, rows, library } }
  | rehoused {g plain serialized homeless}
      (hPart : A .slots)
      (hHoused :
        Housed g.world.connections plain serialized
          homeless) :
      Step A g
        { custody := { g.custody with homeless }
          world := { g.world with plain, serialized } }
  | statement {g g' : Stage E}
      (hStep : StatementStep A g g') : Step A g g'
  | backup {g g' : Stage E}
      (hStep : BackupStep A g g') : Step A g g'
  | connection {g g' : Stage E}
      (hStep : ConnectionStep g g') : Step A g g'

/- Any number of steps. -/
def Steps (A : Part → Prop) : Stage E → Stage E → Prop :=
  Relation.ReflTransGen (Step A)

variable {A B : Part → Prop} {g g' : Stage E}

------------------------------------------------------------
-- Single Steps
------------------------------------------------------------

namespace Step

/- A step keeps a stage sound. -/
theorem sound
    (hSound : Sound g)
    (hStep : Step A g g') :
    Sound g' := by
  cases hStep with
  | ask hAllowed engine => exact hSound.asked hAllowed engine
  | aside => exact { hSound with }
  | rehoused _ hHoused =>
      exact { hSound with housed := hHoused }
  | statement hStep => exact hStep.sound hSound
  | backup hStep => exact hStep.sound hSound
  | connection hStep => exact hStep.sound hSound

/- Steps that may change more parts. -/
theorem mono
    (hMore : ∀ part, A part → B part)
    (hStep : Step A g g') :
    Step B g g' := by
  cases hStep with
  | ask hAllowed engine => exact .ask hAllowed engine
  | aside t s r l => exact .aside t s r l
  | rehoused hPart hHoused =>
      exact .rehoused (hMore _ hPart) hHoused
  | statement hStep => exact .statement (hStep.mono hMore)
  | backup hStep => exact .backup (hStep.mono hMore)
  | connection hStep => exact .connection hStep

/- A step only adds to the trace. -/
theorem trace_suffix
    (hStep : Step A g g') :
    g.world.trace <:+ g'.world.trace := by
  cases hStep with
  | ask => exact List.suffix_cons _ _
  | aside => exact List.suffix_refl _
  | rehoused => exact List.suffix_refl _
  | statement hStep => exact hStep.trace_suffix
  | backup hStep => exact hStep.trace_suffix
  | connection hStep => exact hStep.trace_suffix

/- Tokens are numbered on and on. -/
theorem issued_le
    (hStep : Step A g g') :
    g.world.issued.anchors ≤ g'.world.issued.anchors := by
  cases hStep with
  | ask => exact Nat.le_refl _
  | aside => exact Nat.le_refl _
  | rehoused => exact Nat.le_refl _
  | statement hStep => exact hStep.issued_le
  | backup hStep => exact Nat.le_of_eq hStep.keeps_issued.symm
  | connection hStep =>
      exact Nat.le_of_eq hStep.keeps_issued.symm

/- A step that is kept from a statement leaves it as it is. -/
theorem keeps_statement
    {p : Place}
    (hPart : ¬ A (.statement p))
    (hStep : Step A g g') :
    g'.world.statements.get? p =
      g.world.statements.get? p := by
  cases hStep with
  | ask => rfl
  | aside => rfl
  | rehoused => rfl
  | statement hStep => exact hStep.keeps_statement hPart
  | backup hStep => rw [hStep.keeps_statements]
  | connection hStep => rw [hStep.keeps_statements]

/- A step that is kept from a backup leaves it as it is. -/
theorem keeps_backup
    {p : Place}
    (hPart : ¬ A (.backup p))
    (hStep : Step A g g') :
    g'.world.backups.get? p = g.world.backups.get? p := by
  cases hStep with
  | ask => rfl
  | aside => rfl
  | rehoused => rfl
  | statement hStep => rw [hStep.keeps_backups]
  | backup hStep => exact hStep.keeps_backup hPart
  | connection hStep => rw [hStep.keeps_backups]

/- A step leaves open which connections are expendable. -/
theorem keeps_expendable
    (hStep : Step A g g') :
    g'.custody.expendable = g.custody.expendable := by
  cases hStep with
  | ask => rfl
  | aside => rfl
  | rehoused => rfl
  | statement hStep => exact hStep.keeps_expendable
  | backup hStep => exact hStep.keeps_expendable
  | connection hStep => exact hStep.keeps_expendable

/- So it leaves open which may get something new. -/
theorem keeps_enlists
    (hStep : Step A g g') :
    g'.custody.enlists = g.custody.enlists := by
  cases hStep with
  | ask => rfl
  | aside => rfl
  | rehoused => rfl
  | statement hStep => exact hStep.keeps_enlists
  | backup hStep => exact hStep.keeps_enlists
  | connection hStep => exact hStep.keeps_enlists

/- It leaves open which backups may be driven. -/
theorem keeps_drives
    (hStep : Step A g g') :
    g'.custody.drives = g.custody.drives := by
  cases hStep with
  | ask => rfl
  | aside => rfl
  | rehoused => rfl
  | statement hStep => exact hStep.keeps_drives
  | backup hStep => exact hStep.keeps_drives
  | connection hStep => exact hStep.keeps_drives

/-
  A statement that is live in a slot was live on the same
  connection before, or else that may have got a new one.
-/
theorem statement_before
    {p : Place}
    {c : ConnectionId}
    (hSlot : p ≠ .scratch)
    (hLive : LiveStatement g'.world.statements p c)
    (hStep : Step A g g') :
    g.custody.enlists c ∨
      ∃ q, q ≠ .scratch ∧
        LiveStatement g.world.statements q c ∧
        (q = p ∨ A (.statement q) ∧ A (.statement p)) := by
  have hHere : LiveStatement g.world.statements p c →
      g.custody.enlists c ∨
        ∃ q, q ≠ .scratch ∧
          LiveStatement g.world.statements q c ∧
          (q = p ∨ A (.statement q) ∧ A (.statement p)) :=
    fun hBefore => .inr ⟨p, hSlot, hBefore, .inl rfl⟩
  cases hStep with
  | ask => exact hHere hLive
  | aside => exact hHere hLive
  | rehoused => exact hHere hLive
  | statement hStep => exact hStep.live_before hSlot hLive
  | backup hStep => exact hHere (hStep.keeps_statements ▸ hLive)
  | connection hStep =>
      exact hHere (hStep.keeps_statements ▸ hLive)

/- The same of backups, which stay in their slots. -/
theorem backup_before
    {p : Place}
    {c : ConnectionId}
    (hSlot : p ≠ .scratch)
    (hLive : LiveBackup g'.world.backups p c)
    (hStep : Step A g g') :
    g.custody.enlists c ∨
      LiveBackup g.world.backups p c := by
  cases hStep with
  | ask => exact .inr hLive
  | aside => exact .inr hLive
  | rehoused => exact .inr hLive
  | statement hStep => exact .inr (hStep.keeps_backups ▸ hLive)
  | backup hStep => exact hStep.live_before hSlot hLive
  | connection hStep => exact .inr (hStep.keeps_backups ▸ hLive)

/- Connections are numbered on and on. -/
theorem connections_issued_le
    (hStep : Step A g g') :
    g.world.issued.connections ≤
      g'.world.issued.connections := by
  cases hStep with
  | ask => exact Nat.le_refl _
  | aside => exact Nat.le_refl _
  | rehoused => exact Nat.le_refl _
  | statement hStep =>
      exact Nat.le_of_eq hStep.keeps_connections.2.symm
  | backup hStep =>
      exact Nat.le_of_eq hStep.keeps_connections.2.symm
  | connection hStep => exact hStep.connections_issued_le

/- An old connection that is needed keeps its handle. -/
theorem keeps_handle
    {c : ConnectionId}
    (hOld : c.number ≤ g.world.issued.connections)
    (hNeeded : ¬ g.custody.expendable c)
    (hStep : Step A g g') :
    (g'.world.connections.get? c).map (·.handle) =
      (g.world.connections.get? c).map (·.handle) := by
  cases hStep with
  | ask => rfl
  | aside => rfl
  | rehoused => rfl
  | statement hStep => exact hStep.keeps_connections.1 c
  | backup hStep => exact hStep.keeps_connections.1 c
  | connection hStep => exact hStep.keeps_handle hOld hNeeded

/- A connection that is gone does not come back. -/
theorem keeps_gone
    {c : ConnectionId}
    (hOld : c.number ≤ g.world.issued.connections)
    (hGone : g.world.connections.get? c = none)
    (hStep : Step A g g') :
    g'.world.connections.get? c = none := by
  have hSame : ∀ {t : Table ConnectionId Connection},
      SameHandles g.world.connections t → t.get? c = none := by
    intro t hSame
    have hMap := hSame c
    rw [hGone] at hMap
    exact Option.map_eq_none_iff.mp hMap
  cases hStep with
  | ask => exact hGone
  | aside => exact hGone
  | rehoused => exact hGone
  | statement hStep => exact hSame hStep.keeps_connections.1
  | backup hStep => exact hSame hStep.keeps_connections.1
  | connection hStep => exact hStep.keeps_gone hOld hGone

/- A step that is kept from the slots leaves them alone. -/
theorem keeps_slots
    (hPart : ¬ A .slots)
    (hStep : Step A g g') :
    g'.world.plain = g.world.plain ∧
      g'.world.serialized = g.world.serialized := by
  cases hStep with
  | ask => exact ⟨rfl, rfl⟩
  | aside => exact ⟨rfl, rfl⟩
  | rehoused hAllowed => exact absurd hAllowed hPart
  | statement hStep => exact hStep.keeps_slots
  | backup hStep => exact hStep.keeps_slots
  | connection hStep => exact hStep.keeps_slots

end Step

------------------------------------------------------------
-- Runs
------------------------------------------------------------

namespace Steps

/- A run keeps a stage sound. -/
theorem sound
    (hSound : Sound g)
    (hSteps : Steps A g g') :
    Sound g' := by
  induction hSteps with
  | refl => exact hSound
  | tail _ hStep ih => exact hStep.sound ih

theorem mono
    (hMore : ∀ part, A part → B part)
    (hSteps : Steps A g g') :
    Steps B g g' := by
  induction hSteps with
  | refl => exact .refl
  | tail _ hStep ih => exact .tail ih (hStep.mono hMore)

theorem trace_suffix
    (hSteps : Steps A g g') :
    g.world.trace <:+ g'.world.trace := by
  induction hSteps with
  | refl => exact List.suffix_refl _
  | tail _ hStep ih => exact ih.trans hStep.trace_suffix

theorem keeps_statement
    {p : Place}
    (hPart : ¬ A (.statement p))
    (hSteps : Steps A g g') :
    g'.world.statements.get? p =
      g.world.statements.get? p := by
  induction hSteps with
  | refl => rfl
  | tail _ hStep ih =>
      exact (hStep.keeps_statement hPart).trans ih

theorem keeps_backup
    {p : Place}
    (hPart : ¬ A (.backup p))
    (hSteps : Steps A g g') :
    g'.world.backups.get? p = g.world.backups.get? p := by
  induction hSteps with
  | refl => rfl
  | tail _ hStep ih =>
      exact (hStep.keeps_backup hPart).trans ih

theorem keeps_expendable
    (hSteps : Steps A g g') :
    g'.custody.expendable = g.custody.expendable := by
  induction hSteps with
  | refl => rfl
  | tail _ hStep ih => exact hStep.keeps_expendable.trans ih

theorem keeps_enlists
    (hSteps : Steps A g g') :
    g'.custody.enlists = g.custody.enlists := by
  induction hSteps with
  | refl => rfl
  | tail _ hStep ih => exact hStep.keeps_enlists.trans ih

theorem keeps_drives
    (hSteps : Steps A g g') :
    g'.custody.drives = g.custody.drives := by
  induction hSteps with
  | refl => rfl
  | tail _ hStep ih => exact hStep.keeps_drives.trans ih

/-
  A statement that is live in a slot was live on the same
  connection at first, or else that may have got a new one.
-/
theorem statement_before
    {p : Place}
    {c : ConnectionId}
    (hSlot : p ≠ .scratch)
    (hLive : LiveStatement g'.world.statements p c)
    (hSteps : Steps A g g') :
    g.custody.enlists c ∨
      ∃ q, q ≠ .scratch ∧
        LiveStatement g.world.statements q c ∧
        (q = p ∨ A (.statement q) ∧ A (.statement p)) := by
  induction hSteps generalizing p with
  | refl => exact .inr ⟨p, hSlot, hLive, .inl rfl⟩
  | tail hBefore hStep ih =>
      rcases hStep.statement_before hSlot hLive with
        hMay | ⟨q, hSlot', hLive', hMoved⟩
      · exact .inl (keeps_enlists hBefore ▸ hMay)
      rcases ih hSlot' hLive' with
        hMay | ⟨r, hSlot'', hLive'', hMoved'⟩
      · exact .inl hMay
      refine .inr ⟨r, hSlot'', hLive'', ?_⟩
      rcases hMoved with rfl | ⟨hFrom, hTo⟩
      · exact hMoved'
      rcases hMoved' with rfl | ⟨hFrom', _⟩
      · exact .inr ⟨hFrom, hTo⟩
      · exact .inr ⟨hFrom', hTo⟩

theorem backup_before
    {p : Place}
    {c : ConnectionId}
    (hSlot : p ≠ .scratch)
    (hLive : LiveBackup g'.world.backups p c)
    (hSteps : Steps A g g') :
    g.custody.enlists c ∨
      LiveBackup g.world.backups p c := by
  induction hSteps with
  | refl => exact .inr hLive
  | tail hBefore hStep ih =>
      rcases hStep.backup_before hSlot hLive with
        hMay | hLive'
      · exact .inl (keeps_enlists hBefore ▸ hMay)
      · exact ih hLive'

theorem connections_issued_le
    (hSteps : Steps A g g') :
    g.world.issued.connections ≤
      g'.world.issued.connections := by
  induction hSteps with
  | refl => exact Nat.le_refl _
  | tail _ hStep ih =>
      exact Nat.le_trans ih hStep.connections_issued_le

/- An old connection that is needed keeps its handle. -/
theorem keeps_handle
    {c : ConnectionId}
    (hOld : c.number ≤ g.world.issued.connections)
    (hNeeded : ¬ g.custody.expendable c)
    (hSteps : Steps A g g') :
    (g'.world.connections.get? c).map (·.handle) =
      (g.world.connections.get? c).map (·.handle) := by
  induction hSteps with
  | refl => rfl
  | tail hBefore hStep ih =>
      rw [← ih]
      apply hStep.keeps_handle
      · exact Nat.le_trans hOld (connections_issued_le hBefore)
      · rw [keeps_expendable hBefore]
        exact hNeeded

/- A connection that is gone does not come back. -/
theorem keeps_gone
    {c : ConnectionId}
    (hOld : c.number ≤ g.world.issued.connections)
    (hGone : g.world.connections.get? c = none)
    (hSteps : Steps A g g') :
    g'.world.connections.get? c = none := by
  induction hSteps with
  | refl => exact hGone
  | tail hBefore hStep ih =>
      exact hStep.keeps_gone
        (Nat.le_trans hOld (connections_issued_le hBefore)) ih

theorem keeps_slots
    (hPart : ¬ A .slots)
    (hSteps : Steps A g g') :
    g'.world.plain = g.world.plain ∧
      g'.world.serialized = g.world.serialized := by
  induction hSteps with
  | refl => exact ⟨rfl, rfl⟩
  | tail _ hStep ih =>
      rcases hStep.keeps_slots hPart with
        ⟨hPlain, hSerialized⟩
      exact ⟨hPlain.trans ih.1, hSerialized.trans ih.2⟩

end Steps

end SqliteAccess
