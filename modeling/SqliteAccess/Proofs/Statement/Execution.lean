import SqliteAccess.Proofs.Session.Keeping
import SqliteAccess.Statement.Execution

/-
  Stepping and resetting statements, step by step.

  Key definitions include:
    * `Stage.Drives`

  The programs are characterized by:
    * `Statement.rewind_leads`
    * `Statement.step_leads`
    * `Statement.fetch_leads`
    * `Statement.execute_leads`
-/

namespace SqliteAccess

variable {E : Engine} {α β : Type} {A : Part → Prop}
variable {g g' g'' : Stage E} {p : Place}
variable {st : StatementHandle}

------------------------------------------------------------
-- Handles of Statements
------------------------------------------------------------

theorem World.holds_of_handle
    {w : World E}
    (hHandle : (w.statement p).handle = some st) :
    w.Holds st :=
  ⟨p, get?_of_statement_handle hHandle⟩

/- The database of a statement that has a handle is open. -/
theorem Sound.opens_of_handle
    (hSound : Sound g)
    (hHandle : (g.world.statement p).handle = some st) :
    g.world.Opens st.database := by
  rcases World.get?_of_statement_handle hHandle with
    ⟨s, hStatement, hOwn⟩
  cases hOwner : s.connection with
  | none =>
      rw [hSound.owned.none_iff hStatement] at hOwner
      rw [hOwner] at hOwn
      cases hOwn
  | some c =>
      rcases hSound.owned.opened hStatement hOwner hOwn with
        ⟨conn, hConnection, hOpen⟩
      exact ⟨c, conn, hConnection, hOpen⟩

/- The handle of a statement, or a refusal. -/
theorem Attempt.Leads.requireHandle
    {operation : String}
    {k : StatementHandle → Attempt E β}
    {Q : β → Stage E → Prop}
    {F : Stage E → Prop}
    (hSome : ∀ st, (g.world.statement p).handle = some st →
      Leads A g g.world (k st) Q F)
    (hNone : F g) :
    Leads A g g.world
      (Statement.requireHandle p operation >>= k) Q F := by
  apply bind
  unfold Statement.requireHandle
  apply read
  cases hHandle : (g.world.statement p).handle with
  | none => exact refuse hNone
  | some st => exact pure (hSome st hHandle)

------------------------------------------------------------
-- Driven Statements
------------------------------------------------------------

/-
  Whether a stage comes after another by driving a statement,
  which keeps its handle and its parameters.
-/
structure Stage.Drives
    (p : Place)
    (g g' : Stage E) : Prop where
  custody : g'.custody = g.custody
  handle :
    (g'.world.statement p).handle =
      (g.world.statement p).handle
  parameterCount :
    (g'.world.statement p).parameterCount =
      (g.world.statement p).parameterCount

namespace Stage.Drives

theorem refl (g : Stage E) : g.Drives p g :=
  ⟨rfl, rfl, rfl⟩

theorem trans
    (hFirst : g.Drives p g')
    (hSecond : g'.Drives p g'') :
    g.Drives p g'' :=
  ⟨hSecond.custody.trans hFirst.custody,
    hSecond.handle.trans hFirst.handle,
    hSecond.parameterCount.trans hFirst.parameterCount⟩

theorem of_asked
    (hAsked : g.Asked g') :
    g.Drives p g' := by
  rcases hAsked with ⟨_, _, rfl⟩
  exact ⟨rfl, rfl, rfl⟩

end Stage.Drives

namespace Statement

open Attempt

------------------------------------------------------------
-- Resetting
------------------------------------------------------------

/- After a reset a statement is ready, even if that failed. -/
theorem rewind_leads
    (hPart : A (.statement p))
    (hHandle : (g.world.statement p).handle = some st) :
    Leads A g g.world (rewind p st)
      (fun _ g' => g.Drives p g' ∧
        (g'.world.statement p).state = .ready)
      (g.Drives p) := by
  rcases World.get?_of_statement_handle hHandle with
    ⟨s, hStatement, hOwn⟩
  have hBefore := World.statement_of_get? hStatement
  unfold rewind
  apply Leads.read
  apply Leads.invoke
  intro code engine
  apply Leads.update
  have hAfter := World.statement_modifyStatement
    (w := g.world.heard ⟨.reset st, code⟩ engine)
    (f := rewound) hStatement
  have hDrives : g.Drives p
      { g with
        world :=
          (g.world.heard ⟨.reset st, code⟩ engine)
            |>.modifyStatement p rewound } := by
    constructor
    case custody => rfl
    all_goals
      rw [hAfter, hBefore]
      rfl
  apply Leads.commit
    (.single (.statement (.rewound hPart hStatement hOwn)))
  apply Leads.sound
  intro hSound
  apply Leads.ite
  · intro _
    have hOpen := hSound.opens_of_handle
      (hDrives.handle.trans hHandle)
    apply (check_leads (.inl hOpen)).mono
    · intro _ g' _ _ hAsked
      refine ⟨hDrives.trans (.of_asked hAsked), ?_⟩
      rw [hAsked.statement, hAfter]
      rfl
    · intro g' _ _ hAsked
      exact hDrives.trans (.of_asked hAsked)
  · intro _
    apply Leads.pure
    refine ⟨hDrives, ?_⟩
    rw [hAfter]
    rfl

/- Only a statement that is done is reset. -/
theorem rewindIfDone_leads
    (hPart : (g.world.statement p).state = .done →
      A (.statement p))
    (hHandle : (g.world.statement p).handle = some st) :
    Leads A g g.world (rewindIfDone p st)
      (fun _ g' => g.Drives p g' ∧
        (g'.world.statement p).state =
          if (g.world.statement p).state = .done then .ready
          else (g.world.statement p).state)
      (g.Drives p) := by
  unfold rewindIfDone
  apply Leads.read
  apply Leads.ite
  · intro hDone
    apply (rewind_leads (hPart hDone) hHandle).mono
    · intro _ g' _ _ hReady
      simpa [hDone] using hReady
    · intro g' _ _ hDrives
      exact hDrives
  · intro hNotDone
    apply Leads.pure
    exact ⟨.refl g, by simp [hNotDone]⟩

theorem reset_leads
    (hPart : A (.statement p)) :
    Leads A g g.world (reset p)
      (fun _ g' => g.Drives p g') (g.Drives p) := by
  unfold reset
  apply Leads.requireHandle
  case hNone => exact .refl g
  intro st hHandle
  apply (rewind_leads hPart hHandle).mono
  · intro _ g' _ _ hReady
    exact hReady.1
  · intro g' _ _ hDrives
    exact hDrives

------------------------------------------------------------
-- Stepping
------------------------------------------------------------

/- A step that tells of a row leaves the statement on it. -/
theorem step_leads
    (hPart : A (.statement p)) :
    Leads A g g.world (step p)
      (fun result g' => g.Drives p g' ∧
        (result = .row →
          (g'.world.statement p).handle ≠ none ∧
            (g'.world.statement p).state = .row))
      (g.Drives p) := by
  unfold step
  apply Leads.requireHandle
  case hNone => exact .refl g
  intro st hHandle
  apply Leads.bind
  apply (rewindIfDone_leads (fun _ => hPart) hHandle).mono
  case hFail =>
    intro g' _ _ hDrives
    exact hDrives
  intro _ g₁ _ _ hRewound
  rcases hRewound with ⟨hDrives₁, hState₁⟩
  have hHandle₁ := hDrives₁.handle.trans hHandle
  rcases World.get?_of_statement_handle hHandle₁ with
    ⟨s, hStatement, hOwn⟩
  have hBefore := World.statement_of_get? hStatement
  have hNotDone : s.state ≠ .done := by
    rw [← hBefore, hState₁]
    split <;> simp_all
  apply Leads.invoke
  intro code engine
  apply Leads.update
  have hAfter := World.statement_modifyStatement
    (w := g₁.world.heard ⟨.step st, code⟩ engine)
    (f := (·.stepped code)) hStatement
  have hStepped := stepped_eq s code
  have hDrives : g.Drives p
      { g₁ with
        world :=
          (g₁.world.heard ⟨.step st, code⟩ engine)
            |>.modifyStatement p (·.stepped code) } := by
    apply hDrives₁.trans
    constructor
    case custody => rfl
    all_goals
      rw [hAfter, hBefore, hStepped]
  apply Leads.commit
    (.single (.statement
      (.advanced hPart hStatement hOwn hNotDone)))
  apply Leads.ite
  · intro hRow
    apply Leads.pure
    refine ⟨hDrives, fun _ => ?_⟩
    rw [hAfter, hStepped]
    simp [hOwn, hRow]
  · intro _
    apply Leads.ite
    · intro _
      apply Leads.pure
      exact ⟨hDrives, by simp⟩
    · intro _
      apply Leads.read
      apply Leads.lift
      apply Quiet.Leads.sound
      intro hSound
      have hOpen := hSound.opens_of_handle
        (hDrives.handle.trans hHandle)
      apply (handleError_leads (.inl hOpen)).mono
      intro e g' _ _ hAsked
      exact .fail (hDrives.trans (.of_asked hAsked))

/- A row that was fetched is the one its statement is on. -/
theorem fetch_leads
    (hPart : A (.statement p)) :
    Leads A g g.world (fetch p)
      (fun found g' => g.Drives p g' ∧
        ∀ row, found = some row →
          (g'.world.statement p).handle ≠ none ∧
            row.anchor = (g'.world.statement p).anchor ∧
              row.matches (g'.world.statement p))
      (g.Drives p) := by
  unfold fetch
  apply Leads.bind
  apply (step_leads hPart).mono
  case hFail =>
    intro g' _ _ hDrives
    exact hDrives
  intro result g' _ _ hStepped
  rcases hStepped with ⟨hDrives, hRow⟩
  cases result with
  | completed =>
      apply Leads.pure
      exact ⟨hDrives, by simp⟩
  | row =>
      rcases hRow rfl with ⟨hHandle, hState⟩
      apply Leads.read
      apply Leads.pure
      refine ⟨hDrives, ?_⟩
      rintro row ⟨⟩
      exact ⟨hHandle, rfl, by simp [Row.matches, hState]⟩

theorem drain_leads
    (hPart : A (.statement p))
    (n : Nat) :
    Leads A g g.world (drain p n)
      (fun _ g' => g.Drives p g') (g.Drives p) := by
  induction n generalizing g with
  | zero =>
      unfold drain
      exact .throw (.refl g)
  | succ n ih =>
      unfold drain
      apply Leads.bind
      apply (step_leads hPart).mono
      case hFail =>
        intro g' _ _ hDrives
        exact hDrives
      intro result g' _ _ hStepped
      apply Leads.ite
      · intro _
        apply ih.mono
        · intro _ g'' _ _ hDrives
          exact hStepped.1.trans hDrives
        · intro g'' _ _ hDrives
          exact hStepped.1.trans hDrives
      · intro _
        exact .pure hStepped.1

theorem execute_leads
    (hPart : A (.statement p)) :
    Leads A g g.world (execute p)
      (fun _ g' => g.Drives p g') (g.Drives p) := by
  unfold execute
  apply Leads.requireHandle
  case hNone => exact .refl g
  intro st hHandle
  apply Leads.read
  apply Leads.bind
  apply (drain_leads hPart _).mono
  case hFail =>
    intro g' _ _ hDrives
    exact hDrives
  intro _ g₁ _ hSound₁ hDrives₁
  have hHandle₁ := hDrives₁.handle.trans hHandle
  have hOpen := hSound₁.opens_of_handle hHandle₁
  apply Leads.ask
  · exact fun _ => .database rfl (.inl hOpen)
  intro changed engine
  have hDrives₂ := hDrives₁.trans
    (.of_asked ((Stage.Asked.refl g₁).heard
      ⟨.changes st.database, changed⟩ engine))
  apply Leads.bind
  apply Leads.mono
    (rewind_leads
      (g := g₁.heard ⟨.changes st.database, changed⟩ engine)
      hPart hHandle₁)
  · intro _ g' _ _ hReady
    exact .pure (hDrives₂.trans hReady.1)
  · intro g' _ _ hDrives
    exact hDrives₂.trans hDrives

------------------------------------------------------------
-- What Is Under Way
------------------------------------------------------------

/- A statement is driven with nothing more under way. -/
theorem keeps_of_drives
    {P : Custody → Prop}
    {x : Attempt E α}
    (h : ∀ g : Stage E,
      Leads A g g.world x
        (fun _ g' => g.Drives p g') (g.Drives p)) :
    Keeps A P x := by
  intro g _
  apply (h g).mono
  · exact fun _ g' _ _ hDrives => hDrives.custody
  · exact fun g' _ _ hDrives => hDrives.custody

variable {P : Custody → Prop}

theorem step_keeps
    (hPart : A (.statement p)) :
    Keeps (E := E) A P (step p) := by
  apply keeps_of_drives
  intro g
  apply (step_leads hPart).mono
  · exact fun _ g' _ _ hStepped => hStepped.1
  · exact fun g' _ _ hDrives => hDrives

theorem next_keeps
    (hPart : A (.statement p)) :
    Keeps (E := E) A P (next p) :=
  (step_keeps hPart).map

theorem drain_keeps
    (hPart : A (.statement p))
    (n : Nat) :
    Keeps (E := E) A P (drain p n) :=
  keeps_of_drives fun _ => drain_leads hPart n

theorem execute_keeps
    (hPart : A (.statement p)) :
    Keeps (E := E) A P (execute p) :=
  keeps_of_drives fun _ => execute_leads hPart

theorem reset_keeps
    (hPart : A (.statement p)) :
    Keeps (E := E) A P (reset p) :=
  keeps_of_drives fun _ => reset_leads hPart

end Statement

end SqliteAccess
