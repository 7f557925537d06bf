import SqliteAccess.Proofs.Statement.Execution
import SqliteAccess.Statement.Binding

/-
  Binding, step by step.

  Whatever is bound, a statement on a row is left alone and
  the attempt fails; only a statement that is done is reset.

  Key definitions include:
    * `Attempt.Binds`

  The programs are characterized by:
    * `Statement.bindPayload_binds`
    * `Statement.bindArgument_binds`
    * `Statement.bindNamed_binds`
    * `Statement.clearBindings_binds`
-/

namespace SqliteAccess

variable {E : Engine} {α β : Type} {A : Part → Prop}
variable {g : Stage E} {p : Place} {index : Int}

------------------------------------------------------------
-- Checks
------------------------------------------------------------

namespace Attempt.Leads

variable {k : Unit → Attempt E β}
variable {Q : β → Stage E → Prop} {F : Stage E → Prop}

/- A statement without a row, or a refusal. -/
theorem requireNoRow
    {operation : String}
    (hFree : (g.world.statement p).state ≠ .row →
      Leads A g g.world (k ()) Q F)
    (hRow : F g) :
    Leads A g g.world
      (Statement.requireNoRow p operation >>= k) Q F := by
  apply bind
  unfold Statement.requireNoRow
  apply read
  apply last
  apply require
  · intro hState
    exact pure (hFree (of_decide_eq_true hState))
  · exact fun _ => hRow

/- An index of a parameter, or a refusal. -/
theorem requireParameter
    (hIn : 1 ≤ index →
      index ≤ ((g.world.statement p).parameterCount : Int) →
        Leads A g g.world (k ()) Q F)
    (hOut : F g) :
    Leads A g g.world
      (Statement.requireParameter p index >>= k) Q F := by
  apply bind
  unfold Statement.requireParameter
  apply read
  apply last
  apply require
  · intro hIs
    simp only [Bool.and_eq_true, decide_eq_true_eq] at hIs
    exact pure (hIn hIs.1 hIs.2)
  · exact fun _ => hOut

end Attempt.Leads

------------------------------------------------------------
-- Attempts That Bind
------------------------------------------------------------

/-
  Whether an attempt does not succeed while a statement is on
  a row, and changes the statement only if it is done.
-/
def Attempt.Binds
    (p : Place)
    (x : Attempt E α) : Prop :=
  ∀ (A : Part → Prop) (g : Stage E),
    ((g.world.statement p).state = .done →
      A (.statement p)) →
    Leads A g g.world x
      (fun _ g' => g.Drives p g' ∧
        (g.world.statement p).state ≠ .row)
      (g.Drives p)

theorem Attempt.Binds.keeps
    {P : Custody → Prop}
    {x : Attempt E α}
    (hBinds : Binds p x)
    (hPart : A (.statement p)) :
    Keeps A P x := by
  intro g _
  apply (hBinds A g fun _ => hPart).mono
  · exact fun _ g' _ _ hBound => hBound.1.custody
  · exact fun g' _ _ hDrives => hDrives.custody

/- What is checked before binding does not matter. -/
theorem Attempt.Binds.accept
    {check : Except Refusal α}
    {k : α → Attempt E β}
    (h : ∀ a, Binds p (k a)) :
    Binds p (Attempt.accept check >>= k) := by
  intro A g hPart
  apply Leads.accept
  · intro a _
    exact h a A g hPart
  · exact .refl g

/- What is asked before binding does not matter. -/
theorem Attempt.Binds.asked
    {x : Attempt E α}
    {k : α → Attempt E β}
    (hAsk : ∀ {A : Part → Prop} {g : Stage E},
      Leads A g g.world x (fun _ => g.Asked) g.Asked)
    (h : ∀ a, Binds p (k a)) :
    Binds p (x >>= k) := by
  intro A g hPart
  apply Leads.bind
  apply hAsk.mono
  case hFail =>
    intro g' _ _ hAsked
    exact .of_asked hAsked
  intro a g' _ _ hAsked
  have hSame := hAsked.statement p
  apply Leads.mono (h a A g' (hSame ▸ hPart))
  · intro _ g'' _ _ hBound
    rw [hSame] at hBound
    exact ⟨.trans (.of_asked hAsked) hBound.1, hBound.2⟩
  · intro g'' _ _ hDrives
    exact .trans (.of_asked hAsked) hDrives

namespace Statement

open Attempt

------------------------------------------------------------
-- One Class Each
------------------------------------------------------------

/- Afterwards a statement that was not on a row is ready. -/
theorem rewindIfDone_ready_leads
    {st : StatementHandle}
    (hPart : (g.world.statement p).state = .done →
      A (.statement p))
    (hHandle : (g.world.statement p).handle = some st)
    (hNoRow : (g.world.statement p).state ≠ .row) :
    Leads A g g.world (rewindIfDone p st)
      (fun _ g' => g.Drives p g' ∧
        ∃ s, g'.world.statements.get? p = some s ∧
          s.handle = some st ∧ s.state = .ready)
      (g.Drives p) := by
  apply (rewindIfDone_leads hPart hHandle).mono
  case hFail =>
    intro g' _ _ hDrives
    exact hDrives
  intro _ g' _ hSound' hRewound
  rcases hRewound with ⟨hDrives, hState⟩
  rcases
      World.get?_of_statement_handle
        (hDrives.handle.trans hHandle) with
    ⟨s, hStatement, hOwn⟩
  refine ⟨hDrives, s, hStatement, hOwn, ?_⟩
  have hLive :=
    (hSound'.linked.follows hStatement hOwn).notFinalized
  rw [World.statement_of_get? hStatement] at hState
  cases hBefore : (g.world.statement p).state <;> simp_all

/-
  A statement that is not on a row is asked something once it
  is ready.
-/
theorem askReady_leads
    {st : StatementHandle}
    {call : Call}
    {result : call.Answer → ResultCode}
    {phase : Phase}
    (hPart : (g.world.statement p).state = .done →
      A (.statement p))
    (hHandle : (g.world.statement p).handle = some st)
    (hNoRow : (g.world.statement p).state ≠ .row)
    (hAllowed : ∀ g₁ s answer, g.Drives p g₁ →
      g₁.world.statements.get? p = some s →
        s.handle = some st → s.state = .ready →
          g₁.Allows ⟨call, answer⟩) :
    Leads A g g.world
      (rewindIfDone p st >>= fun _ =>
        lift (lookup p) >>= fun s =>
          lift (Quiet.invoke call) >>= fun answer =>
            check st.database (result answer) phase s.sql)
      (fun _ g' => g.Drives p g' ∧
        (g.world.statement p).state ≠ .row)
      (g.Drives p) := by
  apply Leads.bind
  apply (rewindIfDone_ready_leads hPart hHandle hNoRow).mono
  case hFail =>
    intro g' _ _ hDrives
    exact hDrives
  intro _ g₁ _ hSound₁ hRewound
  rcases hRewound with
    ⟨hDrives, s, hStatement, hOwn, hReady⟩
  have hOpen := hSound₁.opens_of_handle
    (hDrives.handle.trans hHandle)
  apply Leads.read
  apply (ask_check_leads _ (.inl hOpen)).mono
  · intro _ g' _ _ hAsked
    exact ⟨hDrives.trans (.of_asked hAsked), hNoRow⟩
  · intro g' _ _ hAsked
    exact hDrives.trans (.of_asked hAsked)
  · exact fun answer =>
      hAllowed g₁ s answer hDrives hStatement hOwn hReady

/- A payload is handed over to a statement that is ready. -/
theorem bindPayload_binds
    (operation : String)
    (payload : Binding) :
    Binds p
      (bindPayload (E := E) p index operation payload) := by
  intro A g hPart
  unfold bindPayload
  apply Leads.requireHandle
  case hNone => exact .refl g
  intro st hHandle
  apply Leads.requireNoRow
  case hRow => exact .refl g
  intro hNoRow
  apply Leads.requireParameter
  case hOut => exact .refl g
  intro hFirst hLast
  apply askReady_leads hPart hHandle hNoRow
  intro g₁ s _ hDrives hStatement hOwn hReady
  have hCount := hDrives.parameterCount
  rw [World.statement_of_get? hStatement] at hCount
  exact .bind hStatement hOwn hReady hFirst (hCount ▸ hLast)

theorem bindText_binds
    (t : Bytes) :
    Binds p (bindText (E := E) p index t) := by
  apply Binds.accept
  intro _
  exact bindPayload_binds _ _

theorem bindValue_binds
    (v : Value) :
    Binds p (bindValue (E := E) p index v) := by
  cases v with
  | null => exact bindPayload_binds _ _
  | integer n => exact bindPayload_binds _ _
  | real x => exact bindPayload_binds _ _
  | text t => exact bindText_binds t
  | blob b => exact bindPayload_binds _ _

------------------------------------------------------------
-- Arguments
------------------------------------------------------------

theorem bindHost_binds
    (t : HostType)
    (x : t.Carrier) :
    Binds p (bindHost (E := E) p index t x) := by
  induction t with
  | value => exact bindValue_binds x
  | bool => exact bindPayload_binds _ _
  | integer kind =>
      apply Binds.accept
      intro n
      exact bindPayload_binds _ _
  | single => exact bindPayload_binds _ _
  | double => exact bindPayload_binds _ _
  | text => exact bindText_binds x
  | blob => exact bindPayload_binds _ _
  | optional t ih =>
      cases x with
      | none => exact bindPayload_binds _ _
      | some x => exact ih x

theorem bindArgument_binds
    (argument : Argument) :
    Binds p (bindArgument (E := E) p index argument) := by
  cases argument with
  | null => exact bindPayload_binds _ _
  | typed t x => exact bindHost_binds t x
  | view data => exact bindText_binds _
  | terminated t =>
      cases t with
      | none => exact bindPayload_binds _ _
      | some t => exact bindText_binds _

------------------------------------------------------------
-- Names
------------------------------------------------------------

theorem parameterIndex_leads
    (name : Bytes) :
    Leads A g g.world (parameterIndex p name)
      (fun _ => g.Asked) g.Asked := by
  unfold parameterIndex
  apply Leads.requireHandle
  case hNone => exact .refl g
  intro st hHandle
  apply Leads.last
  apply Leads.ask
  · exact fun _ =>
      .statement rfl (World.holds_of_handle hHandle)
  intro index engine
  apply Leads.pure
  exact (Stage.Asked.refl g).heard _ _

theorem searchSigils_leads
    {st : StatementHandle}
    (name : Bytes)
    (l : List UInt8)
    (hHeld : g.world.Holds st) :
    Quiet.Leads A g g.world (searchSigils st name l)
      fun _ => g.Asked := by
  induction l generalizing g with
  | nil => exact .pure (.refl g)
  | cons b r ih =>
      unfold searchSigils
      apply Quiet.Leads.ask
      · exact fun _ => .statement rfl hHeld
      intro index engine
      have hAsked := (Stage.Asked.refl g).heard
        ⟨.parameterIndex st (Bytes.untilNul (b :: name)),
          index⟩ engine
      apply Quiet.Leads.ite
      · intro _
        exact .pure hAsked
      · intro _
        apply Quiet.Leads.mono
          (ih (g := g.heard _ engine) hHeld)
        intro _ g' _ _ hSearched
        exact hAsked.trans hSearched

theorem requireParameterIndex_leads
    (name : Bytes) :
    Leads A g g.world (requireParameterIndex p name)
      (fun _ => g.Asked) g.Asked := by
  unfold requireParameterIndex
  apply Leads.requireHandle
  case hNone => exact .refl g
  intro st hHandle
  apply Leads.bind
  apply (parameterIndex_leads name).mono
  case hFail =>
    intro g' _ _ hAsked
    exact hAsked
  intro exact g₁ _ _ hAsked₁
  have hRest : ∀ index g₂, g.Asked g₂ →
      Leads A g₂ g₂.world
        (do
          let s ← lift (lookup p)
          require (index ≠ 0) (.parameterName name s.sql)
          return index)
        (fun _ => g.Asked) g.Asked := by
    intro index g₂ hAsked₂
    apply Leads.read
    apply Leads.require
    · exact fun _ => .pure hAsked₂
    · exact fun _ => hAsked₂
  apply Leads.ite
  · intro _
    apply Leads.lift
    have hHeld : g₁.world.Holds st := by
      apply World.holds_of_handle (p := p)
      rw [hAsked₁.statement, hHandle]
    apply (searchSigils_leads name sigils hHeld).mono
    intro index g₂ _ _ hAsked₂
    exact hRest index g₂ (hAsked₁.trans hAsked₂)
  · intro _
    exact hRest exact g₁ hAsked₁

theorem bindNamed_binds
    (name : Bytes)
    (argument : Argument) :
    Binds p (bindNamed (E := E) p name argument) := by
  apply Binds.asked
  · exact requireParameterIndex_leads name
  · intro _
    exact bindArgument_binds argument

------------------------------------------------------------
-- Clearing
------------------------------------------------------------

theorem clearBindings_binds :
    Binds p (clearBindings (E := E) p) := by
  intro A g hPart
  unfold clearBindings
  apply Leads.requireHandle
  case hNone => exact .refl g
  intro st hHandle
  apply Leads.requireNoRow
  case hRow => exact .refl g
  intro hNoRow
  apply askReady_leads hPart hHandle hNoRow
  intro g₁ s _ _ hStatement hOwn hReady
  exact .clearBindings hStatement hOwn hReady

end Statement

end SqliteAccess
