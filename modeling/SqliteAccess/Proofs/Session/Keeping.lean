import SqliteAccess.Proofs.Session.Leads

/-
  Programs that leave nothing more under way than before.

  Key definitions include:
    * `Quiet.Keeps`
    * `Attempt.Keeps`

  The programs are characterized by:
    * `Quiet.Keeps.bind`
    * `Attempt.Keeps.bind`
    * `Attempt.Keeps.of_asked`
    * `Attempt.Keeps.ensuring`
    * `Attempt.Keeps.tolerate`
    * `Attempt.Keeps.tryCatch`
-/

namespace SqliteAccess

variable {E : Engine} {α β : Type}
variable {A B : Part → Prop} {P : Custody → Prop}

------------------------------------------------------------
-- Quiet Steps
------------------------------------------------------------

/-
  Whether a quiet step, taken where a condition on what is
  under way holds, changes certain parts only and leaves as
  much under way as there was.
-/
def Quiet.Keeps
    (A : Part → Prop)
    (P : Custody → Prop)
    (x : Quiet E α) : Prop :=
  ∀ g : Stage E, P g.custody →
    Quiet.Leads A g g.world x
      fun _ g' => g'.custody = g.custody

namespace Quiet.Keeps

variable {x : Quiet E α} {k : α → Quiet E β}

theorem pure (a : α) :
    Keeps A P (pure a : Quiet E α) :=
  fun _ _ => .pure rfl

theorem bind
    (h : Keeps A P x)
    (hNext : ∀ a, Keeps A P (k a)) :
    Keeps A P (x >>= k) := by
  intro g hP
  apply Leads.bind
  apply (h g hP).mono
  intro a g' _ _ hSame
  apply (hNext a g' (hSame ▸ hP)).mono
  intro b g'' _ _ hSame'
  rw [hSame', hSame]

/- A stronger condition on what is under way. -/
theorem weaken
    {P' : Custody → Prop}
    (hLess : ∀ k, P' k → P k)
    (h : Keeps A P x) :
    Keeps A P' x :=
  fun g hP => h g (hLess _ hP)

theorem of_asked
    (h : ∀ g : Stage E, Leads A g g.world x fun _ => g.Asked) :
    Keeps A P x := by
  intro g _
  apply (h g).mono
  intro _ g' _ _ hAsked
  exact hAsked.custody

theorem read (f : World E → α) :
    Keeps A P (Quiet.read f) :=
  fun _ _ => .last (.read (.pure rfl))

theorem note
    (level : LogLevel)
    (message : String)
    (fields : List LogField) :
    Keeps (E := E) A P (Quiet.note level message fields) :=
  fun _ _ => .last (.note (.pure rfl))

/- A call that concerns the engine as a whole. -/
theorem askGlobal
    {c : Call}
    (hGlobal : c.isGlobal) :
    Keeps (E := E) A P (Quiet.invoke c) := by
  apply of_asked
  intro g
  apply Leads.last
  apply Leads.ask
  · exact fun _ => .global hGlobal
  intro answer engine
  exact .pure ((Stage.Asked.refl g).heard _ engine)

/- A change of what no handle depends on. -/
theorem aside
    {f : World E → World E}
    (hAside : ∀ w, ∃ transactions savepoints rows library,
      f w =
        { w with
          transactions, savepoints, rows, library }) :
    Keeps A P (Quiet.update f) := by
  intro g _
  apply Leads.last
  apply Leads.update
  rcases hAside g.world with
    ⟨transactions, savepoints, rows, library, hSame⟩
  rw [hSame]
  apply Leads.commit
    (.single (.aside transactions savepoints rows library))
  exact .pure rfl

theorem ite
    {c : Prop}
    [Decidable c]
    {x y : Quiet E α}
    (hThen : c → Keeps A P x)
    (hElse : ¬ c → Keeps A P y) :
    Keeps A P (if c then x else y) := by
  split
  case isTrue h => exact hThen h
  case isFalse h => exact hElse h

theorem each
    {f : α → Quiet E Unit}
    (h : ∀ a, Keeps A P (f a))
    (l : List α) :
    Keeps A P (Quiet.each f l) := by
  induction l with
  | nil => exact pure ()
  | cons a l ih => exact bind (h a) fun _ => ih

end Quiet.Keeps

------------------------------------------------------------
-- Attempts
------------------------------------------------------------

/- The same of an attempt, whether it succeeds or fails. -/
def Attempt.Keeps
    (A : Part → Prop)
    (P : Custody → Prop)
    (x : Attempt E α) : Prop :=
  ∀ g : Stage E, P g.custody →
    Attempt.Leads A g g.world x
      (fun _ g' => g'.custody = g.custody)
      (fun g' => g'.custody = g.custody)

namespace Attempt.Keeps

variable {x : Attempt E α} {k : α → Attempt E β}

theorem pure (a : α) :
    Keeps A P (pure a : Attempt E α) :=
  fun _ _ => .pure rfl

theorem bind
    (h : Keeps A P x)
    (hNext : ∀ a, Keeps A P (k a)) :
    Keeps A P (x >>= k) := by
  intro g hP
  apply Leads.bind
  apply (h g hP).mono
  case hFail =>
    intro g' _ _ hSame
    exact hSame
  intro a g' _ _ hSame
  apply (hNext a g' (hSame ▸ hP)).mono
  · intro b g'' _ _ hSame'
    rw [hSame', hSame]
  · intro g'' _ _ hSame'
    rw [hSame', hSame]

/- An attempt that turns the result of another into its own. -/
theorem map
    {f : α → β}
    (h : Keeps A P x) :
    Keeps A P (x >>= fun a => Pure.pure (f a)) :=
  h.bind fun a => pure (f a)

/- A stronger condition on what is under way. -/
theorem weaken
    {P' : Custody → Prop}
    (hLess : ∀ k, P' k → P k)
    (h : Keeps A P x) :
    Keeps A P' x :=
  fun g hP => h g (hLess _ hP)

theorem of_asked
    (h : ∀ g : Stage E,
      Leads A g g.world x (fun _ => g.Asked) g.Asked) :
    Keeps A P x := by
  intro g _
  apply (h g).mono
  · exact fun _ g' _ _ hAsked => hAsked.custody
  · exact fun g' _ _ hAsked => hAsked.custody

theorem fail (e : DatabaseError) :
    Keeps A P (Attempt.fail e : Attempt E α) :=
  fun _ _ => .fail rfl

theorem refuse (r : Refusal) :
    Keeps A P (Attempt.refuse r : Attempt E α) :=
  fun _ _ => .refuse rfl

theorem throw (e : Failure) :
    Keeps A P (MonadExcept.throw e : Attempt E α) :=
  fun _ _ => .throw rfl

theorem require
    (c : Bool)
    (r : Refusal) :
    Keeps (E := E) A P (Attempt.require c r) := by
  cases c with
  | true => exact pure ()
  | false => exact refuse r

theorem accept
    (check : Except Refusal α) :
    Keeps (E := E) A P (Attempt.accept check) := by
  cases check with
  | ok a => exact pure a
  | error r => exact refuse r

theorem lift
    {x : Quiet E α}
    (h : Quiet.Keeps A P x) :
    Keeps A P (Attempt.lift x) := by
  intro g hP
  apply Leads.last
  apply Leads.lift
  apply (h g hP).mono
  intro a g' _ _ hSame
  exact .pure hSame

theorem read (f : World E → α) :
    Keeps A P (Attempt.lift (Quiet.read f)) :=
  lift (.read f)

theorem ite
    {c : Prop}
    [Decidable c]
    {x y : Attempt E α}
    (hThen : c → Keeps A P x)
    (hElse : ¬ c → Keeps A P y) :
    Keeps A P (if c then x else y) := by
  split
  case isTrue h => exact hThen h
  case isFalse h => exact hElse h

/- Something that is done before the rest, if at all. -/
theorem optional
    {c : Prop}
    [Decidable c]
    {x y : Attempt E α}
    (hRest : Keeps A P y)
    (hFirst : Keeps A P y → Keeps A P x) :
    Keeps A P (if c then x else y) :=
  ite (fun _ => hFirst hRest) fun _ => hRest

------------------------------------------------------------
-- Cleaning Up
------------------------------------------------------------

theorem ensuring
    {body : Attempt E α}
    {cleanup : Quiet E Unit}
    (hBody : Keeps A P body)
    (hCleanup : Quiet.Keeps A P cleanup) :
    Keeps A P (Attempt.ensuring body cleanup) := by
  intro g hP
  apply Leads.ensuring
  have hRest : ∀ g', g'.custody = g.custody →
      Quiet.Leads A g' g'.world cleanup
        fun _ g'' => g''.custody = g.custody := by
    intro g' hSame
    apply (hCleanup g' (hSame ▸ hP)).mono
    intro _ g'' _ _ hSame'
    rw [hSame', hSame]
  apply (hBody g hP).mono
  · exact fun _ g' _ _ hSame => hRest g' hSame
  · exact fun g' _ _ hSame => hRest g' hSame

theorem tolerate
    {body : Attempt E Unit}
    {handler : DatabaseError → Quiet E Unit}
    (hBody : Keeps A P body)
    (hHandler : ∀ e, Quiet.Keeps A P (handler e)) :
    Quiet.Keeps A P (Attempt.tolerate body handler) := by
  intro g hP
  apply Leads.tolerate (Q := fun _ g' => g'.custody = g.custody)
  · exact hBody g hP
  · intro e g' hSame
    apply (hHandler e g' (hSame ▸ hP)).mono
    intro _ g'' _ _ hSame'
    rw [hSame', hSame]

/- What a failure of an attempt is answered with. -/
theorem tryCatch
    {k : Failure → Attempt E α}
    (hBody : Keeps A P x)
    (hHandler : ∀ e, Keeps A P (k e)) :
    Keeps A P (MonadExcept.tryCatch x k) := by
  intro g hP
  unfold Attempt.Leads
  rw [ExceptT.run_tryCatch]
  apply Quiet.Leads.bind
  apply Quiet.Leads.mono (hBody g hP)
  intro result g' _ _ hSame
  cases result with
  | ok a => exact Quiet.Leads.pure hSame
  | error e =>
      apply Quiet.Leads.mono (hHandler e g' (hSame ▸ hP))
      intro result g'' _ _ hSame'
      cases result with
      | ok a => exact hSame'.trans hSame
      | error e => exact hSame'.trans hSame

end Attempt.Keeps

end SqliteAccess
