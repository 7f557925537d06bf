import SqliteAccess.Proofs.Session.Steps

/-
  What quiet steps and attempts lead to.

  A program is followed through the stages that it passes.
  Between two of them it may hold a world of its own, which
  becomes a stage again once the changes since the last stage
  make up a step.

  Key definitions include:
    * `Quiet.Leads`
    * `Attempt.Leads`
    * `Stage.Asked`

  The programs are characterized by:
    * `Quiet.Leads.commit`
    * `Quiet.Leads.bind`
    * `Attempt.Leads.bind`
    * `Attempt.Leads.ensuring`
    * `Attempt.Leads.onFailure`
-/

namespace SqliteAccess

variable {E : Engine} {α β : Type} {A B : Part → Prop}
variable {g g' : Stage E} {w : World E}

------------------------------------------------------------
-- Quiet Steps
------------------------------------------------------------

/-
  Whether a quiet step, taken in a world after a sound stage,
  leads from that stage by steps to one where a claim holds.
-/
def Quiet.Leads
    (A : Part → Prop)
    (g : Stage E)
    (w : World E)
    (x : Quiet E α)
    (Q : α → Stage E → Prop) : Prop :=
  Sound g → ∀ log, ∃ k,
    Steps A g ⟨k, (x ⟨w, log⟩).2.world⟩ ∧
      Q (x ⟨w, log⟩).1 ⟨k, (x ⟨w, log⟩).2.world⟩

namespace Quiet.Leads

open Quiet

variable {x : Quiet E α} {k : α → Quiet E β}
variable {Q : β → Stage E → Prop}

/- The stage may be taken to be sound. -/
theorem sound
    {x : Quiet E β}
    (h : Sound g → Leads A g w x Q) :
    Leads A g w x Q :=
  fun hSound => h hSound hSound

/- The changes since the last stage make up steps. -/
theorem commit
    {x : Quiet E β}
    (hSteps : Steps A g g')
    (h : Leads A g' g'.world x Q) :
    Leads A g g'.world x Q := by
  intro hSound log
  rcases h (hSteps.sound hSound) log with
    ⟨custody, hRest, hQ⟩
  exact ⟨custody, hSteps.trans hRest, hQ⟩

/- The end of a program. -/
theorem pure
    {b : β}
    (h : Q b g) :
    Leads A g g.world (pure b) Q :=
  fun _ _ => ⟨g.custody, .refl, h⟩

/- One program after another. -/
theorem bind
    (h : Leads A g w x fun a g' =>
      Leads A g' g'.world (k a) Q) :
    Leads A g w (x >>= k) Q := by
  intro hSound log
  rcases h hSound log with ⟨custody, hSteps, hRest⟩
  rcases hRest (hSteps.sound hSound) (x ⟨w, log⟩).2.log with
    ⟨custody', hSteps', hQ⟩
  exact ⟨custody', hSteps.trans hSteps', hQ⟩

/- A weaker claim, which may use that the stage is sound. -/
theorem mono
    {x : Quiet E β}
    {Q' : β → Stage E → Prop}
    (h : Leads A g w x Q)
    (hMore : ∀ b g', Steps A g g' → Sound g' → Q b g' →
      Q' b g') :
    Leads A g w x Q' := by
  intro hSound log
  rcases h hSound log with ⟨custody, hSteps, hQ⟩
  exact ⟨custody, hSteps,
    hMore _ _ hSteps (hSteps.sound hSound) hQ⟩

/- Steps that may change more parts. -/
theorem widen
    {x : Quiet E β}
    (hMore : ∀ part, A part → B part)
    (h : Leads A g w x Q) :
    Leads B g w x Q := by
  intro hSound log
  rcases h hSound log with ⟨custody, hSteps, hQ⟩
  exact ⟨custody, hSteps.mono hMore, hQ⟩

/- The last thing that a program does. -/
theorem last
    {x : Quiet E β}
    (h : Leads A g w (x >>= Pure.pure) Q) :
    Leads A g w x Q :=
  h

theorem read
    {f : World E → α}
    (h : Leads A g w (k (f w)) Q) :
    Leads A g w (Quiet.read f >>= k) Q :=
  h

theorem update
    {f : World E → World E}
    {k : Unit → Quiet E β}
    (h : Leads A g (f w) (k ()) Q) :
    Leads A g w (Quiet.update f >>= k) Q :=
  h

theorem invoke
    {c : Call}
    {k : c.Answer → Quiet E β}
    (h : ∀ answer engine,
      Leads A g (w.heard ⟨c, answer⟩ engine) (k answer) Q) :
    Leads A g w (Quiet.invoke c >>= k) Q :=
  h (E.answer c w.engine).1 (E.answer c w.engine).2

/- A call that changes no object. -/
theorem ask
    {c : Call}
    {k : c.Answer → Quiet E β}
    (hAllowed : ∀ answer, g.Allows ⟨c, answer⟩)
    (h : ∀ answer engine,
      Leads A (g.heard ⟨c, answer⟩ engine)
        (g.heard ⟨c, answer⟩ engine).world (k answer) Q) :
    Leads A g g.world (Quiet.invoke c >>= k) Q :=
  invoke fun answer engine =>
    commit (.single (.ask (hAllowed answer) engine))
      (h answer engine)

theorem note
    {level : LogLevel}
    {message : String}
    {fields : List LogField}
    {k : Unit → Quiet E β}
    (h : Leads A g w (k ()) Q) :
    Leads A g w (Quiet.note level message fields >>= k) Q :=
  fun hSound _ => h hSound _

theorem ite
    {c : Prop}
    [Decidable c]
    {x y : Quiet E β}
    (hThen : c → Leads A g w x Q)
    (hElse : ¬ c → Leads A g w y Q) :
    Leads A g w (if c then x else y) Q := by
  split
  case isTrue h => exact hThen h
  case isFalse h => exact hElse h

/- A program may end with a note. -/
theorem noteIf
    {c : Prop}
    [Decidable c]
    {level : LogLevel}
    {message : String}
    {fields : List LogField}
    {Q : Unit → Stage E → Prop}
    (h : Q () g) :
    Leads A g g.world
      (if c then Quiet.note level message fields
        else Pure.pure ()) Q := by
  apply ite
  · intro _
    apply last
    apply note
    exact pure h
  · exact fun _ => pure h

/-
  A loop over a list.  The invariant is about what is left of
  the list.
-/
theorem each
    {f : α → Quiet E Unit}
    (I : List α → Stage E → Prop)
    (hBody : ∀ a l g, I (a :: l) g →
      Leads A g g.world (f a) fun _ => I l)
    (l : List α)
    (hInit : I l g) :
    Leads A g g.world (Quiet.each f l) fun _ => I [] := by
  induction l generalizing g with
  | nil => exact pure hInit
  | cons a l ih =>
      apply bind
      apply (hBody a l g hInit).mono
      intro _ g' _ _ hNext
      exact ih hNext

end Quiet.Leads

------------------------------------------------------------
-- Attempts
------------------------------------------------------------

/- What is claimed of the two ways in which attempts end. -/
def Attempt.Ends
    (Q : α → Stage E → Prop)
    (F : Stage E → Prop) :
    Except Failure α → Stage E → Prop
  | .ok a => Q a
  | .error _ => F

/- A claim that both ways of ending make. -/
theorem Attempt.Ends.elim
    {R : Stage E → Prop}
    {result : Except Failure α}
    (hEnd : Ends (fun _ => R) R result g) :
    R g := by
  cases result with
  | ok a => exact hEnd
  | error e => exact hEnd

/- An attempt that cannot succeed has failed. -/
theorem Attempt.Ends.failed
    {F : Stage E → Prop}
    {result : Except Failure α}
    (hEnd : Ends (fun _ _ => False) F result g) :
    ∃ e, result = .error e := by
  cases result with
  | ok a => exact False.elim hEnd
  | error e => exact ⟨e, rfl⟩

/-
  Whether an attempt leads by steps to a stage where one
  claim holds if it succeeds, and another one if it fails.
-/
def Attempt.Leads
    (A : Part → Prop)
    (g : Stage E)
    (w : World E)
    (x : Attempt E α)
    (Q : α → Stage E → Prop)
    (F : Stage E → Prop) : Prop :=
  Quiet.Leads A g w x.run (Attempt.Ends Q F)

namespace Attempt.Leads

variable {x : Attempt E α} {k : α → Attempt E β}
variable {Q : β → Stage E → Prop} {F : Stage E → Prop}

theorem sound
    {x : Attempt E β}
    (h : Sound g → Leads A g w x Q F) :
    Leads A g w x Q F :=
  Quiet.Leads.sound h

theorem commit
    {x : Attempt E β}
    (hSteps : Steps A g g')
    (h : Leads A g' g'.world x Q F) :
    Leads A g g'.world x Q F :=
  Quiet.Leads.commit hSteps h

theorem pure
    {b : β}
    (h : Q b g) :
    Leads A g g.world (Pure.pure b) Q F :=
  Quiet.Leads.pure h

theorem fail
    {e : DatabaseError}
    (h : F g) :
    Leads A g g.world (Attempt.fail e) Q F :=
  Quiet.Leads.pure h

theorem refuse
    {r : Refusal}
    (h : F g) :
    Leads A g g.world (Attempt.refuse r) Q F :=
  Quiet.Leads.pure h

theorem throw
    {e : Failure}
    (h : F g) :
    Leads A g g.world (MonadExcept.throw e) Q F :=
  Quiet.Leads.pure h

/- One attempt after another; a failure ends both. -/
theorem bind
    (h : Leads A g w x
      (fun a g' => Leads A g' g'.world (k a) Q F) F) :
    Leads A g w (x >>= k) Q F := by
  apply Quiet.Leads.bind (x := x.run)
    (k := ExceptT.bindCont k)
  apply Quiet.Leads.mono h
  intro result g' _ _ hEnd
  cases result with
  | ok a => exact hEnd
  | error e => exact Quiet.Leads.pure hEnd

/- Weaker claims, which may use that the stage is sound. -/
theorem mono
    {x : Attempt E β}
    {Q' : β → Stage E → Prop}
    {F' : Stage E → Prop}
    (h : Leads A g w x Q F)
    (hMore : ∀ b g', Steps A g g' → Sound g' → Q b g' →
      Q' b g')
    (hFail : ∀ g', Steps A g g' → Sound g' → F g' → F' g') :
    Leads A g w x Q' F' := by
  apply Quiet.Leads.mono h
  intro result g' hSteps hSound hEnd
  cases result with
  | ok b => exact hMore b g' hSteps hSound hEnd
  | error e => exact hFail g' hSteps hSound hEnd

/- Steps that may change more parts. -/
theorem widen
    {x : Attempt E β}
    (hMore : ∀ part, A part → B part)
    (h : Leads A g w x Q F) :
    Leads B g w x Q F :=
  Quiet.Leads.widen hMore h

/- The last thing that an attempt does. -/
theorem last
    {x : Attempt E β}
    (h : Leads A g w (x >>= Pure.pure) Q F) :
    Leads A g w x Q F := by
  rw [bind_pure] at h
  exact h

/- A quiet step inside an attempt. -/
theorem lift
    {x : Quiet E α}
    (h : Quiet.Leads A g w x
      fun a g' => Leads A g' g'.world (k a) Q F) :
    Leads A g w (Attempt.lift x >>= k) Q F :=
  Quiet.Leads.bind (x := x) (k := fun a => (k a).run) h

theorem read
    {f : World E → α}
    (h : Leads A g w (k (f w)) Q F) :
    Leads A g w (Attempt.lift (Quiet.read f) >>= k) Q F :=
  h

theorem update
    {f : World E → World E}
    {k : Unit → Attempt E β}
    (h : Leads A g (f w) (k ()) Q F) :
    Leads A g w (Attempt.lift (Quiet.update f) >>= k) Q F :=
  h

theorem invoke
    {c : Call}
    {k : c.Answer → Attempt E β}
    (h : ∀ answer engine,
      Leads A g (w.heard ⟨c, answer⟩ engine) (k answer) Q F) :
    Leads A g w (Attempt.lift (Quiet.invoke c) >>= k) Q F :=
  h (E.answer c w.engine).1 (E.answer c w.engine).2

/- A call that changes no object. -/
theorem ask
    {c : Call}
    {k : c.Answer → Attempt E β}
    (hAllowed : ∀ answer, g.Allows ⟨c, answer⟩)
    (h : ∀ answer engine,
      Leads A (g.heard ⟨c, answer⟩ engine)
        (g.heard ⟨c, answer⟩ engine).world (k answer) Q F) :
    Leads A g g.world (Attempt.lift (Quiet.invoke c) >>= k)
      Q F :=
  invoke fun answer engine =>
    commit (.single (.ask (hAllowed answer) engine))
      (h answer engine)

theorem note
    {level : LogLevel}
    {message : String}
    {fields : List LogField}
    {k : Unit → Attempt E β}
    (h : Leads A g w (k ()) Q F) :
    Leads A g w
      (Attempt.lift (Quiet.note level message fields) >>= k)
      Q F :=
  fun hSound _ => h hSound _

theorem ite
    {c : Prop}
    [Decidable c]
    {x y : Attempt E β}
    (hThen : c → Leads A g w x Q F)
    (hElse : ¬ c → Leads A g w y Q F) :
    Leads A g w (if c then x else y) Q F := by
  split
  case isTrue h => exact hThen h
  case isFalse h => exact hElse h

/- A refusal unless a condition holds. -/
theorem require
    {c : Bool}
    {r : Refusal}
    {k : Unit → Attempt E β}
    (hTrue : c = true → Leads A g g.world (k ()) Q F)
    (hFalse : c = false → F g) :
    Leads A g g.world (Attempt.require c r >>= k) Q F := by
  cases c with
  | true => exact hTrue rfl
  | false => exact bind (refuse (hFalse rfl))

/- The result of a check, or its refusal. -/
theorem accept
    {check : Except Refusal α}
    (hOk : ∀ a, check = .ok a → Leads A g g.world (k a) Q F)
    (hError : F g) :
    Leads A g g.world (Attempt.accept check >>= k) Q F := by
  cases check with
  | ok a => exact hOk a rfl
  | error r => exact bind (refuse hError)

------------------------------------------------------------
-- Cleaning Up
------------------------------------------------------------

theorem ensuring
    {body : Attempt E β}
    {cleanup : Quiet E Unit}
    (h : Leads A g w body
      (fun b g' => Quiet.Leads A g' g'.world cleanup
        fun _ => Q b)
      (fun g' => Quiet.Leads A g' g'.world cleanup
        fun _ => F)) :
    Leads A g w (Attempt.ensuring body cleanup) Q F := by
  apply Quiet.Leads.bind (x := body.run)
  apply Quiet.Leads.mono h
  intro result g' _ _ hEnd
  apply Quiet.Leads.bind
  cases result with
  | ok b =>
      have hClean : Quiet.Leads A g' g'.world cleanup
          fun _ => Q b := hEnd
      apply hClean.mono
      intro _ g'' _ _ hQ
      exact Quiet.Leads.pure hQ
  | error e =>
      have hClean : Quiet.Leads A g' g'.world cleanup
          fun _ => F := hEnd
      apply hClean.mono
      intro _ g'' _ _ hF
      exact Quiet.Leads.pure hF

theorem onFailure
    {body : Attempt E β}
    {cleanup : Quiet E Unit}
    (h : Leads A g w body Q
      (fun g' => Quiet.Leads A g' g'.world cleanup
        fun _ => F)) :
    Leads A g w (Attempt.onFailure body cleanup) Q F := by
  apply Quiet.Leads.bind (x := body.run)
  apply Quiet.Leads.mono h
  intro result g' _ _ hEnd
  cases result with
  | ok b => exact Quiet.Leads.pure hEnd
  | error e =>
      have hClean : Quiet.Leads A g' g'.world cleanup
          fun _ => F := hEnd
      apply Quiet.Leads.bind
      apply hClean.mono
      intro _ g'' _ _ hF
      exact Quiet.Leads.pure hF

/- An attempt whose failure is only reported. -/
theorem tolerate
    {body : Attempt E Unit}
    {handler : DatabaseError → Quiet E Unit}
    {Q : Unit → Stage E → Prop}
    (h : Leads A g w body Q (Q ()))
    (hHandler : ∀ e g', Q () g' →
      Quiet.Leads A g' g'.world (handler e) Q) :
    Quiet.Leads A g w (Attempt.tolerate body handler) Q := by
  apply Quiet.Leads.bind (x := body.run)
  apply Quiet.Leads.mono h
  intro result g' _ _ hEnd
  cases result with
  | ok _ => exact Quiet.Leads.pure hEnd
  | error failure =>
      cases failure with
      | database e => exact hHandler e g' hEnd
      | _ => exact Quiet.Leads.pure hEnd

end Attempt.Leads

------------------------------------------------------------
-- Asking
------------------------------------------------------------

/- Whether one stage comes after another by mere asking. -/
def Stage.Asked (g g' : Stage E) : Prop :=
  ∃ trace engine,
    g' = { g with world := { g.world with trace, engine } }

namespace Stage.Asked

variable {g'' : Stage E}

theorem refl (g : Stage E) : g.Asked g :=
  ⟨g.world.trace, g.world.engine, rfl⟩

theorem heard
    (e : Event)
    (engine : E.State)
    (hAsked : g.Asked g') :
    g.Asked (g'.heard e engine) := by
  rcases hAsked with ⟨_, _, rfl⟩
  exact ⟨_, _, rfl⟩

theorem trans
    (hFirst : g.Asked g')
    (hSecond : g'.Asked g'') :
    g.Asked g'' := by
  rcases hFirst with ⟨_, _, rfl⟩
  rcases hSecond with ⟨_, _, rfl⟩
  exact ⟨_, _, rfl⟩

theorem custody
    (hAsked : g.Asked g') :
    g'.custody = g.custody := by
  rcases hAsked with ⟨_, _, rfl⟩
  rfl

theorem statement
    (hAsked : g.Asked g')
    (p : Place) :
    g'.world.statement p = g.world.statement p := by
  rcases hAsked with ⟨_, _, rfl⟩
  rfl

end Stage.Asked

namespace Attempt

variable {db : DatabaseHandle} {code : ResultCode}
variable {phase : Phase} {sql : Bytes}

/- Reading the error of a handle only asks. -/
theorem handleError_leads
    (hOpen : g.world.Opens db ∨
      g.custody.arriving = some db) :
    Quiet.Leads A g g.world
      (handleError db code phase sql)
      fun _ g' => g.Asked g' := by
  unfold handleError
  apply Quiet.Leads.ask
  · exact fun _ => .database rfl hOpen
  intro full _
  apply Quiet.Leads.ask
  · exact fun _ => .database rfl hOpen
  intro message _
  apply Quiet.Leads.ite
  · intro _
    apply Quiet.Leads.ask
    · exact fun _ => .database rfl hOpen
    intro offset _
    apply Quiet.Leads.pure
    exact (((Stage.Asked.refl g).heard _ _).heard _ _).heard
      _ _
  · intro _
    apply Quiet.Leads.pure
    exact ((Stage.Asked.refl g).heard _ _).heard _ _

/- A call that succeeded passes its check. -/
theorem check_ok :
    check (E := E) db ResultCode.ok phase sql = pure () := by
  simp [check]

/- A call that failed does not. -/
theorem check_of_ne
    (hFailed : code ≠ ResultCode.ok) :
    check (E := E) db code phase sql =
      lift (handleError db code phase sql) >>= fail := by
  simp [check, hFailed]

/- Checking a result only asks. -/
theorem check_leads
    (hOpen : g.world.Opens db ∨
      g.custody.arriving = some db) :
    Leads A g g.world (check db code phase sql)
      (fun _ g' => g.Asked g') g.Asked := by
  unfold check
  apply Leads.ite
  · intro _
    apply Leads.lift
    apply (handleError_leads hOpen).mono
    intro e g' _ _ hAsked
    exact .fail hAsked
  · intro _
    exact .pure (.refl g)

/- A call whose result is checked only asks. -/
theorem ask_check_leads
    {c : Call}
    {result : c.Answer → ResultCode}
    (hAllowed : ∀ answer, g.Allows ⟨c, answer⟩)
    (hOpen : g.world.Opens db ∨
      g.custody.arriving = some db) :
    Leads A g g.world
      (lift (Quiet.invoke c) >>= fun answer =>
        check db (result answer) phase sql)
      (fun _ => g.Asked) g.Asked := by
  apply Leads.ask
  · exact hAllowed
  intro answer engine
  have hAsked := (Stage.Asked.refl g).heard
    ⟨c, answer⟩ engine
  apply Leads.mono
    (check_leads (g := g.heard ⟨c, answer⟩ engine) hOpen)
  · intro _ g' _ _ hChecked
    exact hAsked.trans hChecked
  · intro g' _ _ hChecked
    exact hAsked.trans hChecked

end Attempt

end SqliteAccess
