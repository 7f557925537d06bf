import SqliteAccess.Proofs.Connection.Submitting
import SqliteAccess.Proofs.Transaction.Lineage

/-
  The names under which savepoints end.

  The guard of a savepoint ends it under the name that it was
  made with, wherever the guard has been moved.  That name is
  an identifier, since it was checked when it was given.

  Key definitions include:
    * `Guard.Bears`
    * `Deed.Names`
    * `Numbered`
    * `Titled`

  The names are characterized by:
    * `GuardCall.creates_named`
    * `Titled.after`
    * `titled`
    * `GuardCall.texts_of_bears`
-/

namespace SqliteAccess

variable {E : Engine}

open Attempt

------------------------------------------------------------
-- Names That Are Given
------------------------------------------------------------

/- Whether a guard ends the savepoint with a certain name. -/
structure Guard.Bears
    (g : Guard)
    (name : Bytes) : Prop where
  completion : g.completion = Savepoint.releaseSql name
  withdrawal : g.withdrawal =
    [Savepoint.rollbackSql name, Savepoint.releaseSql name]
  farewell : g.farewell = Savepoint.releaseSql name

/- The guard of a savepoint bears its name. -/
theorem Savepoint.guard_bears (t : Savepoint) :
    t.guard.Bears t.name :=
  ⟨rfl, rfl, rfl⟩

/- A call that did not fail was accepted, text and all. -/
theorem Session.Submits.accepted_of_ok
    {α : Type}
    {s : Session E}
    {accepted : Prop}
    {sql : Bytes}
    {x : Attempt E α}
    {a : α}
    (hSubmits : s.Submits accepted sql x)
    (hOk : (x.run s).1 = .ok a) :
    accepted ∧ sql.length ≤ Statement.longestText := by
  by_contra hNot
  rcases hSubmits.objects hNot with ⟨r, _, hRun⟩
  rw [hRun] at hOk
  cases hOk

namespace GuardCall

/- The name that a call gives to a savepoint. -/
def name? : GuardCall → Option Bytes
  | nest _ _ name => some name
  | nestOn _ _ name => some name
  | _ => none

variable {call : GuardCall} {s : Session E} {q : Place}

/- A savepoint that was made is there and bears its name. -/
theorem start_bears
    {c : ConnectionId}
    {name : Bytes}
    (hOk : ((Savepoint.start c q name).run s).1 = .ok ()) :
    ∃ g, ((Savepoint.start c q name).run
        s).2.world.active .savepoint q = some g ∧
      g.Bears name := by
  have hRun : (Savepoint.start c q name).run s =
      (.ok (), ((Savepoint.start c q name).run s).2) :=
    Prod.ext hOk rfl
  generalize ((Savepoint.start c q name).run s).2 = u at hRun
  unfold Savepoint.start at hRun
  rcases run_bind_eq_ok.mp hRun with ⟨_, _, _, hRest⟩
  rcases run_bind_eq_ok.mp hRest with ⟨_, t, _, hKept⟩
  cases hKept
  refine ⟨_, ?_, Savepoint.guard_bears
    { connection := some c, name, active := true }⟩
  exact (World.active_putSavepoint rfl).trans
    (if_pos ⟨rfl, rfl⟩)

/-
  A call that makes a savepoint gives a name to it, which is
  an identifier, and sends it to the engine.
-/
theorem creates_named
    (hCreates : call.creates? = some (.savepoint, q))
    (hOk : (call.perform.run s).1 = .ok ()) :
    ∃ name g, call.name? = some name ∧ name.IsIdentifier ∧
      (call.perform.run s).2.sent =
        Savepoint.startSql name :: s.sent ∧
      (call.perform.run s).2.world.active .savepoint q =
        some g ∧
      g.Bears name := by
  cases call with
  | nest t p name =>
      cases hCreates
      have hSubmits : s.Submits _ _ (nest t q name).perform :=
        Transaction.savepoint_submits
      rcases hSubmits.accepted_of_ok hOk with
        ⟨hAccepted, hFits⟩
      have hSent := hSubmits.sends hAccepted hFits
      rcases nest_cases t q name s with
        ⟨e, hRun⟩ | ⟨_, c, _, _, hRun⟩
      · cases hOk.symm.trans (congrArg Prod.fst hRun)
      · simp only [perform] at hOk hSent ⊢
        rw [hRun] at hOk hSent ⊢
        rcases start_bears hOk with ⟨g, hActive, hBears⟩
        exact ⟨name, g, rfl, hAccepted.2, hSent, hActive,
          hBears⟩
  | nestOn c p name =>
      cases hCreates
      have hSubmits : s.Submits _ _ (nestOn c q name).perform :=
        Savepoint.start_submits
      rcases hSubmits.accepted_of_ok hOk with
        ⟨hAccepted, hFits⟩
      rcases start_bears hOk with ⟨g, hActive, hBears⟩
      exact ⟨name, g, rfl, hAccepted.2,
        hSubmits.sends hAccepted hFits, hActive, hBears⟩
  | _ => cases hCreates

end GuardCall

------------------------------------------------------------
-- Names That Are Kept
------------------------------------------------------------

/-
  Whether a deed has made a savepoint:

    * `given`: it was a call that gave the name to it
    * `done`: the call succeeded
    * `plain`: the name is an identifier
    * `sent`: the call sent that name, and nothing else
-/
structure Deed.Names
    (d : Deed E)
    (name : Bytes) : Prop where
  given : ∃ call, d.act = .guard call ∧
    call.name? = some name
  done : d.result = .ok ()
  plain : name.IsIdentifier
  sent : d.sent = [Savepoint.startSql name]

/- Whether a deed has a certain number among others. -/
def Numbered
    (journal : List (Deed E))
    (m : Nat)
    (d : Deed E) : Prop :=
  ∃ later earlier, journal = later ++ d :: earlier ∧
    earlier.length = m

/- Later deeds do not change the numbers of earlier ones. -/
theorem Numbered.cons
    {journal : List (Deed E)}
    {m : Nat}
    {d : Deed E}
    (hNumbered : Numbered journal m d)
    (d' : Deed E) :
    Numbered (d' :: journal) m d := by
  rcases hNumbered with ⟨later, earlier, rfl, hLength⟩
  exact ⟨d' :: later, earlier, rfl, hLength⟩

/-
  Whether each active guard of a savepoint bears the name
  that its lineage was founded with.
-/
def Titled
    (journal : List (Deed E))
    (w : World E) : Prop :=
  ∀ p g, w.active .savepoint p = some g →
    ∃ m founder name, lineages journal .savepoint p = some m ∧
      Numbered journal m founder ∧ founder.Names name ∧
        g.Bears name

variable {d : Deed E} {earlier : List (Deed E)}
variable {p q : Place} {g : Guard} {name : Bytes}

/- A savepoint that a deed has constructed was founded so. -/
theorem Deed.names_of_creates
    (hCreates : d.creates? = some (.savepoint, q))
    (hActive : d.after.world.active .savepoint q = some g) :
    ∃ name, d.Names name ∧ g.Bears name := by
  cases hAct : d.act with
  | guard call =>
      have hOk : (call.perform.run d.before).1 = .ok () := by
        simp only [creates?, hAct] at hCreates
        split at hCreates
        case isFalse => cases hCreates
        case isTrue hOk =>
          simp only [result, hAct, Act.perform] at hOk
          cases hResult : (call.perform.run d.before).1 with
          | ok _ => rfl
          | error e =>
              rw [hResult] at hOk
              cases hOk
      have hPlace : call.creates? = some (.savepoint, q) := by
        simp only [creates?, hAct] at hCreates
        split at hCreates
        · exact hCreates
        · cases hCreates
      rcases GuardCall.creates_named hPlace hOk with
        ⟨name, g', hName, hPlain, hSent, hFound, hBears⟩
      have hAfter : d.after = (call.perform.run d.before).2 := by
        simp only [after, hAct, Act.perform]
      rw [hAfter, hFound] at hActive
      cases hActive
      refine ⟨name, ⟨⟨call, hAct, hName⟩, ?_, hPlain, ?_⟩, hBears⟩
      · simp only [result, hAct, Act.perform]
        exact hOk
      · rw [← hAfter, d.sent_after] at hSent
        exact List.append_cancel_right hSent
  | _ => simp [creates?, hAct] at hCreates

/- A deed lets the guards of savepoints keep their names. -/
theorem Titled.after
    (hTitled : Titled earlier d.before.world) :
    Titled (d :: earlier) d.after.world := by
  intro q g hActive
  simp only [lineages]
  by_cases hNew : d.creates? = some (.savepoint, q)
  · rcases Deed.names_of_creates hNew hActive with
      ⟨name, hNames, hBears⟩
    exact ⟨earlier.length, d, name,
      Deed.passOn_of_creates hNew, ⟨[], earlier, rfl, rfl⟩,
      hNames, hBears⟩
  · have hBefore :=
      (Deed.active_before hActive).resolve_left hNew
    rcases hTitled _ _ hBefore with
      ⟨m, founder, name, hLabel, hNumbered, hNames, hBears⟩
    rw [Deed.passOn_of_active hNew hActive]
    exact ⟨m, founder, name, hLabel, hNumbered.cons d, hNames,
      hBears⟩

/- After any deeds, savepoints bear their names. -/
theorem titled
    {s s' : Session E}
    {journal : List (Deed E)}
    (hNone : ∀ k p, s.world.active k p = none)
    (hChained : Chained s journal s') :
    Titled journal s'.world := by
  induction journal generalizing s' with
  | nil =>
      cases hChained
      intro p g hActive
      rw [hNone] at hActive
      cases hActive
  | cons d earlier ih =>
      rw [← hChained.2]
      exact (ih hChained.1).after

------------------------------------------------------------
-- Names That Are Sent
------------------------------------------------------------

/- What a call on the guard of a savepoint may send. -/
theorem GuardCall.texts_of_bears
    {call : GuardCall}
    {w : World E}
    {sql : Bytes}
    (hSpeaker : call.speaker? = some (.savepoint, p))
    (hActive : w.active .savepoint p = some g)
    (hBears : g.Bears name)
    (hMem : sql ∈ call.texts w) :
    sql = Savepoint.releaseSql name ∨
      sql = Savepoint.rollbackSql name := by
  cases call <;> cases hSpeaker
  case complete =>
    simp [texts, hActive, hBears.completion] at hMem
    exact .inl hMem
  case rollback =>
    simp [texts, hActive, hBears.withdrawal] at hMem
    exact hMem
  case move => cases hMem
  case assign source =>
    simp only [texts, hActive] at hMem
    split at hMem
    · cases hMem
    · simp [hBears.farewell] at hMem
      exact .inl hMem
  case destroy =>
    simp [texts, hActive, hBears.farewell] at hMem
    exact .inl hMem

end SqliteAccess
