import SqliteAccess.Proofs.Session.Steps

/-
  What a backup knows of its own steps.

  A backup with a handle is complete if and only if a step on
  that handle has answered that everything is copied, and no
  step follows that one.  What is not driven keeps its mark,
  even if it is finished.

  Key definitions include:
    * `Event.advances`
    * `Event.completes`
    * `Trace.hasCopied`
    * `Trace.PausesSince`
    * `Backup.ended`
    * `BackupChange`
    * `Tracked`

  The steps are characterized by:
    * `Step.changesBackups`
    * `Steps.tracked`
    * `Steps.undriven`
    * `Steps.undriven_ended`
-/

namespace SqliteAccess

------------------------------------------------------------
-- Steps in a Trace
------------------------------------------------------------

namespace Event

/- Whether a call advances a backup. -/
def advances (bk : BackupHandle) : Event → Bool
  | ⟨.stepBackup bk' _, _⟩ => bk' = bk
  | _ => false

/- Whether a call has advanced a backup to its end. -/
def completes (bk : BackupHandle) : Event → Bool
  | ⟨.stepBackup bk' _, code⟩ =>
      bk' = bk && code = ResultCode.done
  | _ => false

variable {e : Event} {bk : BackupHandle}

theorem advances_of_completes
    (hCompletes : e.completes bk) :
    e.advances bk := by
  rcases e with ⟨call, answer⟩
  cases call <;> try cases hCompletes
  case stepBackup => simp_all [completes, advances]

theorem not_completes
    (hNot : e.advances bk = false) :
    e.completes bk = false := by
  rw [Bool.eq_false_iff]
  intro hCompletes
  rw [advances_of_completes hCompletes] at hNot
  cases hNot

/- A call advances only the backup that it names. -/
theorem not_advances_of_ne
    (hOther : e.call.backup? ≠ some bk) :
    e.advances bk = false := by
  rcases e with ⟨call, answer⟩
  cases call <;> try rfl
  case stepBackup => simp_all [Call.backup?, advances]

end Event

namespace Trace

/- Whether a step of a backup has copied it to its end. -/
def hasCopied
    (t : Trace)
    (bk : BackupHandle) : Bool :=
  t.any (·.completes bk)

/- Whether a backup was not advanced since a moment. -/
def PausesSince
    (t : Trace)
    (bk : BackupHandle)
    (t₀ : Trace) : Prop :=
  ∃ later, t = later ++ t₀ ∧
    ∀ e ∈ later, e.advances bk = false

/- Whether no backup is advanced that was copied before. -/
def StopsCopying (t : Trace) : Prop :=
  t.Each fun earlier e =>
    ∀ bk, e.advances bk → earlier.hasCopied bk = false

variable {t t₀ t₁ : Trace} {e : Event} {bk : BackupHandle}

theorem hasCopied_cons :
    hasCopied (e :: t) bk =
      (e.completes bk || t.hasCopied bk) := rfl

theorem stopsCopying_cons :
    StopsCopying (e :: t) ↔
      (∀ bk, e.advances bk → t.hasCopied bk = false) ∧
        t.StopsCopying :=
  each_cons

/- What was copied to its end was so for good. -/
theorem hasCopied_of_suffix
    (hSuffix : t₀ <:+ t)
    (hCopied : t₀.hasCopied bk = true) :
    t.hasCopied bk = true := by
  rcases List.any_eq_true.mp hCopied with
    ⟨e, hMember, hCompletes⟩
  exact List.any_eq_true.mpr
    ⟨e, hSuffix.subset hMember, hCompletes⟩

/- What was never created was not copied. -/
theorem hasCopied_eq_false
    (hRespected : (Lifetime.backup bk).Respected t)
    (hNew : (Lifetime.backup bk).births t = 0) :
    t.hasCopied bk = false := by
  induction t with
  | nil => rfl
  | cons e t ih =>
      rw [Lifetime.births_cons] at hNew
      have hBefore : (Lifetime.backup bk).births t = 0 := by
        omega
      rw [hasCopied_cons, ih hRespected.2 hBefore,
        Bool.or_false]
      rw [Bool.eq_false_iff]
      intro hCompletes
      have hAlive : (Lifetime.backup bk).alive t := by
        rcases e with ⟨call, answer⟩
        cases call <;> try cases hCompletes
        case stepBackup =>
          apply hRespected.1.2
          · simp_all [Event.completes, Call.backup?]
          · simp [Call.makesBackup]
      exact Lifetime.births_ne_zero_of_alive hAlive hBefore

namespace PausesSince

theorem refl
    (t : Trace)
    (bk : BackupHandle) :
    t.PausesSince bk t :=
  ⟨[], rfl, fun _ hMember => absurd hMember List.not_mem_nil⟩

theorem trans
    (hFirst : t₁.PausesSince bk t₀)
    (hSecond : t.PausesSince bk t₁) :
    t.PausesSince bk t₀ := by
  rcases hFirst with ⟨later, rfl, hBefore⟩
  rcases hSecond with ⟨later', rfl, hAfter⟩
  refine ⟨later' ++ later, by simp, fun e hMember => ?_⟩
  rcases List.mem_append.mp hMember with hIn | hIn
  · exact hAfter e hIn
  · exact hBefore e hIn

theorem cons
    (t : Trace)
    (hNot : e.advances bk = false) :
    PausesSince (e :: t) bk t :=
  ⟨[e], rfl, by simpa using hNot⟩

/- A backup that pauses is copied to its end as before. -/
theorem hasCopied_eq
    (hPauses : t.PausesSince bk t₀) :
    t.hasCopied bk = t₀.hasCopied bk := by
  rcases hPauses with ⟨later, rfl, hNone⟩
  have hLater : later.any (·.completes bk) = false := by
    rw [List.any_eq_false]
    intro e hMember
    simp [Event.not_completes (hNone e hMember)]
  simp only [hasCopied, List.any_append, hLater,
    Bool.false_or]

/-
  What was created and is not alive is not advanced any more.
-/
theorem of_dead
    (hRespected : (Lifetime.backup bk).Respected t)
    (hSuffix : t₀ <:+ t)
    (hBorn : (Lifetime.backup bk).births t₀ ≠ 0)
    (hDead : (Lifetime.backup bk).alive t₀ = false) :
    t.PausesSince bk t₀ := by
  rcases hSuffix with ⟨later, rfl⟩
  refine ⟨later, rfl, fun e hMember => ?_⟩
  apply Event.not_advances_of_ne
  simpa using (Lifetime.not_named_of_dead hBorn hDead later
    hRespected).2.2 e hMember

end PausesSince

end Trace

------------------------------------------------------------
-- Changes of Backups
------------------------------------------------------------

/- A backup after it has been finished. -/
def Backup.ended (b : Backup) : Backup :=
  { b.unlisted with handle := none }

/-
  What one step can do to the backups and to the trace.  Where
  a backup is started, advanced or removed, it is driven.
-/
inductive BackupChange
    (drives : Place → Prop)
    (backups : Table Place Backup)
    (t : Trace) : Table Place Backup → Trace → Prop
  | nothing : BackupChange drives backups t backups t
  | other {e}
      (hOther : ∀ bk, Event.advances bk e = false) :
      BackupChange drives backups t backups (e :: t)
  | started {p b bk e}
      (hDrives : p = .scratch ∨ drives p)
      (hVacant : backups.get? p = none)
      (hHandle : b.handle = some bk)
      (hOpen : b.complete = false)
      (hNew : (Lifetime.backup bk).births t = 0)
      (hOther : ∀ bk, Event.advances bk e = false) :
      BackupChange drives backups t (backups.put p b) (e :: t)
  | copied {p b bk pages}
      (hDrives : p = .scratch ∨ drives p)
      (hBackup : backups.get? p = some b)
      (hHandle : b.handle = some bk)
      (hOpen : b.complete = false) :
      BackupChange drives backups t
        (backups.put p { b with complete := true })
        (⟨.stepBackup bk pages, ResultCode.done⟩ :: t)
  | paused {p b bk pages code}
      (hDrives : p = .scratch ∨ drives p)
      (hBackup : backups.get? p = some b)
      (hHandle : b.handle = some bk)
      (hOpen : b.complete = false)
      (hCode : code ≠ ResultCode.done) :
      BackupChange drives backups t backups
        (⟨.stepBackup bk pages, code⟩ :: t)
  | finished {p b bk code}
      (hBackup : backups.get? p = some b)
      (hHandle : b.handle = some bk) :
      BackupChange drives backups t (backups.put p b.ended)
        (⟨.finishBackup bk, code⟩ :: t)
  | dropped {p}
      (hDrives : p = .scratch ∨ drives p) :
      BackupChange drives backups t (backups.erase p) t

------------------------------------------------------------
-- Marks of Completion
------------------------------------------------------------

/-
  Whether backups know what a trace tells of them:

    * `complete`: a backup with a handle is marked as complete
      if and only if a step has copied it to its end
    * `ended`: one without a handle refers to no connection
    * `stops`: what was copied to its end is not advanced
-/
structure Tracked
    (backups : Table Place Backup)
    (t : Trace) : Prop where
  complete : ∀ {p b bk}, backups.get? p = some b →
    b.handle = some bk → b.complete = t.hasCopied bk
  ended : ∀ {p b}, backups.get? p = some b →
    b.handle = none → b.source = none ∧ b.destination = none
  stops : t.StopsCopying

section Changes

variable {drives : Place → Prop} {t t' : Trace}
variable {backups backups' : Table Place Backup}
variable {connections : Table ConnectionId Connection}
variable {issued : Nat} {p : Place} {b : Backup}
variable {bk : BackupHandle} {e : Event}

namespace Tracked

theorem empty : Tracked {} [] where
  complete hBackup := by simp at hBackup
  ended hBackup := by simp at hBackup
  stops := Trace.each_nil

/- A call that advances no backup. -/
theorem heard
    (hTracked : Tracked backups t)
    (hOther : ∀ bk, e.advances bk = false) :
    Tracked backups (e :: t) where
  complete {p b bk} hBackup hHandle := by
    rw [Trace.hasCopied_cons,
      Event.not_completes (hOther bk), Bool.false_or]
    exact hTracked.complete hBackup hHandle
  ended := hTracked.ended
  stops := by
    apply Trace.stopsCopying_cons.mpr
    refine ⟨fun bk hAdvances => ?_, hTracked.stops⟩
    rw [hOther bk] at hAdvances
    cases hAdvances

/- A backup is put in its place that knows the same. -/
theorem put
    (hTracked : Tracked backups t)
    (hComplete : ∀ bk, b.handle = some bk →
      b.complete = t.hasCopied bk)
    (hEnded : b.handle = none →
      b.source = none ∧ b.destination = none) :
    Tracked (backups.put p b) t where
  complete hBackup hHandle := by
    rcases Table.get?_put_eq_some.mp hBackup with
      ⟨rfl, rfl⟩ | ⟨_, hOld⟩
    · exact hComplete _ hHandle
    · exact hTracked.complete hOld hHandle
  ended hBackup hHandle := by
    rcases Table.get?_put_eq_some.mp hBackup with
      ⟨rfl, rfl⟩ | ⟨_, hOld⟩
    · exact hEnded hHandle
    · exact hTracked.ended hOld hHandle
  stops := hTracked.stops

theorem erase
    (hTracked : Tracked backups t) :
    Tracked (backups.erase p) t where
  complete hBackup :=
    hTracked.complete (Table.get?_erase_eq_some.mp hBackup).2
  ended hBackup :=
    hTracked.ended (Table.get?_erase_eq_some.mp hBackup).2
  stops := hTracked.stops

/-
  A backup that is not complete is advanced.  The others stay
  as they are.
-/
theorem advanced
    {code : ResultCode}
    (hTracked : Tracked backups t)
    (hCopying : Copying backups connections t issued)
    (hBackup : backups.get? p = some b)
    (hHandle : b.handle = some bk)
    (hOpen : b.complete = false)
    (hAfter : ∀ {q r}, backups'.get? q = some r →
      q = p ∧
          { b with complete := code = ResultCode.done } = r ∨
        q ≠ p ∧ backups.get? q = some r)
    (pages : Int) :
    Tracked backups'
      (⟨.stepBackup bk pages, code⟩ :: t) := by
  have hNone := hTracked.complete hBackup hHandle
  rw [hOpen] at hNone
  constructor
  case complete =>
    intro q r bk' hMember hOwn
    rcases hAfter hMember with ⟨rfl, rfl⟩ | ⟨hPlace, hOld⟩
    · cases hHandle.symm.trans hOwn
      simp [Trace.hasCopied_cons, Event.completes, ← hNone]
    · have hOther : bk ≠ bk' := by
        rintro rfl
        exact hPlace
          (hCopying.unique hOld hOwn hBackup hHandle)
      rw [Trace.hasCopied_cons, hTracked.complete hOld hOwn]
      simp [Event.completes, hOther]
  case ended =>
    intro q r hMember hEnded
    rcases hAfter hMember with ⟨rfl, rfl⟩ | ⟨_, hOld⟩
    · cases hHandle.symm.trans hEnded
    · exact hTracked.ended hOld hEnded
  case stops =>
    apply Trace.stopsCopying_cons.mpr
    refine ⟨fun bk' hAdvances => ?_, hTracked.stops⟩
    have hSame : bk = bk' := by
      simpa [Event.advances] using hAdvances
    rw [← hSame]
    exact hNone.symm

end Tracked

namespace BackupChange

/- Every change keeps the marks of completion right. -/
theorem tracked
    (hChange : BackupChange drives backups t backups' t')
    (hCopying : Copying backups connections t issued)
    (hRespected :
      ∀ bk, (Lifetime.backup bk).Respected t)
    (hTracked : Tracked backups t) :
    Tracked backups' t' := by
  cases hChange with
  | nothing => exact hTracked
  | other hOther => exact hTracked.heard hOther
  | started _ _ hHandle hOpen hNew hOther =>
      apply (hTracked.heard hOther).put
      · intro bk' hOwn
        cases hHandle.symm.trans hOwn
        rw [hOpen, Trace.hasCopied_cons,
          Event.not_completes (hOther _),
          Trace.hasCopied_eq_false (hRespected _) hNew]
        rfl
      · intro hNone
        cases hHandle.symm.trans hNone
  | copied _ hBackup hHandle hOpen =>
      apply hTracked.advanced hCopying hBackup hHandle hOpen
      intro q r hMember
      simpa using Table.get?_put_eq_some.mp hMember
  | @paused p b _ _ _ _ hBackup hHandle hOpen hCode =>
      apply hTracked.advanced hCopying hBackup hHandle hOpen
      intro q r hMember
      by_cases hPlace : q = p
      · subst hPlace
        cases hBackup.symm.trans hMember
        exact .inl ⟨rfl, by simp [hCode, ← hOpen]⟩
      · exact .inr ⟨hPlace, hMember⟩
  | finished hBackup hHandle =>
      apply (hTracked.heard fun _ => rfl).put
      · intro _ hOwn
        cases hOwn
      · exact fun _ => ⟨rfl, rfl⟩
  | dropped => exact hTracked.erase

/-
  A backup in a slot that is not driven is not advanced, and
  stays as it is unless it is finished.
-/
theorem undriven
    (hChange : BackupChange drives backups t backups' t')
    (hCopying : Copying backups connections t issued)
    (hSlot : p ≠ .scratch)
    (hNot : ¬ drives p)
    (hBackup : backups.get? p = some b)
    (hHandle : b.handle = some bk) :
    t'.PausesSince bk t ∧
      (backups'.get? p = some b ∨
        backups'.get? p = some b.ended ∧
          (Lifetime.backup bk).alive t' = false) := by
  have hElsewhere : ∀ {q}, q = .scratch ∨ drives q →
      p ≠ q := by
    rintro q hDrives rfl
    exact hDrives.elim hSlot hNot
  have hOther : ∀ {q r bk'}, q = .scratch ∨ drives q →
      backups.get? q = some r → r.handle = some bk' →
        bk' ≠ bk := by
    rintro q r bk' hDrives hFound hOwn rfl
    exact hElsewhere hDrives
      (hCopying.unique hBackup hHandle hFound hOwn)
  cases hChange with
  | nothing => exact ⟨.refl t bk, .inl hBackup⟩
  | other hOther => exact ⟨.cons t (hOther bk), .inl hBackup⟩
  | started hDrives _ _ _ _ hOther =>
      refine ⟨.cons t (hOther bk), .inl ?_⟩
      simpa [hElsewhere hDrives] using hBackup
  | copied hDrives hFound hOwn =>
      refine ⟨.cons t ?_, .inl ?_⟩
      · simpa [Event.advances] using
          hOther hDrives hFound hOwn
      · simpa [hElsewhere hDrives] using hBackup
  | paused hDrives hFound hOwn =>
      refine ⟨.cons t ?_, .inl hBackup⟩
      simpa [Event.advances] using hOther hDrives hFound hOwn
  | @finished q r _ _ hFound hOwn =>
      refine ⟨.cons t rfl, ?_⟩
      by_cases hSame : p = q
      · subst hSame
        cases hBackup.symm.trans hFound
        cases hHandle.symm.trans hOwn
        refine .inr ⟨by simp, ?_⟩
        exact Lifetime.not_alive_of_ends
          (by simp [Lifetime.backup])
      · exact .inl (by simpa [hSame] using hBackup)
  | dropped hDrives =>
      refine ⟨.refl t bk, .inl ?_⟩
      simpa [hElsewhere hDrives] using hBackup

/- A slot without an unfinished backup stays as it is. -/
theorem undriven_ended
    (hChange : BackupChange drives backups t backups' t')
    (hSlot : p ≠ .scratch)
    (hNot : ¬ drives p)
    (hEnded : ∀ b, backups.get? p = some b →
      b.handle = none) :
    backups'.get? p = backups.get? p := by
  have hElsewhere : ∀ {q}, q = .scratch ∨ drives q →
      p ≠ q := by
    rintro q hDrives rfl
    exact hDrives.elim hSlot hNot
  cases hChange with
  | nothing => rfl
  | other => rfl
  | started hDrives => simp [hElsewhere hDrives]
  | copied hDrives => simp [hElsewhere hDrives]
  | paused => rfl
  | @finished q r _ _ hFound hOwn =>
      have hOther : p ≠ q := by
        rintro rfl
        cases (hEnded r hFound).symm.trans hOwn
      simp [hOther]
  | dropped hDrives => simp [hElsewhere hDrives]

end BackupChange

end Changes

------------------------------------------------------------
-- Steps of a Session
------------------------------------------------------------

section Steps

variable {E : Engine} {A : Part → Prop} {g g' : Stage E}

/- Whether the backups change like this between two stages. -/
def Stage.ChangesBackups (g g' : Stage E) : Prop :=
  BackupChange g.custody.drives g.world.backups g.world.trace
    g'.world.backups g'.world.trace

/- What is only asked advances no backup. -/
theorem Stage.Allows.not_advances
    {e : Event}
    (hAllowed : g.Allows e)
    (bk : BackupHandle) :
    e.advances bk = false := by
  cases hAllowed with
  | global hCall =>
      apply Event.not_advances_of_ne
      simp [(Event.of_global hCall).2.2.1]
  | database hCall =>
      apply Event.not_advances_of_ne
      simp [(Event.of_database hCall).2.2.1]
  | statement hCall =>
      apply Event.not_advances_of_ne
      simp [(Event.of_statement hCall).2.2.1]
  | newStatement hCall =>
      apply Event.not_advances_of_ne
      simp [(Event.of_newStatement hCall).2.2.1]
  | column hCall =>
      apply Event.not_advances_of_ne
      simp [(Event.of_column hCall).2.2.1]
  | backup hCall =>
      rcases e with ⟨call, answer⟩
      cases call <;> first | rfl | cases hCall
  | _ => rfl

/- The backups are as before, and one call was made at most. -/
theorem Stage.changesBackups_of_same
    (hBackups : g'.world.backups = g.world.backups)
    (hTrace : g'.world.trace = g.world.trace ∨
      ∃ e, g'.world.trace = e :: g.world.trace ∧
        ∀ bk, e.advances bk = false) :
    g.ChangesBackups g' := by
  unfold ChangesBackups
  rw [hBackups]
  rcases hTrace with hNone | ⟨e, hOne, hOther⟩
  · rw [hNone]
    exact .nothing
  · rw [hOne]
    exact .other hOther

theorem StatementStep.changesBackups
    (hStep : StatementStep A g g') :
    g.ChangesBackups g' := by
  apply Stage.changesBackups_of_same hStep.keeps_backups
  cases hStep <;>
    simp [Stage.heard, World.heard, Event.advances]

theorem ConnectionStep.changesBackups
    (hStep : ConnectionStep g g') :
    g.ChangesBackups g' := by
  apply Stage.changesBackups_of_same hStep.keeps_backups
  cases hStep with
  | released _ _ _ _ hReleases =>
      rcases hReleases with rfl | rfl <;>
        simp [World.heard, Event.advances]
  | _ =>
      simp [World.heard, Connection.register,
        Connection.forget, Event.advances]

theorem BackupStep.changesBackups
    (hSound : Sound g)
    (hStep : BackupStep A g g') :
    g.ChangesBackups g' := by
  cases hStep with
  | started _ hVacant _ _ _ _ _ _ hNumber _ hDrives =>
      unfold Stage.ChangesBackups
      rw [Backup.register_eq]
      exact .started hDrives hVacant rfl rfl
        (hSound.copying.births_eq_zero hNumber) fun _ => rfl
  | copied _ hDrives hBackup hHandle hOpen =>
      unfold Stage.ChangesBackups
      simp only [World.modifyBackup_eq, World.heard]
      rw [Table.modify_eq_put _ hBackup]
      exact .copied hDrives hBackup hHandle hOpen
  | paused _ hDrives hBackup hHandle hOpen hCode =>
      exact .paused hDrives hBackup hHandle hOpen hCode
  | finished _ hBackup hHandle =>
      unfold Stage.ChangesBackups
      simp only [World.modifyBackup_eq, World.modifyLinked_eq,
        World.heard]
      rw [Table.modify_eq_put _ hBackup]
      exact .finished hBackup hHandle
  | @severed c p b _ _ _ _ _ hBackup _ hHandle =>
      have hSevered :
          (g.world.backups.put p (b.without c)).get? p =
            some (b.without c) := by
        simp
      unfold Stage.ChangesBackups
      simp only [World.modifyBackup_eq, World.modifyLinked_eq,
        World.heard]
      rw [Table.modify_eq_put _ hBackup,
        Table.modify_eq_put _ hSevered, Table.put_put]
      exact .finished (b := b) hBackup hHandle
  | dropped _ hDrives => exact .dropped hDrives

/- Every step is such a change of the backups. -/
theorem Step.changesBackups
    (hSound : Sound g)
    (hStep : Step A g g') :
    g.ChangesBackups g' := by
  cases hStep with
  | ask hAllowed => exact .other hAllowed.not_advances
  | aside => exact .nothing
  | rehoused => exact .nothing
  | statement hStep => exact hStep.changesBackups
  | backup hStep => exact hStep.changesBackups hSound
  | connection hStep => exact hStep.changesBackups

namespace Steps

variable {p : Place} {b : Backup} {bk : BackupHandle}

/- A run keeps the marks of completion right. -/
theorem tracked
    (hSound : Sound g)
    (hTracked : Tracked g.world.backups g.world.trace)
    (hSteps : Steps A g g') :
    Tracked g'.world.backups g'.world.trace := by
  induction hSteps with
  | refl => exact hTracked
  | tail hBefore hStep ih =>
      have hSound₁ := sound hSound hBefore
      exact (hStep.changesBackups hSound₁).tracked
        hSound₁.copying hSound₁.lawful.backups ih

/-
  A backup in a slot that is not driven is not advanced, and
  stays as it is unless it is finished.
-/
theorem undriven
    (hSound : Sound g)
    (hSlot : p ≠ .scratch)
    (hNot : ¬ g.custody.drives p)
    (hBackup : g.world.backups.get? p = some b)
    (hHandle : b.handle = some bk)
    (hSteps : Steps A g g') :
    g'.world.trace.PausesSince bk g.world.trace ∧
      (g'.world.backups.get? p = some b ∨
        g'.world.backups.get? p = some b.ended ∧
          (Lifetime.backup bk).alive g'.world.trace =
            false) := by
  have hBorn := Lifetime.births_ne_zero_of_alive
    (hSound.copying.alive hBackup hHandle)
  induction hSteps with
  | refl => exact ⟨.refl _ bk, .inl hBackup⟩
  | @tail g₁ g₂ hBefore hStep ih =>
      have hSound₁ := sound hSound hBefore
      have hChange := hStep.changesBackups hSound₁
      have hNot₁ : ¬ g₁.custody.drives p := by
        rw [keeps_drives hBefore]
        exact hNot
      rcases ih with ⟨hPaused, hKept | ⟨hEnded, hDead⟩⟩
      · rcases hChange.undriven hSound₁.copying hSlot hNot₁
          hKept hHandle with ⟨hPauses, hAfter⟩
        exact ⟨hPaused.trans hPauses, hAfter⟩
      · -- what has ended is named by no later call
        have hRespected :=
          (hStep.sound hSound₁).lawful.backups bk
        have hBorn₁ := Lifetime.births_ne_zero_of_suffix
          (trace_suffix hBefore) hBorn
        refine ⟨hPaused.trans (.of_dead hRespected
          hStep.trace_suffix hBorn₁ hDead), .inr ⟨?_, ?_⟩⟩
        · refine (hChange.undriven_ended hSlot hNot₁
            fun r hFound => ?_).trans hEnded
          cases hEnded.symm.trans hFound
          rfl
        · exact (Lifetime.dead_of_suffix hRespected
            hStep.trace_suffix hBorn₁ hDead).2

/- A slot without an unfinished backup stays as it is. -/
theorem undriven_ended
    (hSound : Sound g)
    (hSlot : p ≠ .scratch)
    (hNot : ¬ g.custody.drives p)
    (hEnded : ∀ b, g.world.backups.get? p = some b →
      b.handle = none)
    (hSteps : Steps A g g') :
    g'.world.backups.get? p = g.world.backups.get? p := by
  induction hSteps with
  | refl => rfl
  | @tail g₁ g₂ hBefore hStep ih =>
      have hNot₁ : ¬ g₁.custody.drives p := by
        rw [keeps_drives hBefore]
        exact hNot
      have hChange :=
        hStep.changesBackups (sound hSound hBefore)
      rw [← ih]
      apply hChange.undriven_ended hSlot hNot₁
      rw [ih]
      exact hEnded

end Steps

end Steps

end SqliteAccess
