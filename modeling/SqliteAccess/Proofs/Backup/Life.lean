import Mathlib.Data.List.Induction
import SqliteAccess.Proofs.Backup.Passing
import SqliteAccess.Proofs.Operation.Mirroring

/-
  The life of a backup.

  A backup that was started in a slot is unfinished until it
  is told to finish or one of its connections is destroyed,
  and finished from then on, until it is destroyed itself or
  replaced.  Whichever comes first gives its handle back.

  Key definitions include:
    * `Session.KeepsBackup`
    * `Session.BackupLife`
    * `Trace.BackupDiscipline`
    * `Session.BackupsInOrder`

  The life is characterized by:
    * `Session.backups_live_once`
-/

namespace SqliteAccess

variable {E : Engine}

open Attempt

namespace Session

variable {s : Session E} {h : List StatementHandle}
variable {n : Nat} {bk : BackupHandle} {op : Operation}
variable {source destination c : ConnectionId}

------------------------------------------------------------
-- Starting
------------------------------------------------------------

/- Between operations the marks of completion are right. -/
theorem tracked_of_steps
    {A : Part → Prop}
    {s' : Session E}
    {h' : List StatementHandle}
    (hSound : Sound (s.rest h))
    (hTracked : Tracked s.world.backups s.world.trace)
    (hSteps : Steps A (s.rest h) (s'.rest h')) :
    Tracked s'.world.backups s'.world.trace :=
  hSteps.tracked hSound hTracked

theorem reachable_tracked
    (engine : E.State)
    (patience : Nat)
    (log : Log)
    (ops : List Operation) :
    Tracked
      ((start engine patience log).runAll ops).2.world.backups
      ((start engine patience log).runAll
        ops).2.world.trace :=
  tracked_of_steps (start_sound engine patience log) .empty
    (runAll_steps ops (start_sound engine patience log))

/- A backup that was started is there, and not complete. -/
theorem found_of_started
    {c d : Nat}
    {first second : Bytes}
    {s' : Session E}
    (hSource : s.world.plain.get? c = some source)
    (hDestination : s.world.plain.get? d = some destination)
    (hStarted : s.run (.startBackup n c d first second) =
      (.ok .nothing, s')) :
    ∃ bk, s'.world.backups.get? (.slot n) =
      some
        { handle := some bk
          source := some source
          destination := some destination
          complete := false } := by
  rw [run_startBackup hSource hDestination] at hStarted
  rcases run_bind_eq_ok.mp hStarted with ⟨_, t, hRun, hEnd⟩
  cases hEnd
  exact Backup.start_found hRun

/- So it is unfinished. -/
theorem unfinished_of_started
    {c d : Nat}
    {first second : Bytes}
    {s' : Session E}
    (hSound : Sound (s.rest h))
    (hTracked : Tracked s.world.backups s.world.trace)
    (hSource : s.world.plain.get? c = some source)
    (hDestination : s.world.plain.get? d = some destination)
    (hStarted : s.run (.startBackup n c d first second) =
      (.ok .nothing, s'))
    (hHandle :
      (s'.world.backup (.slot n)).handle = some bk) :
    s'.Unfinished n bk source destination := by
  have hSteps := run_steps (.startBackup n c d first second)
    hSound
  have hAfter := tracked_of_steps hSound hTracked hSteps
  have hSound' := hSteps.sound hSound
  rw [hStarted] at hAfter hSound'
  rcases found_of_started hSource hDestination hStarted with
    ⟨bk', hFound⟩
  rw [World.backup_of_get? hFound] at hHandle
  cases hHandle
  apply Unfinished.of_found hSound'
  rw [← hAfter.complete hFound rfl]
  exact hFound

------------------------------------------------------------
-- Backups Kept in Their Slots
------------------------------------------------------------

/-
  Whether a slot has kept a backup with a certain handle since
  it was started there, between two connections.  Any
  operations have come before and since, but none that would
  have destroyed the backup itself.
-/
inductive KeepsBackup
    (n : Nat)
    (bk : BackupHandle)
    (source destination : ConnectionId) : Session E → Prop
  | started {engine patience log before k l first second t}
      (hSource : ((Session.start engine patience log).runAll
        before).2.world.plain.get? k = some source)
      (hDestination :
        ((Session.start engine patience log).runAll
          before).2.world.plain.get? l = some destination)
      (hStarted :
        ((Session.start engine patience log).runAll
          before).2.run (.startBackup n k l first second) =
            (.ok .nothing, t))
      (hHandle :
        (t.world.backup (.slot n)).handle = some bk) :
      KeepsBackup n bk source destination t
  | kept {t next}
      (hKeeps : KeepsBackup n bk source destination t)
      (hKept : ¬ t.DiscardsBackup next n) :
      KeepsBackup n bk source destination (t.run next).2

/-
  Whether a backup that was started in a slot lives as it
  should:

    * `phase`: it is unfinished or finished
    * `told`: it tells whether it has no handle any more and
      whether a step has copied everything
    * `lasting`: what is complete stays complete
    * `steps`: it is advanced only before that, and with its
      handle
    * `unfinished`, `ends`: it stays unfinished until it is
      told to finish or one of its connections is destroyed
    * `finished`: then it stays finished
    * `discarded`: its handle is given back when it is
      destroyed, if not before
-/
structure BackupLife
    (s : Session E)
    (n : Nat)
    (bk : BackupHandle)
    (source destination : ConnectionId) : Prop where
  phase :
    s.Unfinished n bk source destination ∨ s.Finished n bk
  told : s.run (.backup n .info) =
    (.ok (.backup (s.world.backup (.slot n)).handle.isNone
      (s.world.trace.hasCopied bk)), s)
  lasting : s.world.trace.hasCopied bk = true →
    ∀ op, (s.after op).trace.hasCopied bk = true
  steps : ∀ pages, s.StepsBackup n bk pages
  unfinished : s.Unfinished n bk source destination →
    ∀ op, ¬ s.DiscardsBackup op n →
      ¬ s.FinishesBackup op n source destination →
        (s.run op).2.Unfinished n bk source destination
  ends : s.Unfinished n bk source destination →
    ∀ op, ¬ s.DiscardsBackup op n →
      s.FinishesBackup op n source destination →
        (s.run op).2.Finished n bk
  finished : s.Finished n bk →
    ∀ op, ¬ s.DiscardsBackup op n →
      (s.run op).2.Finished n bk
  discarded : ∀ op, s.DiscardsBackup op n →
    (s.run op).2.DoneWith bk

/- A slot stays vacant unless a backup is started there. -/
theorem vacant_after
    (hSound : Sound (s.rest h))
    (hVacant : s.world.backups.get? (.slot n) = none)
    (hKept : ¬ s.DiscardsBackup op n) :
    (s.run op).2.world.backups.get? (.slot n) = none := by
  by_cases hDrives : op.mayDrive (.slot n)
  · have hSame : (s.run op).2 = s := by
      rcases driven_cases hDrives hKept with
        ⟨pages, rfl⟩ | hSame
      case inr => exact hSame
      exact congrArg _ (run_bind_of_error
        (run_backupIn_of_vacant hVacant))
    rw [hSame]
    exact hVacant
  · rcases poised_steps op hSound with ⟨k, hSteps⟩
    have hKept := hSteps.undriven_ended (p := .slot n)
      (poised_sound hSound) (by simp) hDrives
      fun b hFound => by cases hVacant.symm.trans hFound
    exact hKept.trans hVacant

/- After what discards a backup only a new one is there. -/
theorem started_of_discards
    {b : Backup}
    (hSound : Sound (s.rest h))
    (hDiscards : s.DiscardsBackup op n)
    (hFound : (s.run op).2.world.backups.get? (.slot n) =
      some b) :
    ∃ c d first second source destination,
      op = .startBackup n c d first second ∧
        s.world.plain.get? c = some source ∧
        s.world.plain.get? d = some destination ∧
        (s.run op).1 = .ok .nothing := by
  rcases destroy_steps (n := n) hSound with ⟨_, hNone⟩
  rcases hDiscards with
    rfl | ⟨c, d, first, second, rfl, hSource, hDestination⟩
  · -- the slot is vacant after its backup was destroyed
    exfalso
    cases hBefore : s.world.backups.get? (.slot n) with
    | none =>
        have hSame : (s.run (.dropBackup n)).2 = s :=
          congrArg _ (run_bind_of_error
            (run_backupIn_of_vacant hBefore))
        rw [hSame, hBefore] at hFound
        cases hFound
    | some b' =>
        rw [run_dropBackup (by simp [hBefore]), hNone]
          at hFound
        cases hFound
  · rcases Option.ne_none_iff_exists'.mp hSource with
      ⟨source, hFrom⟩
    rcases Option.ne_none_iff_exists'.mp hDestination with
      ⟨destination, hTo⟩
    refine ⟨c, d, first, second, source, destination, rfl,
      hFrom, hTo, ?_⟩
    rw [run_startBackup hFrom hTo] at hFound ⊢
    rcases hRun : (Backup.start (.slot n) source destination
        first second).run (Backup.destroy (.slot n) s).2 with
      ⟨result, t⟩
    cases result with
    | ok u =>
        unfold Reply.after
        rw [run_bind_of_ok hRun]
        rfl
    | error e =>
        unfold Reply.after at hFound
        rw [run_bind_of_error hRun] at hFound
        have hKept := Backup.start_failed hRun
        rw [hKept, hNone] at hFound
        cases hFound

namespace KeepsBackup

/- It was started in a session, and is in either phase. -/
theorem in_phase
    (hKeeps : KeepsBackup n bk source destination s) :
    (∃ h, Sound (s.rest h)) ∧
      (s.Unfinished n bk source destination ∨
        s.Finished n bk) := by
  induction hKeeps with
  | @started engine patience log before k l first second t
      hSource hDestination hStarted hHandle =>
      have hSound := reachable_sound engine patience log before
      have hAfter := run_sound
        (.startBackup n k l first second) hSound
      rw [hStarted] at hAfter
      refine ⟨⟨_, hAfter⟩, .inl ?_⟩
      exact unfinished_of_started hSound
        (reachable_tracked engine patience log before) hSource
        hDestination hStarted hHandle
  | @kept t next hKeeps hKept ih =>
      rcases ih with ⟨⟨h, hSound⟩, hPhase⟩
      refine ⟨⟨_, run_sound next hSound⟩, ?_⟩
      rcases hPhase with hUnfinished | hFinished
      · exact hUnfinished.after_cases hSound hKept
      · exact .inr (hFinished.finished_after hSound hKept)

/- What is in a slot after an operation was started there. -/
theorem of_run
    {engine : E.State}
    {patience : Nat}
    {log : Log}
    {ops : List Operation}
    {b : Backup}
    (hReached : ((start engine patience log).runAll ops).2 = s)
    (hBefore : ∀ b, s.world.backups.get? (.slot n) = some b →
      ∃ bk source destination,
        KeepsBackup n bk source destination s)
    (hFound : (s.run op).2.world.backups.get? (.slot n) =
      some b) :
    ∃ bk source destination,
      KeepsBackup n bk source destination (s.run op).2 := by
  have hSound := reachable_sound engine patience log ops
  rw [hReached] at hSound
  by_cases hDiscards : s.DiscardsBackup op n
  · rcases started_of_discards hSound hDiscards hFound with
      ⟨c, d, first, second, source, destination, rfl,
       hSource, hDestination, hOk⟩
    rcases hRun : s.run (.startBackup n c d first second) with
      ⟨reply, t⟩
    rw [hRun] at hOk
    cases hOk
    rcases found_of_started hSource hDestination hRun with
      ⟨bk, hNew⟩
    subst hReached
    exact ⟨bk, source, destination,
      .started hSource hDestination hRun
        (by rw [World.backup_of_get? hNew])⟩
  · cases hHad : s.world.backups.get? (.slot n) with
    | none =>
        have hVacant := vacant_after hSound hHad hDiscards
        cases hVacant.symm.trans hFound
    | some b' =>
        rcases hBefore b' hHad with
          ⟨bk, source, destination, hKeeps⟩
        exact ⟨bk, source, destination,
          hKeeps.kept hDiscards⟩

/- Every backup in a slot was started there. -/
theorem of_reachable
    {b : Backup}
    (engine : E.State)
    (patience : Nat)
    (log : Log)
    (ops : List Operation)
    (hFound : ((start engine patience log).runAll
      ops).2.world.backups.get? (.slot n) = some b) :
    ∃ bk source destination,
      KeepsBackup n bk source destination
        ((start engine patience log).runAll ops).2 := by
  induction ops using List.reverseRecOn generalizing b with
  | nil => cases hFound
  | append_singleton ops op ih =>
      rw [runAll_append] at hFound ⊢
      exact of_run rfl (fun _ hHad => ih hHad) hFound

/- In both phases the backup is marked as it should be. -/
theorem found
    (hKeeps : KeepsBackup n bk source destination s) :
    ∃ b, s.world.backups.get? (.slot n) = some b ∧
      b.complete = s.world.trace.hasCopied bk := by
  rcases hKeeps.in_phase.2 with hUnfinished | hFinished
  · exact ⟨_, hUnfinished.found, rfl⟩
  · exact ⟨_, hFinished.found, rfl⟩

/- Its handle was created, and no other backup has it. -/
theorem owns_handle
    (hKeeps : KeepsBackup n bk source destination s) :
    (Lifetime.backup bk).births s.world.trace ≠ 0 ∧
      ∀ p b, s.world.backups.get? p = some b →
        b.handle = some bk → p = .slot n := by
  rcases hKeeps.in_phase with
    ⟨⟨h, hSound⟩, hUnfinished | hFinished⟩
  · refine ⟨Lifetime.births_ne_zero_of_alive
      (hSound.copying.alive hUnfinished.found rfl), ?_⟩
    intro p b hOther hHandle
    exact hSound.copying.unique hOther hHandle
      hUnfinished.found rfl
  · rcases Trace.dead_of_finished (hSound.lawful.backups bk)
        hFinished.once with ⟨hBorn, hDead⟩
    refine ⟨hBorn, fun p b hOther hHandle => ?_⟩
    have hAlive := hSound.copying.alive hOther hHandle
    cases hAlive.symm.trans hDead

/- A backup that was started in a slot lives as it should. -/
theorem life
    (hKeeps : KeepsBackup n bk source destination s) :
    s.BackupLife n bk source destination := by
  rcases hKeeps.in_phase with ⟨⟨h, hSound⟩, hPhase⟩
  rcases hKeeps.found with ⟨b, hFound, hMark⟩
  rcases hKeeps.owns_handle with ⟨hBorn, hHeld⟩
  have hThere :
      s.world.backups.get? (.slot n) ≠ none := by
    simp [hFound]
  have hTold : s.run (.backup n .info) =
      (.ok (.backup (s.world.backup (.slot n)).handle.isNone
        (s.world.trace.hasCopied bk)), s) := by
    rw [run_backup _ hThere, ← hMark,
      ← World.backup_of_get? hFound]
    rfl
  exact
    { phase := hPhase
      told := hTold
      lasting := fun hCopied op =>
        Trace.hasCopied_of_suffix
          (run_steps op hSound).trace_suffix hCopied
      steps := stepsBackup_of_found hFound hMark
      unfinished := fun hUnfinished _ hKept hNot =>
        hUnfinished.unfinished_after hSound hKept hNot
      ends := fun hUnfinished _ hKept hFinishes =>
        hUnfinished.finished_after hSound hKept hFinishes
      finished := fun hFinished _ hKept =>
        hFinished.finished_after hSound hKept
      discarded := fun _ hDiscards =>
        doneWith_after hSound hDiscards hThere hBorn hHeld }

end KeepsBackup

------------------------------------------------------------
-- Whole Copies
------------------------------------------------------------

/- A whole copy leaves the backups in all places alone. -/
theorem copyAll_spares
    (hSound : Sound (s.rest h))
    (a b : Nat)
    (p : Place) :
    (s.after (.copyAll a b)).backups.get? p =
      s.world.backups.get? p := by
  have hScratch : ∀ {g : Stage E}, Sound g →
      g.custody.copying = false →
        g.world.backups.get? .scratch = none := by
    intro g hSound hCopying
    have hNone := hSound.scratchBackup
    rw [hCopying] at hNone
    simpa [Table.contains] using hNone
  cases p with
  | scratch =>
      have hBefore := hScratch hSound rfl
      have hAfter := hScratch
        (run_sound (.copyAll a b) hSound) rfl
      exact hAfter.trans hBefore.symm
  | slot n =>
      rcases backup_cases (.copyAll a b) hSound n with
        hSame | hNamed | ⟨_, c, hGone, _⟩
      · exact hSame
      · simp [Operation.names] at hNamed
      · exact (mayEnd_of_destroys hSound hGone).1.elim

/- So every connection lists the backups that it listed. -/
theorem copyAll_listed
    (hSound : Sound (s.rest h))
    (a b : Nat)
    (c : ConnectionId)
    (p : Place) :
    p ∈ ((s.after (.copyAll a b)).connection c).backups ↔
      p ∈ (s.world.connection c).backups := by
  have hAfter :
      p ∈ ((s.after (.copyAll a b)).connection c).backups ↔
        LiveBackup (s.after (.copyAll a b)).backups p c :=
    listedBackups_iff (run_sound _ hSound) c p
  have hSame : LiveBackup (s.after (.copyAll a b)).backups p c ↔
      LiveBackup s.world.backups p c := by
    unfold LiveBackup
    rw [copyAll_spares hSound]
  rw [hAfter, hSame, listedBackups_iff hSound]

end Session

------------------------------------------------------------
-- All Backups
------------------------------------------------------------

/-
  Whether the native backups of a finished session were
  treated as they should be:

    * `once`: each was given back exactly once
    * `last`: that was the last call that named it
    * `stops`: it was not advanced after a step had copied
      everything
    * `closing`: the databases that it copied between were
      closed only after that
-/
structure Trace.BackupDiscipline (t : Trace) : Prop where
  once : ∀ db name source name' bk,
    ⟨.startBackup db name source name' bk, true⟩ ∈ t →
      t.countP (·.call = .finishBackup bk) = 1
  last : ∀ later bk code earlier,
    t = later ++ ⟨.finishBackup bk, code⟩ :: earlier →
      ∀ e ∈ later, e.call.backup? ≠ some bk
  stops : ∀ later bk pages code earlier,
    t = later ++ ⟨.stepBackup bk pages, code⟩ :: earlier →
      hasCopied earlier bk = false
  closing : ∀ later e earlier used db name source name' bk,
    t = later ++ e :: earlier → e.call.closes? = some used →
      ⟨.startBackup db name source name' bk, true⟩ ∈ earlier →
        used = db ∨ used = source →
          ∃ code, ⟨.finishBackup bk, code⟩ ∈ earlier

/- Backups are treated like all handles, and stop at the end. -/
theorem Trace.HandleDiscipline.backups
    {hosted : List StatementHandle}
    {t : Trace}
    (hDiscipline : t.HandleDiscipline hosted)
    (hStops : t.StopsCopying) :
    t.BackupDiscipline where
  once := hDiscipline.finished
  last := hDiscipline.finishedLast
  stops later bk pages code earlier hSplit :=
    hStops later _ earlier hSplit bk
      (by simp [Event.advances])
  closing later e earlier used db name source name' bk
      hSplit hCloses hStarted hUsed :=
    (hDiscipline.closing later e earlier used hSplit
      hCloses).backups db name source name' bk hStarted hUsed

/-
  Whether a session treats its backups as it should:

    * `discipline`: their handles, up to its very end
    * `referred`: a backup refers to connections that exist
    * `copyAll`: a whole copy leaves all backups and the lists
      of all connections alone, however it ends
    * `kept`: a backup in a slot was started there
    * `life`: and it lives as it should
    * `past`: a native backup that is done with is never
      listed again
-/
structure Session.BackupsInOrder (s : Session E) : Prop where
  discipline : s.dismantle.world.trace.BackupDiscipline
  referred : ∀ p b c, s.world.backups.get? p = some b →
    b.source = some c ∨ b.destination = some c →
      s.world.connections.get? c ≠ none
  copyAll : ∀ n m,
    (∀ p, (s.after (.copyAll n m)).backups.get? p =
      s.world.backups.get? p) ∧
    ∀ c p,
      p ∈ ((s.after (.copyAll n m)).connection c).backups ↔
        p ∈ (s.world.connection c).backups
  kept : ∀ n b, s.world.backups.get? (.slot n) = some b →
    ∃ bk source destination,
      KeepsBackup n bk source destination s
  life : ∀ n bk source destination,
    KeepsBackup n bk source destination s →
      s.BackupLife n bk source destination
  past : ∀ bk, s.DoneWith bk →
    ∀ op, (s.run op).2.DoneWith bk

namespace Session

variable {s : Session E} {h : List StatementHandle}

/- A backup refers to no connection that is gone. -/
theorem exists_of_backup
    {p : Place}
    {b : Backup}
    {c : ConnectionId}
    (hSound : Sound (s.rest h))
    (hTracked : Tracked s.world.backups s.world.trace)
    (hFound : s.world.backups.get? p = some b)
    (hRefers : b.source = some c ∨ b.destination = some c) :
    s.world.connections.get? c ≠ none := by
  have hHandle : b.handle ≠ none := by
    intro hEnded
    rcases hTracked.ended hFound hEnded with ⟨hFrom, hTo⟩
    simp [hFrom, hTo] at hRefers
  exact hSound.exists_of_liveBackup
    ⟨b, hFound, hHandle, hRefers⟩

/-
  Whatever the engine answers and whatever the operations are,
  in whatever order, a session treats its backups as it
  should.
-/
theorem backups_live_once
    (engine : E.State)
    (patience : Nat)
    (log : Log)
    (ops : List Operation) :
    ((start engine patience log).runAll
      ops).2.BackupsInOrder := by
  have hSound := reachable_sound engine patience log ops
  have hTracked := reachable_tracked engine patience log ops
  exact
    { discipline :=
        (dismantle_discipline hSound).backups
          (tracked_of_steps hSound hTracked
            (dismantle_steps hSound).1).stops
      referred := fun _ _ _ hFound hRefers =>
        exists_of_backup hSound hTracked hFound hRefers
      copyAll := fun n m =>
        ⟨copyAll_spares hSound n m, copyAll_listed hSound n m⟩
      kept := fun _ _ hFound =>
        KeepsBackup.of_reachable engine patience log ops hFound
      life := fun _ _ _ _ hKeeps => hKeeps.life
      past := fun _ hDone => hDone.doneWith_after hSound }

/- Copy everything with a backup between two connections. -/
def backupCopied : List Operation :=
  [.openConnection 0 [] { foreignKeys := false },
    .openConnection 1 [] { foreignKeys := false },
    .startBackup 0 0 1 [] [],
    .backup 0 (.step (-1))]

/- The session in which that was done. -/
def copiedSession : Session Engine.scripted :=
  ((start (E := Engine.scripted)
    ({ script := {} } : Scripted.State) 10 {}).runAll
      backupCopied).2

/-
  A backup that has copied everything needs no more steps.  It
  keeps its source from being closed, and is finished when its
  source is destroyed.
-/
theorem backups_live_once_copied :
    let bk : BackupHandle := { number := 1 }
    let source : ConnectionId := { number := 1 }
    copiedSession.Unfinished 0 bk source { number := 2 } ∧
      copiedSession.world.trace.hasCopied bk = true ∧
      copiedSession.run (.backup 0 (.step 5)) =
        (.ok (.flag true), copiedSession) ∧
      copiedSession.RefusesClosing source ∧
      (copiedSession.run (.dropConnection 0)).2.Finished 0
        bk := by
  intro bk source
  have hOrder : copiedSession.BackupsInOrder :=
    backups_live_once (E := Engine.scripted) _ 10 {}
      backupCopied
  have hFound : copiedSession.world.backups.get? (.slot 0) =
      some
        { handle := some bk
          source := some source
          destination := some { number := 2 }
          complete := true } := by
    decide +kernel
  have hCopied : copiedSession.world.trace.hasCopied bk =
      true := by
    decide +kernel
  rcases hOrder.kept 0 _ hFound with ⟨_, _, _, hKeeps⟩
  have hLife := hOrder.life 0 _ _ _ hKeeps
  rcases hLife.phase with hUnfinished | hFinished
  · have hSame := Option.some.inj
      (hUnfinished.found.symm.trans hFound)
    cases congrArg Backup.handle hSame
    cases congrArg Backup.source hSame
    cases congrArg Backup.destination hSame
    have hKept : ¬ copiedSession.DiscardsBackup
        (.dropConnection 0) 0 := by
      rintro (hDrop | ⟨_, _, _, _, hStart, _⟩)
      · cases hDrop
      · cases hStart
    have hDestroys : copiedSession.Destroys
        (.dropConnection 0) source :=
      ⟨by decide +kernel, by decide +kernel⟩
    exact ⟨hUnfinished, hCopied,
      (hLife.steps 5).complete hCopied,
      hUnfinished.refuses source (.inl rfl),
      hLife.ends hUnfinished _ hKept (.inr (.inl hDestroys))⟩
  · have hSame := Option.some.inj
      (hFinished.found.symm.trans hFound)
    cases congrArg Backup.handle hSame

end Session

end SqliteAccess
