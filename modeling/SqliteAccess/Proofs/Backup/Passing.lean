import SqliteAccess.Proofs.Backup.Phases

/-
  How operations take a backup from phase to phase.

  What does not drive a backup leaves it as it is, or finishes
  it.  A step copies, or is refused.  What destroys a backup
  gives its handle back, if it still has one.

  Key definitions include:
    * `Session.StepsBackup`
    * `Session.DiscardsBackup`
    * `Session.FinishesBackup`
    * `Session.DoneWith`

  The operations are characterized by:
    * `Session.Unfinished.unfinished_after`
    * `Session.Unfinished.finished_after`
    * `Session.Finished.finished_after`
    * `Session.doneWith_after`
-/

namespace SqliteAccess

variable {E : Engine}

open Attempt

/- What an attempt gives, turned into a reply. -/
theorem Reply.run_of
    {α : Type}
    (make : α → Reply)
    (x : Attempt E α)
    (s : Session E) :
    (Reply.of make x).run s =
      ((x.run s).1.map make, (x.run s).2) := by
  unfold Reply.of
  rcases hRun : x.run s with ⟨result, t⟩
  cases result with
  | error e => exact run_bind_of_error hRun
  | ok a => exact run_bind_of_ok hRun

/- A backup that is only asked stays as it is. -/
theorem BackupRequest.perform_asks
    {p : Place}
    {r : BackupRequest}
    {P : Custody → Prop}
    (hAsks : r.isStep = false)
    (hOpen : r ≠ .finish) :
    Keeps (E := E) (fun _ => False) P (r.perform p) := by
  cases r with
  | step => cases hAsks
  | remaining =>
      exact Reply.of_keeps
        (.of_asked fun _ => Backup.remaining_leads)
  | pageCount =>
      exact Reply.of_keeps
        (.of_asked fun _ => Backup.pageCount_leads)
  | finish => exact absurd rfl hOpen
  | info => exact Reply.of_keeps (.read _)

namespace Session

variable {s : Session E} {h : List StatementHandle}
variable {n : Nat} {bk : BackupHandle} {op : Operation}
variable {source destination c : ConnectionId}

------------------------------------------------------------
-- Operations That Do Not Drive a Backup
------------------------------------------------------------

/- An unfinished backup that is not driven may be finished. -/
theorem Unfinished.undriven
    (hUnfinished : s.Unfinished n bk source destination)
    (hSound : Sound (s.rest h))
    (hNot : ¬ op.mayDrive (.slot n)) :
    (s.run op).2.Unfinished n bk source destination ∨
      (s.run op).2.Finished n bk := by
  rcases poised_steps op hSound with ⟨k, hSteps⟩
  have hBorn := Lifetime.births_ne_zero_of_alive
    (hSound.copying.alive hUnfinished.found rfl)
  rcases hSteps.undriven (poised_sound hSound) (by simp) hNot
      hUnfinished.found rfl with ⟨hPauses, hAfter⟩
  have hCopied :
      (s.run op).2.world.trace.hasCopied bk =
        s.world.trace.hasCopied bk :=
    hPauses.hasCopied_eq
  rcases hAfter with hKept | ⟨hEnded, hDead⟩
  · refine .inl (.of_found (run_sound op hSound) ?_)
    rw [hCopied]
    exact hKept
  · refine .inr (.of_found (run_sound op hSound) ?_ ?_ hDead)
    · rw [hCopied]
      exact hEnded
    · exact Lifetime.births_ne_zero_of_suffix
        hSteps.trace_suffix hBorn

/- A finished one stays finished. -/
theorem Finished.undriven
    (hFinished : s.Finished n bk)
    (hSound : Sound (s.rest h))
    (hNot : ¬ op.mayDrive (.slot n)) :
    (s.run op).2.Finished n bk := by
  rcases poised_steps op hSound with ⟨k, hSteps⟩
  rcases Trace.dead_of_finished (hSound.lawful.backups bk)
      hFinished.once with ⟨hBorn, hDead⟩
  have hSuffix :
      s.world.trace <:+ (s.run op).2.world.trace :=
    hSteps.trace_suffix
  have hRespected :=
    (run_sound op hSound).lawful.backups bk
  have hPauses : (s.run op).2.world.trace.PausesSince bk
      s.world.trace :=
    .of_dead hRespected hSuffix hBorn hDead
  apply Finished.of_found (run_sound op hSound)
  · rw [hPauses.hasCopied_eq, ← hFinished.found]
    apply hSteps.undriven_ended (poised_sound hSound)
      (by simp) hNot
    intro b hFound
    cases hFinished.found.symm.trans hFound
    rfl
  · exact Lifetime.births_ne_zero_of_suffix hSuffix hBorn
  · exact (Lifetime.dead_of_suffix hRespected hSuffix hBorn
      hDead).2

------------------------------------------------------------
-- Steps
------------------------------------------------------------

/-
  How a step of the backup in a slot goes, which has or had a
  certain handle:

    * `complete`: after a complete copy it succeeds at once
    * `ended`: otherwise it is refused once the backup has no
      handle
    * `asked`: or else the engine is asked once; whatever it
      answers but the end leaves the objects as they are
-/
structure StepsBackup
    (s : Session E)
    (n : Nat)
    (bk : BackupHandle)
    (pages : Int) : Prop where
  complete : s.world.trace.hasCopied bk = true →
    s.run (.backup n (.step pages)) = (.ok (.flag true), s)
  ended : s.world.trace.hasCopied bk = false →
    (s.world.backup (.slot n)).handle = none →
      ∃ e : DatabaseError, e.kind = .usage ∧
        s.run (.backup n (.step pages)) =
          (.error (.database e), s)
  asked : s.world.trace.hasCopied bk = false →
    (s.world.backup (.slot n)).handle = some bk →
      ∃ code engine,
        s.run (.backup n (.step pages)) =
          if code = ResultCode.done then
            (.ok (.flag true),
              { s with
                world :=
                  (s.world.heard
                    ⟨.stepBackup bk pages, code⟩
                    engine).modifyBackup (.slot n)
                      fun b => { b with complete := true } })
          else
            (if code = ResultCode.ok then .ok (.flag false)
              else
                .error (.database (Backup.stepError E code)),
              { s with
                world :=
                  s.world.heard ⟨.stepBackup bk pages, code⟩
                    engine })

/- What is known of a backup decides how its steps go. -/
theorem stepsBackup_of_found
    {b : Backup}
    (hFound : s.world.backups.get? (.slot n) = some b)
    (hMark : b.complete = s.world.trace.hasCopied bk)
    (pages : Int) :
    s.StepsBackup n bk pages := by
  have hRun : s.run (.backup n (.step pages)) =
      ((((Backup.step (.slot n) pages).run s).1.map .flag),
        ((Backup.step (.slot n) pages).run s).2) := by
    rw [run_backup _ (by simp [hFound])]
    exact Reply.run_of _ _ s
  have hBackup := World.backup_of_get? hFound
  constructor
  · intro hCopied
    rw [hRun, Backup.step_of_complete pages
      (by rw [hBackup, hMark, hCopied])]
    rfl
  · intro hNot hEnded
    refine ⟨Refusal.backupFinished.error, rfl, ?_⟩
    rw [hRun, Backup.step_of_ended pages
      (by rw [hBackup, hMark, hNot]) hEnded]
    rfl
  · intro hNot hHandle
    rcases Backup.step_of_running pages
        (by rw [hBackup, hMark, hNot]) hHandle with
      ⟨code, engine, hStep⟩
    refine ⟨code, engine, ?_⟩
    rw [hRun, hStep]
    -- the three answers are told apart alike on both sides
    split
    case isTrue => rfl
    case isFalse => split <;> rfl

/- An unfinished backup is still so after a step. -/
theorem Unfinished.stepped
    (hUnfinished : s.Unfinished n bk source destination)
    (hSound : Sound (s.rest h))
    (pages : Int) :
    (s.run (.backup n (.step pages))).2.Unfinished n bk source
      destination := by
  have hFound := hUnfinished.found
  have hSteps : s.StepsBackup n bk pages :=
    stepsBackup_of_found hFound rfl pages
  have hAfter := run_sound (.backup n (.step pages)) hSound
  cases hCopied : s.world.trace.hasCopied bk with
  | true =>
      rw [hSteps.complete hCopied]
      exact hUnfinished
  | false =>
      have hHandle :
          (s.world.backup (.slot n)).handle = some bk := by
        rw [World.backup_of_get? hFound]
      rcases hSteps.asked hCopied hHandle with
        ⟨code, engine, hRun⟩
      apply Unfinished.of_found hAfter
      rw [hRun]
      by_cases hDone : code = ResultCode.done
      · rw [if_pos hDone]
        simp [World.heard, hFound, Trace.hasCopied_cons,
          Event.completes, hDone]
      · rw [if_neg hDone]
        simp [World.heard, hFound, Trace.hasCopied_cons,
          Event.completes, hDone]

/- A finished one is left as it is by a step. -/
theorem Finished.stepped
    (hFinished : s.Finished n bk)
    (pages : Int) :
    (s.run (.backup n (.step pages))).2 = s := by
  have hFound := hFinished.found
  have hSteps : s.StepsBackup n bk pages :=
    stepsBackup_of_found hFound rfl pages
  cases hCopied : s.world.trace.hasCopied bk with
  | true => rw [hSteps.complete hCopied]
  | false =>
      rcases hSteps.ended hCopied
          (by rw [World.backup_of_get? hFound]) with
        ⟨_, _, hRun⟩
      rw [hRun]

------------------------------------------------------------
-- Finishing
------------------------------------------------------------

/-
  Whether an operation destroys the backup in a slot, perhaps
  to start another one there.
-/
def DiscardsBackup
    (s : Session E)
    (op : Operation)
    (n : Nat) : Prop :=
  op = .dropBackup n ∨
    ∃ c d first second,
      op = .startBackup n c d first second ∧
        s.world.plain.get? c ≠ none ∧
        s.world.plain.get? d ≠ none

/-
  Whether an operation tells the backup in a slot to finish,
  or destroys one of its connections.
-/
def FinishesBackup
    (s : Session E)
    (op : Operation)
    (n : Nat)
    (source destination : ConnectionId) : Prop :=
  op = .backup n .finish ∨
    s.Destroys op source ∨ s.Destroys op destination

/- Nothing is started without two connections. -/
theorem run_startBackup_of_missing
    {c d : Nat}
    {first second : Bytes}
    (hMissing : s.world.plain.get? c = none ∨
      s.world.plain.get? d = none) :
    (s.run (.startBackup n c d first second)).2 = s := by
  have hBetween :
      ((Operation.backupBetween n c d first second).run
        s).2 = s := by
    unfold Operation.backupBetween Operation.connectionIn
    cases hSource : s.world.plain.get? c with
    | none =>
        rw [run_bind_of_error
          (Operation.run_needed_of_none hSource)]
    | some id =>
        rw [run_bind_of_ok (Operation.run_needed hSource),
          run_bind_of_error (Operation.run_needed_of_none
            (hMissing.resolve_left (by simp [hSource])))]
  exact (run_map_snd _ _ s).trans hBetween

/- The backup in the slot is destroyed before one is started. -/
theorem run_startBackup
    {c d : Nat}
    {first second : Bytes}
    (hSource : s.world.plain.get? c = some source)
    (hDestination : s.world.plain.get? d = some destination) :
    s.run (.startBackup n c d first second) =
      (Reply.after (Backup.start (.slot n) source destination
        first second)).run (Backup.destroy (.slot n) s).2 := by
  have hBetween :
      (Operation.backupBetween n c d first second).run s =
        (Backup.start (.slot n) source destination first
          second).run (Backup.destroy (.slot n) s).2 := by
    unfold Operation.backupBetween Operation.connectionIn
    rw [run_bind_of_ok (Operation.run_needed hSource),
      run_bind_of_ok (Operation.run_needed hDestination),
      run_bind_of_ok (run_lift _ s)]
  show (Reply.after _).run s = _
  unfold Reply.after
  rw [run_bind, run_bind, hBetween]

/- A backup that is dropped is destroyed. -/
theorem run_dropBackup
    (hFound : s.world.backups.get? (.slot n) ≠ none) :
    (s.run (.dropBackup n)).2 =
      (Backup.destroy (.slot n) s).2 :=
  congrArg _ (run_bind_of_ok (run_backupIn hFound))

/- A backup that is driven is advanced, or else destroyed. -/
theorem driven_cases
    (hDrives : op.mayDrive (.slot n))
    (hKept : ¬ s.DiscardsBackup op n) :
    (∃ pages, op = .backup n (.step pages)) ∨
      (s.run op).2 = s := by
  cases op with
  | startBackup b c d first second =>
      cases hDrives
      refine .inr (run_startBackup_of_missing ?_)
      by_cases hSource : s.world.plain.get? c = none
      · exact .inl hSource
      by_cases hDestination : s.world.plain.get? d = none
      · exact .inr hDestination
      exact absurd (.inr ⟨c, d, first, second, rfl, hSource,
        hDestination⟩) hKept
  | dropBackup b =>
      cases hDrives
      exact absurd (.inl rfl) hKept
  | backup b r =>
      cases r with
      | step pages =>
          cases hDrives
          exact .inl ⟨pages, rfl⟩
      | _ => cases hDrives
  | _ => cases hDrives

/- A backup has no handle after it was told to finish. -/
theorem run_finish_ended
    (hSound : Sound (s.rest h))
    (hFound : s.world.backups.get? (.slot n) ≠ none) :
    ((s.run (.backup n .finish)).2.world.backup
      (.slot n)).handle = none := by
  have hRun : (s.run (.backup n .finish)).2 =
      ((Backup.finish (.slot n)).run s).2 := by
    rw [run_backup _ hFound]
    exact run_map_snd (lift (Backup.finish (.slot n))) _ s
  rw [hRun]
  exact (steps_of_quiet (A := fun _ => True)
    (R := fun w => (w.backup (.slot n)).handle = none)
    hSound ((Backup.finish_leads trivial).mono
      fun _ _ _ _ hFinished => hFinished)).2

/- What is only asked of a backup leaves it in its slot. -/
theorem run_asks
    {r : BackupRequest}
    (hSound : Sound (s.rest h))
    (hAsks : r.isStep = false)
    (hOpen : r ≠ .finish) :
    (s.run (.backup n r)).2.world.backups.get? (.slot n) =
      s.world.backups.get? (.slot n) := by
  have hKeeps : Keeps (E := E) (fun _ => False)
      (fun _ => True) (Operation.backup n r).perform :=
    Operation.inSlot_keeps
      (BackupRequest.perform_asks hAsks hOpen)
  rcases hKeeps (s.rest h) trivial hSound s.log with
    ⟨k, hSteps, _⟩
  exact hSteps.keeps_backup (p := .slot n) id

namespace Unfinished

/- It is in one of the two phases after any operation. -/
theorem after_cases
    (hUnfinished : s.Unfinished n bk source destination)
    (hSound : Sound (s.rest h))
    (hKept : ¬ s.DiscardsBackup op n) :
    (s.run op).2.Unfinished n bk source destination ∨
      (s.run op).2.Finished n bk := by
  by_cases hDrives : op.mayDrive (.slot n)
  · rcases driven_cases hDrives hKept with
      ⟨pages, rfl⟩ | hSame
    · exact .inl (hUnfinished.stepped hSound pages)
    · rw [hSame]
      exact .inl hUnfinished
  · exact hUnfinished.undriven hSound hDrives

/- What finishes it does not leave it unfinished. -/
theorem not_finishes
    (hUnfinished : s.Unfinished n bk source destination)
    (hSound : Sound (s.rest h))
    (hStill :
      (s.run op).2.Unfinished n bk source destination) :
    ¬ s.FinishesBackup op n source destination := by
  have hThere : ∀ c, c = source ∨ c = destination →
      ¬ s.Destroys op c := by
    intro c hIs hDestroys
    have hListed := hStill.listed c hIs
    have hGone :
        (s.run op).2.world.connections.get? c = none :=
      hDestroys.2
    simp [World.connection, hGone, Connection.vacant]
      at hListed
  rintro (rfl | hDestroys | hDestroys)
  · have hEnded := run_finish_ended hSound
      (n := n) (by simp [hUnfinished.found])
    rw [World.backup_of_get? hStill.found] at hEnded
    cases hEnded
  · exact hThere source (.inl rfl) hDestroys
  · exact hThere destination (.inr rfl) hDestroys

/- Only what finishes it leaves it finished. -/
theorem finishes_of_finished
    (hUnfinished : s.Unfinished n bk source destination)
    (hSound : Sound (s.rest h))
    (hKept : ¬ s.DiscardsBackup op n)
    (hFinished : (s.run op).2.Finished n bk) :
    s.FinishesBackup op n source destination := by
  have hChanged :
      (s.run op).2.world.backups.get? (.slot n) ≠
        s.world.backups.get? (.slot n) := by
    rw [hUnfinished.found, hFinished.found]
    simp
  have hNotDriven : ¬ op.mayDrive (.slot n) := by
    intro hDrives
    rcases driven_cases hDrives hKept with
      ⟨pages, rfl⟩ | hSame
    · have hStill := hUnfinished.stepped hSound pages
      cases hStill.found.symm.trans hFinished.found
    · rw [hSame] at hChanged
      exact hChanged rfl
  rcases backup_cases op hSound n with
    hSame | hNamed | ⟨_, d, hGone, hLive⟩
  · exact absurd hSame hChanged
  · cases op with
    | startBackup b =>
        cases List.mem_cons.mp hNamed with
        | inl hSlot => cases hSlot; exact absurd rfl hNotDriven
        | inr hOther => simp at hOther
    | dropBackup b =>
        cases List.mem_singleton.mp hNamed
        exact absurd rfl hNotDriven
    | backup b r =>
        cases List.mem_singleton.mp hNamed
        by_cases hFinish : r = .finish
        · exact .inl (by rw [hFinish])
        · refine absurd (run_asks hSound ?_ hFinish) hChanged
          cases r with
          | step => exact absurd rfl hNotDriven
          | _ => rfl
    | serialize z c =>
        cases c <;> simp [Operation.names] at hNamed
    | _ => simp [Operation.names] at hNamed
  · rcases hLive with ⟨b, hFound, _, hOn⟩
    cases hUnfinished.found.symm.trans hFound
    rcases hOn with hFrom | hTo
    · cases hFrom
      exact .inr (.inl hGone)
    · cases hTo
      exact .inr (.inr hGone)

/- So it is finished by what finishes it. -/
theorem finished_after
    (hUnfinished : s.Unfinished n bk source destination)
    (hSound : Sound (s.rest h))
    (hKept : ¬ s.DiscardsBackup op n)
    (hFinishes : s.FinishesBackup op n source destination) :
    (s.run op).2.Finished n bk :=
  (hUnfinished.after_cases hSound hKept).resolve_left
    fun hStill =>
      hUnfinished.not_finishes hSound hStill hFinishes

/- It is as unfinished as before after anything else. -/
theorem unfinished_after
    (hUnfinished : s.Unfinished n bk source destination)
    (hSound : Sound (s.rest h))
    (hKept : ¬ s.DiscardsBackup op n)
    (hNot : ¬ s.FinishesBackup op n source destination) :
    (s.run op).2.Unfinished n bk source destination :=
  (hUnfinished.after_cases hSound hKept).resolve_right
    fun hFinished => hNot
      (hUnfinished.finishes_of_finished hSound hKept hFinished)

end Unfinished

/- A finished backup is so after whatever spares it. -/
theorem Finished.finished_after
    (hFinished : s.Finished n bk)
    (hSound : Sound (s.rest h))
    (hKept : ¬ s.DiscardsBackup op n) :
    (s.run op).2.Finished n bk := by
  by_cases hDrives : op.mayDrive (.slot n)
  · rcases driven_cases hDrives hKept with
      ⟨pages, rfl⟩ | hSame
    · rw [hFinished.stepped pages]
      exact hFinished
    · rw [hSame]
      exact hFinished
  · exact hFinished.undriven hSound hDrives

------------------------------------------------------------
-- Destroying
------------------------------------------------------------

/-
  Whether a native backup is done with: its handle was given
  back exactly once, and what connections list are backups
  with other handles.
-/
structure DoneWith
    (s : Session E)
    (bk : BackupHandle) : Prop where
  once :
    s.world.trace.countP (·.call = .finishBackup bk) = 1
  unlisted : ∀ c p, p ∈ (s.world.connection c).backups →
    ∃ bk', (s.world.backup p).handle = some bk' ∧ bk' ≠ bk

theorem DoneWith.of_dead
    (hSound : Sound (s.rest h))
    (hBorn : (Lifetime.backup bk).births s.world.trace ≠ 0)
    (hDead :
      (Lifetime.backup bk).alive s.world.trace = false) :
    s.DoneWith bk where
  once := by
    rw [← Trace.backup_endings]
    exact Lifetime.endings_eq_one (hSound.lawful.backups bk)
      hBorn hDead
  unlisted c p hListed := by
    rcases (listedBackups_iff hSound c p).mp hListed with
      ⟨b, hFound, hHandle, _⟩
    rcases Option.ne_none_iff_exists'.mp hHandle with
      ⟨bk', hSome⟩
    refine ⟨bk', by rw [World.backup_of_get? hFound, hSome],
      ?_⟩
    rintro rfl
    have hAlive := hSound.copying.alive hFound hSome
    simp only [rest] at hAlive
    rw [hDead] at hAlive
    cases hAlive

/- Destroying a backup is a run of steps on it. -/
theorem destroy_steps
    (hSound : Sound (s.rest h)) :
    Steps (· = .backup (.slot n)) (s.rest h)
        ((Backup.destroy (.slot n) s).2.rest h) ∧
      (Backup.destroy (.slot n) s).2.world.backups.get?
        (.slot n) = none :=
  steps_of_quiet (A := (· = .backup (.slot n)))
    (R := fun w => w.backups.get? (.slot n) = none) hSound
    (Backup.destroy_slot_leads rfl trivial)

/- Where a backup is destroyed its handle is given back. -/
theorem destroy_dead
    (hSound : Sound (s.rest h))
    (hHeld : ∀ p b, s.world.backups.get? p = some b →
      b.handle = some bk → p = .slot n) :
    (Lifetime.backup bk).alive
      (Backup.destroy (.slot n) s).2.world.trace = false := by
  rcases destroy_steps (n := n) hSound with ⟨hSteps, hNone⟩
  rw [Bool.eq_false_iff]
  intro hAlive
  rcases (hSteps.sound hSound).copying.custody hAlive with
    ⟨p, b, hFound, hHandle⟩
  by_cases hSlot : p = .slot n
  · subst hSlot
    cases hNone.symm.trans hFound
  · have hKept := hSteps.keeps_backup (p := p)
      (by simp [hSlot])
    exact hSlot (hHeld p b (hKept.symm.trans hFound) hHandle)

/- What discards a backup starts by destroying it. -/
theorem destroy_suffix
    (hSound : Sound (s.rest h))
    (hDiscards : s.DiscardsBackup op n)
    (hFound : s.world.backups.get? (.slot n) ≠ none) :
    (Backup.destroy (.slot n) s).2.world.trace <:+
      (s.run op).2.world.trace := by
  rcases hDiscards with
    rfl | ⟨c, d, first, second, rfl, hSource, hDestination⟩
  · simp only [run_dropBackup hFound, List.suffix_refl]
  · rcases Option.ne_none_iff_exists'.mp hSource with
      ⟨source, hFrom⟩
    rcases Option.ne_none_iff_exists'.mp hDestination with
      ⟨destination, hTo⟩
    rcases destroy_steps (n := n) hSound with
      ⟨hSteps, hNone⟩
    have hLeads : Leads (fun _ => True)
        ((Backup.destroy (.slot n) s).2.rest h)
        (Backup.destroy (.slot n) s).2.world
        (Backup.start (.slot n) source destination first
          second) _ _ :=
      Backup.start_leads trivial rfl hNone
        (.inr ⟨trivial, trivial⟩) (.inr trivial)
    rcases hLeads (hSteps.sound hSound)
        (Backup.destroy (.slot n) s).2.log with
      ⟨k, hStarted, _⟩
    rw [run_startBackup hFrom hTo, Reply.after, run_map_snd]
    exact hStarted.trace_suffix

/- What discards a backup is the last to use its handle. -/
theorem doneWith_after
    (hSound : Sound (s.rest h))
    (hDiscards : s.DiscardsBackup op n)
    (hFound : s.world.backups.get? (.slot n) ≠ none)
    (hBorn : (Lifetime.backup bk).births s.world.trace ≠ 0)
    (hHeld : ∀ p b, s.world.backups.get? p = some b →
      b.handle = some bk → p = .slot n) :
    (s.run op).2.DoneWith bk := by
  have hAfter := run_sound op hSound
  have hBorn₁ := Lifetime.births_ne_zero_of_suffix
    (destroy_steps (n := n) hSound).1.trace_suffix hBorn
  rcases Lifetime.dead_of_suffix (hAfter.lawful.backups bk)
      (destroy_suffix hSound hDiscards hFound) hBorn₁
      (destroy_dead hSound hHeld) with
    ⟨hBirths, hDead⟩
  exact .of_dead hAfter hBirths hDead

/- What is done with is so after any operation. -/
theorem DoneWith.doneWith_after
    (hDone : s.DoneWith bk)
    (hSound : Sound (s.rest h))
    (op : Operation) :
    (s.run op).2.DoneWith bk := by
  have hAfter := run_sound op hSound
  rcases Trace.dead_of_finished (hSound.lawful.backups bk)
      hDone.once with ⟨hBorn, hDead⟩
  rcases Lifetime.dead_of_suffix (hAfter.lawful.backups bk)
      (run_steps op hSound).trace_suffix hBorn hDead with
    ⟨hBirths, hStill⟩
  exact .of_dead hAfter hBirths hStill

end Session

end SqliteAccess
