import SqliteAccess.Proofs.Backup.Tracking
import SqliteAccess.Proofs.Operation.Sparing
import SqliteAccess.Proofs.Session.Discipline
import SqliteAccess.Proofs.Session.Rejection

/-
  The two phases of a backup.

  A backup is unfinished at first: its two connections list
  it, and cannot be closed.  Later it is finished: its handle
  has been given back once, and it refers to no connection.

  Key definitions include:
    * `Session.RefusesClosing`
    * `Session.Unfinished`
    * `Session.Finished`
-/

namespace SqliteAccess

variable {E : Engine}

open Attempt

------------------------------------------------------------
-- Native Backups
------------------------------------------------------------

namespace Trace

variable {t : Trace} {bk : BackupHandle}

/- What is alive was not finished. -/
theorem not_finished_of_alive
    (hRespected : (Lifetime.backup bk).Respected t)
    (hAlive : (Lifetime.backup bk).alive t) :
    t.countP (·.call = .finishBackup bk) = 0 := by
  rw [← backup_endings]
  rcases Lifetime.births_eq hRespected with ⟨hSum, hMost⟩
  rw [if_pos hAlive] at hSum
  omega

/- What was finished was created, and is not alive. -/
theorem dead_of_finished
    (hRespected : (Lifetime.backup bk).Respected t)
    (hOnce : t.countP (·.call = .finishBackup bk) = 1) :
    (Lifetime.backup bk).births t ≠ 0 ∧
      (Lifetime.backup bk).alive t = false := by
  rw [← backup_endings] at hOnce
  rcases Lifetime.births_eq hRespected with ⟨hSum, hMost⟩
  refine ⟨by omega, ?_⟩
  rw [Bool.eq_false_iff]
  intro hAlive
  rw [if_pos hAlive] at hSum
  omega

/- A native backup was started between its databases. -/
theorem started_of_between
    {sourceDb db : DatabaseHandle}
    (hBetween : t.between bk = some (sourceDb, db)) :
    ∃ name sourceName,
      ⟨.startBackup db name sourceDb sourceName bk, true⟩ ∈
        t := by
  rcases List.exists_of_findSome?_eq_some hBetween with
    ⟨⟨call, answer⟩, hMember, hCopies⟩
  cases call <;> try cases hCopies
  case startBackup db' name source' name' bk' =>
    simp only [Event.copies] at hCopies
    split at hCopies
    case isFalse => cases hCopies
    case isTrue hIs =>
      rcases hIs with ⟨rfl, hCreated⟩
      cases hCopies
      cases hCreated
      exact ⟨name, name', hMember⟩

end Trace

------------------------------------------------------------
-- Single Steps
------------------------------------------------------------

namespace Backup

variable {s : Session E} {p : Place} {bk : BackupHandle}

/- A backup that was started is there, and not complete. -/
theorem start_found
    {source destination : ConnectionId}
    {first second : Bytes}
    {s' : Session E}
    (hStarted : (start p source destination first second).run
      s = (.ok (), s')) :
    ∃ bk, s'.world.backups.get? p =
      some
        { handle := some bk
          source := some source
          destination := some destination
          complete := false } := by
  unfold start at hStarted
  rcases run_bind_eq_ok.mp hStarted with ⟨_, _, _, hNext⟩
  rcases run_bind_eq_ok.mp hNext with ⟨_, _, _, hNext⟩
  rcases run_bind_eq_ok.mp hNext with ⟨db, _, _, hNext⟩
  rcases run_bind_eq_ok.mp hNext with ⟨number, _, _, hNext⟩
  rcases run_bind_eq_ok.mp hNext with
    ⟨created, s₁, _, hEnd⟩
  cases created with
  | true =>
      cases hEnd
      exact ⟨⟨number + 1⟩, by simp [register]⟩
  | false =>
      rcases run_bind_eq_ok.mp hEnd with ⟨_, _, _, hFail⟩
      rcases run_bind_eq_ok.mp hFail with ⟨_, _, _, hFail⟩
      cases hFail

/- One that could not be started is not there. -/
theorem start_failed
    {source destination : ConnectionId}
    {first second : Bytes}
    {e : Failure}
    {s' : Session E}
    (hFailed : (start p source destination first second).run
      s = (.error e, s')) :
    s'.world.backups = s.world.backups := by
  unfold start at hFailed
  by_cases hSame : source = destination
  · rw [run_bind_of_error
      (run_require_of_false (by simp [hSame]) _ s)] at hFailed
    cases hFailed
    rfl
  rw [run_bind_of_ok
    (run_require_of_true (by simp [hSame]) _ s)] at hFailed
  cases hSource : (s.world.connection source).handle with
  | none =>
      rw [run_bind_of_error
        (Connection.requireOpen_of_closed hSource _)]
        at hFailed
      cases hFailed
      rfl
  | some sourceDb =>
      rw [run_bind_of_ok
        (Connection.requireOpen_of_open hSource _)] at hFailed
      cases hDestination :
          (s.world.connection destination).handle with
      | none =>
          rw [run_bind_of_error
            (Connection.requireOpen_of_closed hDestination _)]
            at hFailed
          cases hFailed
          rfl
      | some db =>
          rw [run_bind_of_ok
            (Connection.requireOpen_of_open hDestination _),
            run_bind_of_ok (run_lift _ _),
            run_bind_of_ok (run_lift _ _)] at hFailed
          split at hFailed
          case isTrue => cases hFailed
          case isFalse =>
            rw [run_bind_of_ok (run_lift _ _),
              run_bind_of_ok (run_lift _ _)] at hFailed
            cases hFailed
            rfl

/- A backup that is complete is not advanced. -/
theorem step_of_complete
    (pages : Int)
    (hComplete : (s.world.backup p).complete = true) :
    (step p pages).run s = (.ok true, s) := by
  unfold step lookup
  rw [run_read, if_pos hComplete]
  rfl

/- One that was finished before is refused. -/
theorem step_of_ended
    (pages : Int)
    (hOpen : (s.world.backup p).complete = false)
    (hEnded : (s.world.backup p).handle = none) :
    (step p pages).run s =
      (.error (.database Refusal.backupFinished.error),
        s) := by
  unfold step lookup
  rw [run_read, if_neg (by simp [hOpen])]
  simp only [hEnded]
  rfl

/- The error of a step that failed. -/
def stepError
    (E : Engine)
    (code : ResultCode) : DatabaseError :=
  .ofCode code .other
    (Bytes.ascii "backup step failed: " ++ E.describe code)
    [] none

/- The engine is asked once, and the answer decides. -/
theorem step_of_running
    (pages : Int)
    (hOpen : (s.world.backup p).complete = false)
    (hHandle : (s.world.backup p).handle = some bk) :
    ∃ code engine,
      (step p pages).run s =
        if code = ResultCode.done then
          (.ok true,
            { s with
              world :=
                (s.world.heard ⟨.stepBackup bk pages, code⟩
                  engine).modifyBackup p
                    fun b => { b with complete := true } })
        else
          (if code = ResultCode.ok then .ok false
            else .error (.database (stepError E code)),
            { s with
              world :=
                s.world.heard ⟨.stepBackup bk pages, code⟩
                  engine }) := by
  rcases hAnswer :
      E.answer (.stepBackup bk pages) s.world.engine with
    ⟨code, engine⟩
  refine ⟨code, engine, ?_⟩
  unfold step lookup
  rw [run_read, if_neg (by simp [hOpen])]
  simp only [hHandle]
  rw [run_bind_of_ok (run_lift _ s)]
  simp only [Quiet.invoke, hAnswer]
  split
  case isTrue => rfl
  case isFalse => split <;> rfl

end Backup

namespace Session

variable {s : Session E} {h : List StatementHandle}
variable {n : Nat} {bk : BackupHandle} {op : Operation}
variable {source destination c : ConnectionId}

/- Every handle is accounted for after an operation. -/
theorem run_sound
    (op : Operation)
    (hSound : Sound (s.rest h)) :
    Sound ((s.run op).2.rest (s.given op ++ h)) :=
  (run_steps op hSound).sound hSound

/- A slot with a backup is found. -/
theorem run_backupIn
    (hFound : s.world.backups.get? (.slot n) ≠ none) :
    (Operation.backupIn n).run s = (.ok (.slot n), s) := by
  unfold Operation.backupIn
  rw [Operation.run_occupied, if_pos]
  simpa [Table.contains, Option.isSome_iff_ne_none]
    using hFound

theorem run_backupIn_of_vacant
    (hVacant : s.world.backups.get? (.slot n) = none) :
    (Operation.backupIn n).run s = (.error .noObject, s) := by
  unfold Operation.backupIn
  rw [Operation.run_occupied, if_neg]
  simp [Table.contains, hVacant]

/- What is asked of a backup is asked of the one in a slot. -/
theorem run_backup
    (r : BackupRequest)
    (hFound : s.world.backups.get? (.slot n) ≠ none) :
    s.run (.backup n r) = (r.perform (.slot n)).run s :=
  run_bind_of_ok (run_backupIn hFound)

------------------------------------------------------------
-- Phases
------------------------------------------------------------

/-
  Whether a connection, plain or serialized, is not closed
  when it is asked to: the answer is that it is busy, and the
  session stays as it is.
-/
structure RefusesClosing
    (s : Session E)
    (c : ConnectionId) : Prop where
  plain : ∀ k, s.world.plain.get? k = some c →
    ∃ e : DatabaseError, e.kind = .busy ∧
      s.run (.connection k .close) =
        (.error (.database e), s)
  serialized : ∀ z, s.world.serialized.get? z = some c →
    ∃ e : DatabaseError, e.kind = .busy ∧
      s.run (.serialized z .close) =
        (.error (.database e), s)

/-
  Whether a backup in a slot is unfinished, with a certain
  handle and between two connections:

    * `found`: it is marked as complete if and only if a step
      has copied everything
    * `notYet`: the handle was not given back
    * `started`: it is the handle of a native backup between
      the databases of the two connections
    * `listed`: both connections list the backup
    * `refuses`: neither of them can be closed
-/
structure Unfinished
    (s : Session E)
    (n : Nat)
    (bk : BackupHandle)
    (source destination : ConnectionId) : Prop where
  found : s.world.backups.get? (.slot n) =
    some
      { handle := some bk
        source := some source
        destination := some destination
        complete := s.world.trace.hasCopied bk }
  notYet :
    s.world.trace.countP (·.call = .finishBackup bk) = 0
  started : ∃ db name sourceDb sourceName,
    ⟨.startBackup db name sourceDb sourceName bk, true⟩ ∈
        s.world.trace ∧
      (s.world.connection source).handle = some sourceDb ∧
      (s.world.connection destination).handle = some db
  listed : ∀ c, c = source ∨ c = destination →
    .slot n ∈ (s.world.connection c).backups
  refuses : ∀ c, c = source ∨ c = destination →
    s.RefusesClosing c

/-
  Whether the backup in a slot is finished, which had a
  certain handle:

    * `found`: it has no handle and refers to no connection,
      and is still marked as complete if it was copied
    * `once`: the handle was given back exactly once
    * `unlisted`: no connection lists the backup
-/
structure Finished
    (s : Session E)
    (n : Nat)
    (bk : BackupHandle) : Prop where
  found : s.world.backups.get? (.slot n) =
    some
      { handle := none
        source := none
        destination := none
        complete := s.world.trace.hasCopied bk }
  once :
    s.world.trace.countP (·.call = .finishBackup bk) = 1
  unlisted : ∀ c, .slot n ∉ (s.world.connection c).backups

/- What is listed is live, also where no connection is. -/
theorem listedBackups_iff
    (hSound : Sound (s.rest h))
    (c : ConnectionId)
    (p : Place) :
    p ∈ (s.world.connection c).backups ↔
      LiveBackup s.world.backups p c := by
  cases hConnection : s.world.connections.get? c with
  | none =>
      have hNot : ¬ LiveBackup s.world.backups p c :=
        fun hLive =>
          hSound.exists_of_liveBackup hLive hConnection
      simp [World.connection, hConnection, Connection.vacant,
        hNot]
  | some conn =>
      rw [World.connection_of_get? hConnection]
      exact hSound.mem_backups_iff rfl hConnection

/- A connection with an unfinished backup is not closed. -/
theorem refusesClosing_of_listed
    {p : Place}
    (hSound : Sound (s.rest h))
    (hListed : p ∈ (s.world.connection c).backups) :
    s.RefusesClosing c := by
  have hChildren :
      (s.world.connection c).hasChildren = true := by
    have hSome : (s.world.connection c).backups ≠ [] :=
      List.ne_nil_of_mem hListed
    simp [Connection.hasChildren, hSome]
  have hOpen : (s.world.connection c).handle ≠ none :=
    (hSound.consistent rfl).open_of_hasChildren hChildren
  have hClose : ∃ e : DatabaseError, e.kind = .busy ∧
      (Connection.close c).run s =
        (.error (.database e), s) := by
    rcases Option.ne_none_iff_exists'.mp hOpen with
      ⟨db, hHandle⟩
    refine ⟨(Refusal.liveChildren
      (s.world.connection c).statements.length
      (s.world.connection c).backups.length).error, rfl, ?_⟩
    unfold Connection.close Connection.lookup
    rw [run_read, hHandle]
    exact run_bind_of_error
      (run_require_of_false (by simp [hChildren]) _ s)
  rcases hClose with ⟨e, hBusy, hRun⟩
  constructor
  · intro k hSlot
    refine ⟨e, hBusy, ?_⟩
    have hIn : (Operation.connectionIn k).run s =
        (.ok c, s) :=
      Operation.run_needed hSlot
    exact (run_bind_of_ok hIn).trans (run_bind_of_error hRun)
  · intro z hSlot
    refine ⟨e, hBusy, ?_⟩
    have hIn : (Operation.serializedIn z).run s =
        (.ok c, s) :=
      Operation.run_needed hSlot
    exact (run_bind_of_ok hIn).trans (run_bind_of_error hRun)

/- The native backup of a handle is still known. -/
theorem Unfinished.of_found
    (hSound : Sound (s.rest h))
    (hFound : s.world.backups.get? (.slot n) =
      some
        { handle := some bk
          source := some source
          destination := some destination
          complete := s.world.trace.hasCopied bk }) :
    s.Unfinished n bk source destination := by
  have hListed : ∀ c, c = source ∨ c = destination →
      .slot n ∈ (s.world.connection c).backups := by
    intro c hIs
    apply (listedBackups_iff hSound c _).mpr
    refine ⟨_, hFound, by simp, ?_⟩
    rcases hIs with rfl | rfl
    · exact .inl rfl
    · exact .inr rfl
  refine
    { found := hFound
      notYet := ?_
      started := ?_
      listed := hListed
      refuses := fun c hIs =>
        refusesClosing_of_listed hSound (hListed c hIs) }
  · exact Trace.not_finished_of_alive
      (hSound.lawful.backups bk)
      (hSound.copying.alive hFound rfl)
  · rcases hSound.copying.between hFound rfl with
      ⟨_, _, conn, conn', hFrom, hTo, _, hConnection,
       hConnection', sourceDb, db, hHandle, hHandle',
       hBetween⟩
    cases hFrom
    cases hTo
    rcases Trace.started_of_between hBetween with
      ⟨name, sourceName, hMember⟩
    refine ⟨db, name, sourceDb, sourceName, hMember, ?_, ?_⟩
    · rw [← hHandle]
      exact congrArg _ (World.connection_of_get? hConnection)
    · rw [← hHandle']
      exact congrArg _ (World.connection_of_get? hConnection')

theorem Finished.of_found
    (hSound : Sound (s.rest h))
    (hFound : s.world.backups.get? (.slot n) =
      some
        { handle := none
          source := none
          destination := none
          complete := s.world.trace.hasCopied bk })
    (hBorn : (Lifetime.backup bk).births s.world.trace ≠ 0)
    (hDead :
      (Lifetime.backup bk).alive s.world.trace = false) :
    s.Finished n bk where
  found := hFound
  once := by
    rw [← Trace.backup_endings]
    exact Lifetime.endings_eq_one (hSound.lawful.backups bk)
      hBorn hDead
  unlisted c := by
    rw [listedBackups_iff hSound]
    rintro ⟨b, hBackup, hHandle, _⟩
    cases hFound.symm.trans hBackup
    exact hHandle rfl

end Session

end SqliteAccess
