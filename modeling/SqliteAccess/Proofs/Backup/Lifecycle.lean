import SqliteAccess.Backup.Copying
import SqliteAccess.Proofs.Connection.Settings
import SqliteAccess.Proofs.Session.Keeping

/-
  Starting, driving and finishing backups, step by step.

  The programs are characterized by:
    * `Backup.start_leads`
    * `Backup.step_keeps`
    * `Backup.finish_leads`
    * `Backup.detach_leads`
    * `Backup.destroy_leads`
    * `Backup.copyAll_keeps`
-/

namespace SqliteAccess

namespace Backup

variable {E : Engine} {A : Part → Prop} {P : Custody → Prop}
variable {g : Stage E} {p : Place} {c : ConnectionId}

open Attempt

------------------------------------------------------------
-- Starting
------------------------------------------------------------

/- A backup that is started is kept at its place. -/
theorem start_leads
    {source destination : ConnectionId}
    {sourceSchema destinationSchema : Bytes}
    (hPart : A (.backup p))
    (hClosing : g.custody.closing = none)
    (hVacant : g.world.backups.get? p = none)
    (hEnlists : p = .scratch ∨
      g.custody.enlists source ∧
        g.custody.enlists destination)
    (hDrives : p = .scratch ∨ g.custody.drives p) :
    Leads A g g.world
      (start p source destination sourceSchema
        destinationSchema)
      (fun _ g' =>
        g'.custody =
          { g.custody with
            copying := p = .scratch || g.custody.copying })
      (fun g' => g'.custody = g.custody) := by
  unfold start
  apply Leads.require
  case hFalse => exact fun _ => rfl
  intro hOther
  apply Leads.requireOpen
  case hClosed => rfl
  intro sourceConn sourceDb hSource hSourceDb
  apply Leads.requireOpen
  case hClosed => rfl
  intro conn db hDestination hDb
  apply Leads.read
  apply Leads.invoke
  intro created engine
  apply Leads.ite
  · intro hCreated
    cases hCreated
    apply Leads.last
    apply Leads.update
    apply Leads.commit
      (.single (.backup
        (.started hPart hVacant hClosing
          (of_decide_eq_true hOther) hSource hSourceDb
          hDestination hDb rfl hEnlists hDrives)))
    exact .pure rfl
  · intro hCreated
    cases Bool.eq_false_iff.mpr hCreated
    have hOpen : g.world.Opens db :=
      ⟨destination, conn, hDestination, hDb⟩
    have hOpenSource : g.world.Opens sourceDb :=
      ⟨source, sourceConn, hSource, hSourceDb⟩
    have hAllowed : g.Allows
        ⟨.startBackup db (Bytes.untilNul destinationSchema)
          sourceDb (Bytes.untilNul sourceSchema)
          ⟨g.world.issued.backups + 1⟩, false⟩ :=
      .notStarted hOpen hOpenSource rfl
    apply Leads.commit (.single (.ask hAllowed engine))
    apply Leads.ask
    · exact fun _ => .database rfl (.inl hOpen)
    intro code engine'
    apply Leads.lift
    apply Quiet.Leads.mono
      (handleError_leads
        (g := (g.heard _ engine).heard ⟨.errorCode db, code⟩
          engine')
        (.inl hOpen))
    intro e g' _ _ hAsked
    exact .fail hAsked.custody

------------------------------------------------------------
-- Copying
------------------------------------------------------------

/- A backup is advanced until everything has been copied. -/
theorem step_keeps
    (hPart : A (.backup p))
    (pages : Int) :
    Keeps (E := E) A
      (fun k => p = .scratch ∨ k.drives p) (step p pages) := by
  intro g hDrives
  unfold step
  apply Leads.read
  apply Leads.ite
  · exact fun _ => .pure rfl
  intro hOpen
  cases hHandle : (g.world.backup p).handle with
  | none => exact .refuse rfl
  | some bk =>
      rcases World.get?_of_backup_handle hHandle with
        ⟨b, hBackup, hOwn⟩
      rw [World.backup_of_get? hBackup] at hOpen
      have hNot : b.complete = false := by simpa using hOpen
      apply Leads.invoke
      intro code engine
      apply Leads.ite
      · intro hDone
        cases hDone
        apply Leads.update
        apply Leads.commit
          (.single (.backup
            (.copied hPart hDrives hBackup hOwn hNot)))
        exact .pure rfl
      · intro hCode
        apply Leads.commit
          (.single (.backup
            (.paused hPart hDrives hBackup hOwn hNot hCode)))
        apply Leads.ite
        · exact fun _ => .pure rfl
        · exact fun _ => .fail rfl

theorem remaining_leads :
    Leads A g g.world (remaining p)
      (fun _ => g.Asked) g.Asked := by
  unfold remaining
  apply Leads.read
  cases hHandle : (g.world.backup p).handle with
  | none =>
      apply Leads.require
      · exact fun _ => .pure (.refl g)
      · exact fun _ => .refl g
  | some bk =>
      apply Leads.last
      apply Leads.ask
      · exact fun _ => .backup rfl
          ⟨p, World.get?_of_backup_handle hHandle⟩
      intro pages engine
      exact .pure ((Stage.Asked.refl g).heard _ engine)

theorem pageCount_leads :
    Leads A g g.world (pageCount p)
      (fun _ => g.Asked) g.Asked := by
  unfold pageCount
  apply Leads.read
  cases hHandle : (g.world.backup p).handle with
  | none => exact .refuse (.refl g)
  | some bk =>
      apply Leads.last
      apply Leads.ask
      · exact fun _ => .backup rfl
          ⟨p, World.get?_of_backup_handle hHandle⟩
      intro pages engine
      exact .pure ((Stage.Asked.refl g).heard _ engine)

------------------------------------------------------------
-- Finishing
------------------------------------------------------------

/- Afterwards a backup has no handle. -/
theorem finish_leads
    (hPart : A (.backup p)) :
    Quiet.Leads A g g.world (finish p)
      fun _ g' => g'.custody = g.custody ∧
        (g'.world.backup p).handle = none := by
  unfold finish
  apply Quiet.Leads.read
  cases hHandle : (g.world.backup p).handle with
  | none => exact .pure ⟨rfl, hHandle⟩
  | some bk =>
      rcases World.get?_of_backup_handle hHandle with
        ⟨b, hBackup, hOwn⟩
      rw [World.backup_of_get? hBackup]
      apply Quiet.Leads.update
      apply Quiet.Leads.update
      apply Quiet.Leads.update
      apply Quiet.Leads.invoke
      intro code engine
      apply Quiet.Leads.commit
        (.single (.backup (.finished hPart hBackup hOwn)))
      have hEnded :
          (((((g.world.modifyLinked b.source
              (·.removeBackup p)).modifyLinked b.destination
                (·.removeBackup p)).modifyBackup p
                  fun b => { b.unlisted with handle := none })
            |>.heard ⟨.finishBackup bk, code⟩ engine).backup
              p).handle = none := by
        simp [World.backup, World.heard, hBackup]
      exact .noteIf ⟨rfl, hEnded⟩

theorem finish_keeps
    (hPart : A (.backup p)) :
    Quiet.Keeps (E := E) A P (finish p) := by
  intro g _
  apply (finish_leads hPart).mono
  exact fun _ g' _ _ hFinished => hFinished.1

/-
  A backup that is unfinished on a connection that goes away
  is finished, and struck out at the other connection.
-/
theorem detach_leads
    (hPart : A (.backup p))
    (hClosing : g.custody.closing = some c)
    (hLive : LiveBackup g.world.backups p c) :
    Quiet.Leads A g g.world (detach c p)
      fun _ g' => g'.custody = g.custody ∧
        (g'.world.backup p).handle = none := by
  rcases hLive with ⟨b, hBackup, hOn⟩
  rcases Option.ne_none_iff_exists'.mp hOn.1 with
    ⟨bk, hHandle⟩
  have hWithout :
      (g.world.modifyBackup p (·.without c)).backup p =
        b.without c := by
    simp [World.backup, hBackup]
  unfold detach
  apply Quiet.Leads.read
  apply Quiet.Leads.note
  apply Quiet.Leads.update
  unfold finish
  apply Quiet.Leads.read
  rw [hWithout]
  simp only [without, hHandle]
  apply Quiet.Leads.update
  apply Quiet.Leads.update
  apply Quiet.Leads.update
  apply Quiet.Leads.invoke
  intro code engine
  apply Quiet.Leads.commit
    (.single (.backup
      (.severed hPart hClosing hBackup hOn hHandle)))
  have hEnded :
      ((((((g.world.modifyBackup p (·.without c)).modifyLinked
          (b.without c).source
            (·.removeBackup p)).modifyLinked
          (b.without c).destination
            (·.removeBackup p)).modifyBackup p
              fun b => { b.unlisted with handle := none })
        |>.heard ⟨.finishBackup bk, code⟩ engine).backup
          p).handle = none := by
    simp [World.backup, World.heard, hBackup]
  exact .noteIf ⟨rfl, hEnded⟩

/- Afterwards there is no backup. -/
theorem destroy_leads
    (hPart : A (.backup p))
    (hDrives : p = .scratch ∨ g.custody.drives p) :
    Quiet.Leads A g g.world (destroy p)
      fun _ g' =>
        g'.custody =
          { g.custody with
            copying := p ≠ .scratch && g.custody.copying } ∧
        g'.world.backups.get? p = none := by
  unfold destroy
  apply Quiet.Leads.bind
  apply (finish_leads hPart).mono
  intro _ g₁ _ _ hFinished
  rcases hFinished with ⟨hCustody, hEnded⟩
  rw [← hCustody] at hDrives
  apply Quiet.Leads.last
  apply Quiet.Leads.update
  apply Quiet.Leads.commit
    (.single (.backup (.dropped hPart hDrives hEnded)))
  apply Quiet.Leads.pure
  rw [← hCustody]
  exact ⟨rfl, by simp⟩

/- Backups in slots are destroyed with nothing under way. -/
theorem destroy_slot_leads
    {n : Nat}
    (hPart : A (.backup (.slot n)))
    (hDrives : g.custody.drives (.slot n)) :
    Quiet.Leads A g g.world (destroy (.slot n))
      fun _ g' => g'.custody = g.custody ∧
        g'.world.backups.get? (.slot n) = none := by
  apply (destroy_leads hPart (.inr hDrives)).mono
  intro _ g' _ _ hDestroyed
  exact ⟨by simpa using hDestroyed.1, hDestroyed.2⟩

------------------------------------------------------------
-- Whole Databases
------------------------------------------------------------

/- A whole copy has a temporary backup, gone afterwards. -/
theorem copyAll_keeps
    {source destination : ConnectionId}
    (hPart : A (.backup .scratch)) :
    Keeps (E := E) A Custody.Idle
      (copyAll source destination) := by
  intro g hIdle
  apply Leads.sound
  intro hSound
  have hVacant : g.world.backups.get? .scratch = none := by
    have hNone := hSound.scratchBackup
    rw [hIdle.copying] at hNone
    simpa [Table.contains] using hNone
  have hDestroy : ∀ g₁ : Stage E,
      g₁.custody = { g.custody with copying := true } →
        Quiet.Leads A g₁ g₁.world (destroy .scratch)
          fun _ g₂ => g₂.custody = g.custody := by
    intro g₁ hCustody
    apply (destroy_leads hPart (.inl rfl)).mono
    intro _ g₂ _ _ hDestroyed
    rw [hDestroyed.1, hCustody]
    exact Custody.copying_eq hIdle.copying
  unfold copyAll
  apply Leads.bind
  apply (start_leads hPart hIdle.closing hVacant
    (.inl rfl) (.inl rfl)).mono
  case hFail =>
    intro g' _ _ hSame
    exact hSame
  intro _ g₁ _ _ hStarted
  have hCustody :
      g₁.custody = { g.custody with copying := true } := by
    simpa using hStarted
  have hBody : Keeps (E := E) A (fun _ => True)
      (do
        let _ ← step .scratch (-1)
        lift (finish .scratch)) := by
    apply Keeps.bind
    · exact (step_keeps hPart (-1)).weaken
        fun _ _ => .inl rfl
    · exact fun _ => .lift (finish_keeps hPart)
  apply Leads.ensuring
  apply (hBody g₁ trivial).mono
  · intro _ g₂ _ _ hSame
    exact hDestroy g₂ (hSame.trans hCustody)
  · intro g₂ _ _ hSame
    exact hDestroy g₂ (hSame.trans hCustody)

end Backup

end SqliteAccess
