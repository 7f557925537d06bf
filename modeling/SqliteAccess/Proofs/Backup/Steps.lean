import SqliteAccess.Proofs.Backup.Registered
import SqliteAccess.Proofs.Session.Asking

/-
  The steps that change backups.

  Key definitions include:
    * `BackupStep`

  The steps are characterized by:
    * `BackupStep.sound`
    * `BackupStep.keeps_backup`
-/

namespace SqliteAccess

variable {E : Engine} {A B : Part → Prop} {g g' : Stage E}

------------------------------------------------------------
-- Steps
------------------------------------------------------------

/-
  What can happen to backups: they are started, advanced to
  their end or not so far, finished and removed.  A complete
  one is not advanced any more.  When one of their connections
  goes away they are severed from it and finished.
-/
inductive BackupStep (A : Part → Prop) :
    Stage E → Stage E → Prop
  | started
      {g p bk source destination sourceConn conn sourceDb db
        sourceSchema dbSchema engine}
      (hPart : A (.backup p))
      (hVacant : g.world.backups.get? p = none)
      (hClosing : g.custody.closing = none)
      (hOther : source ≠ destination)
      (hSource :
        g.world.connections.get? source = some sourceConn)
      (hSourceDb : sourceConn.handle = some sourceDb)
      (hDestination :
        g.world.connections.get? destination = some conn)
      (hDb : conn.handle = some db)
      (hNumber : bk.number = g.world.issued.backups + 1)
      (hEnlists : p = .scratch ∨
        g.custody.enlists source ∧
          g.custody.enlists destination)
      (hDrives : p = .scratch ∨ g.custody.drives p) :
      BackupStep A g
        { custody :=
            { g.custody with
              copying :=
                p = .scratch || g.custody.copying }
          world :=
            Backup.register p bk source destination
              (g.world.heard
                ⟨.startBackup db dbSchema sourceDb
                  sourceSchema bk, true⟩ engine) }
  | copied {g p b bk pages engine}
      (hPart : A (.backup p))
      (hDrives : p = .scratch ∨ g.custody.drives p)
      (hBackup : g.world.backups.get? p = some b)
      (hHandle : b.handle = some bk)
      (hOpen : b.complete = false) :
      BackupStep A g
        { g with
          world :=
            (g.world.heard
              ⟨.stepBackup bk pages, ResultCode.done⟩ engine)
              |>.modifyBackup p
                fun b => { b with complete := true } }
  | paused {g p b bk pages code engine}
      (hPart : A (.backup p))
      (hDrives : p = .scratch ∨ g.custody.drives p)
      (hBackup : g.world.backups.get? p = some b)
      (hHandle : b.handle = some bk)
      (hOpen : b.complete = false)
      (hCode : code ≠ ResultCode.done) :
      BackupStep A g
        { g with
          world :=
            g.world.heard ⟨.stepBackup bk pages, code⟩
              engine }
  | finished {g p b bk code engine}
      (hPart : A (.backup p))
      (hBackup : g.world.backups.get? p = some b)
      (hHandle : b.handle = some bk) :
      BackupStep A g
        { g with
          world :=
            (((g.world.modifyLinked b.source
                (·.removeBackup p))
              |>.modifyLinked b.destination
                (·.removeBackup p))
              |>.modifyBackup p
                fun b => { b.unlisted with handle := none })
              |>.heard ⟨.finishBackup bk, code⟩ engine }
  | severed {g c p b bk code engine}
      (hPart : A (.backup p))
      (hClosing : g.custody.closing = some c)
      (hBackup : g.world.backups.get? p = some b)
      (hLive : b.IsLiveOn c)
      (hHandle : b.handle = some bk) :
      BackupStep A g
        { g with
          world :=
            ((((g.world.modifyBackup p (·.without c))
              |>.modifyLinked (b.without c).source
                (·.removeBackup p))
              |>.modifyLinked (b.without c).destination
                (·.removeBackup p))
              |>.modifyBackup p
                fun b => { b.unlisted with handle := none })
              |>.heard ⟨.finishBackup bk, code⟩ engine }
  | dropped {g p}
      (hPart : A (.backup p))
      (hDrives : p = .scratch ∨ g.custody.drives p)
      (hEnded : (g.world.backup p).handle = none) :
      BackupStep A g
        { custody :=
            { g.custody with
              copying :=
                p ≠ .scratch && g.custody.copying }
          world :=
            { g.world with
              backups := g.world.backups.erase p } }

------------------------------------------------------------
-- Soundness
------------------------------------------------------------

namespace Sound

variable {p : Place} {b : Backup} {bk : BackupHandle}

/- A backup that is alive can be finished. -/
theorem lawful_finish
    (hSound : Sound g)
    (hBackup : g.world.backups.get? p = some b)
    (hHandle : b.handle = some bk)
    (code : ResultCode) :
    Event.Lawful g.custody.hosted g.world.trace
      ⟨.finishBackup bk, code⟩ := by
  have hAlive := hSound.copying.alive hBackup hHandle
  apply Event.Lawful.of_named rfl rfl rfl
  · simp [Call.statement?]
  · simpa [Call.backup?] using hAlive
  · simp [Call.databases]
  · simp [Call.closes?]
  · simp [Event.Conforms, Call.column?]

theorem started
    {source destination : ConnectionId}
    {sourceConn conn : Connection}
    {sourceDb db : DatabaseHandle}
    {sourceSchema dbSchema : Bytes}
    (hSound : Sound g)
    (hVacant : g.world.backups.get? p = none)
    (hClosing : g.custody.closing = none)
    (hOther : source ≠ destination)
    (hSource :
      g.world.connections.get? source = some sourceConn)
    (hSourceDb : sourceConn.handle = some sourceDb)
    (hDestination :
      g.world.connections.get? destination = some conn)
    (hDb : conn.handle = some db)
    (hNumber : bk.number = g.world.issued.backups + 1)
    (engine : E.State) :
    Sound
      { custody :=
          { g.custody with
            copying := p = .scratch || g.custody.copying }
        world :=
          Backup.register p bk source destination
            (g.world.heard
              ⟨.startBackup db dbSchema sourceDb sourceSchema
                bk, true⟩ engine) } := by
  have hNew := hSound.copying.births_eq_zero hNumber
  have hAlive :=
    hSound.alive_of_opens ⟨destination, conn, hDestination, hDb⟩
  have hAlive' :=
    hSound.alive_of_opens ⟨source, sourceConn, hSource, hSourceDb⟩
  have hFirst := SameHandles.modify
    (f := (·.addBackup p)) g.world.connections source
    fun _ => rfl
  have hSecond := SameHandles.modify
    (f := (·.addBackup p))
    (g.world.connections.modify source (·.addBackup p))
    destination fun _ => rfl
  have hSame := hFirst.trans hSecond
  have hRegistered := hSound.registered
  rw [hClosing] at hRegistered
  have hCopying := hSound.copying.started hVacant hOther
    hSource hSourceDb hDestination hDb hNumber
    (b :=
      { handle := some bk
        source := some source
        destination := some destination
        complete := false })
    rfl rfl rfl sourceSchema dbSchema
  rw [Backup.register_eq]
  exact
    { hSound with
      lawful :=
        ⟨Event.Lawful.of_start hNew hAlive hAlive',
          hSound.lawful⟩
      linked := hSound.linked_heard rfl
      owned := hSound.owned.of_connections
        fun _ _ hIs => hSame.get?_eq_some hIs
      opened := (hSound.opened.heard (fun _ => ⟨rfl, rfl⟩)
        fun _ => rfl).of_sameHandles hSame
      copying := hCopying.of_sameHandles hSame
      registered := by
        show Registered _ _ _ g.custody.closing
        rw [hClosing]
        exact hRegistered.started hVacant (by simp) rfl rfl
      housed := hSound.housed.of_sameHandles hSame
      scratchBackup := by
        simp [World.heard, hSound.scratchBackup, eq_comm] }

/- A backup that is alive can be advanced. -/
theorem backupAdvanced
    (hSound : Sound g)
    (hBackup : g.world.backups.get? p = some b)
    (hHandle : b.handle = some bk)
    (pages : Int)
    (code : ResultCode)
    (engine : E.State) :
    Sound (g.heard ⟨.stepBackup bk pages, code⟩ engine) := by
  have hAlive := hSound.copying.alive hBackup hHandle
  have hHarmless : Event.Harmless g.world.trace
      ⟨.stepBackup bk pages, code⟩ :=
    Event.harmless_of_inert _ rfl
  have hConforms : Event.Conforms g.world.trace
      ⟨.stepBackup bk pages, code⟩ := by
    simp [Event.Conforms, Call.column?]
  have hLawful : Event.Lawful g.custody.hosted g.world.trace
      ⟨.stepBackup bk pages, code⟩ := by
    apply Event.Lawful.of_inert rfl _ _ _ hConforms
    · simp [Call.statement?]
    · simpa [Call.backup?] using hAlive
    · simp [Call.databases]
  exact
    { hSound with
      lawful := ⟨hLawful, hSound.lawful⟩
      linked := hSound.linked_heard rfl
      opened := hSound.opened.heard hHarmless.database
        hHarmless.leaves
      copying := hSound.copying.heard hHarmless.backup
        hHarmless.copies }

theorem copied
    (hSound : Sound g) :
    Sound
      { g with
        world :=
          g.world.modifyBackup p
            fun b => { b with complete := true } } := by
  rw [World.modifyBackup_eq]
  cases hBackup : g.world.backups.get? p with
  | none =>
      rw [Table.modify_eq_self _ hBackup]
      exact hSound
  | some b =>
      rw [Table.modify_eq_put _ hBackup]
      exact
        { hSound with
          copying := hSound.copying.changed hBackup rfl rfl
            rfl
          registered := hSound.registered.backupChanged
            hBackup rfl rfl rfl
          scratchBackup := by
            rw [Table.contains_put_of_get? _ hBackup]
            exact hSound.scratchBackup }

/-
  A backup is struck out where it is still entered, and its
  handle is given back.
-/
theorem backupFinished
    {source destination : Option ConnectionId}
    {b' : Backup}
    (hSound : Sound g)
    (hBackup : g.world.backups.get? p = some b)
    (hHandle : b.handle = some bk)
    (hSource : ∀ c, g.custody.closing ≠ some c →
      b.source = some c → source = some c)
    (hDestination : ∀ c, g.custody.closing ≠ some c →
      b.destination = some c → destination = some c)
    (hHandle' : b'.handle = none)
    (code : ResultCode)
    (engine : E.State) :
    Sound
      { g with
        world :=
          { g.world.heard ⟨.finishBackup bk, code⟩ engine with
            connections :=
              (g.world.connections.modify? source
                (·.removeBackup p)).modify? destination
                  (·.removeBackup p)
            backups := g.world.backups.put p b' } } := by
  have hFirst := SameHandles.modify?
    (f := (·.removeBackup p)) g.world.connections source
    fun _ => rfl
  have hSecond := SameHandles.modify?
    (f := (·.removeBackup p))
    (g.world.connections.modify? source (·.removeBackup p))
    destination fun _ => rfl
  have hSame := hFirst.trans hSecond
  exact
    { hSound with
      lawful :=
        ⟨hSound.lawful_finish hBackup hHandle code,
          hSound.lawful⟩
      linked := hSound.linked_heard rfl
      owned := hSound.owned.of_connections
        fun _ _ hIs => hSame.get?_eq_some hIs
      opened := (hSound.opened.heard (fun _ => ⟨rfl, rfl⟩)
        fun _ => rfl).of_sameHandles hSame
      copying := (hSound.copying.finished hBackup hHandle code
        hHandle').of_sameHandles hSame
      registered := hSound.registered.finished hBackup hSource
        hDestination hHandle'
      housed := hSound.housed.of_sameHandles hSame
      scratchBackup := by
        rw [Table.contains_put_of_get? _ hBackup]
        exact hSound.scratchBackup }

theorem finished
    (hSound : Sound g)
    (hBackup : g.world.backups.get? p = some b)
    (hHandle : b.handle = some bk)
    (code : ResultCode)
    (engine : E.State) :
    Sound
      { g with
        world :=
          (((g.world.modifyLinked b.source
              (·.removeBackup p))
            |>.modifyLinked b.destination
              (·.removeBackup p))
            |>.modifyBackup p
              fun b => { b.unlisted with handle := none })
            |>.heard ⟨.finishBackup bk, code⟩ engine } := by
  simp only [World.modifyLinked_eq, World.modifyBackup_eq]
  rw [Table.modify_eq_put _ hBackup]
  exact hSound.backupFinished hBackup hHandle
    (fun _ _ hIs => hIs) (fun _ _ hIs => hIs) rfl code engine

theorem severed
    {c : ConnectionId}
    (hSound : Sound g)
    (hClosing : g.custody.closing = some c)
    (hBackup : g.world.backups.get? p = some b)
    (hHandle : b.handle = some bk)
    (code : ResultCode)
    (engine : E.State) :
    Sound
      { g with
        world :=
          ((((g.world.modifyBackup p (·.without c))
            |>.modifyLinked (b.without c).source
              (·.removeBackup p))
            |>.modifyLinked (b.without c).destination
              (·.removeBackup p))
            |>.modifyBackup p
              fun b => { b.unlisted with handle := none })
            |>.heard ⟨.finishBackup bk, code⟩ engine } := by
  have hSevered :
      (g.world.backups.put p (b.without c)).get? p =
        some (b.without c) := by
    simp
  simp only [World.modifyLinked_eq, World.modifyBackup_eq]
  rw [Table.modify_eq_put _ hBackup,
    Table.modify_eq_put _ hSevered, Table.put_put]
  apply hSound.backupFinished hBackup hHandle
  case hHandle' => rfl
  case hSource =>
    intro c' hOther hFrom
    rw [hClosing] at hOther
    have hElse : c' ≠ c := fun h => hOther (h ▸ rfl)
    simp [Backup.without, hFrom, hElse]
  case hDestination =>
    intro c' hOther hTo
    rw [hClosing] at hOther
    have hElse : c' ≠ c := fun h => hOther (h ▸ rfl)
    simp [Backup.without, hTo, hElse]

theorem dropped
    (hSound : Sound g)
    (hEnded : (g.world.backup p).handle = none) :
    Sound
      { custody :=
          { g.custody with
            copying := p ≠ .scratch && g.custody.copying }
        world :=
          { g.world with
            backups := g.world.backups.erase p } } := by
  have hNone : ∀ b, g.world.backups.get? p = some b →
      b.handle = none := by
    intro b hBackup
    rw [World.backup_of_get? hBackup] at hEnded
    exact hEnded
  exact
    { hSound with
      copying := hSound.copying.dropped hNone
      registered := hSound.registered.dropped hNone
      scratchBackup := by
        simp [hSound.scratchBackup, eq_comm] }

end Sound

/- Steps on backups keep a stage sound. -/
theorem BackupStep.sound
    (hSound : Sound g)
    (hStep : BackupStep A g g') :
    Sound g' := by
  cases hStep with
  | started _ hVacant hClosing hOther hSource hSourceDb
      hDestination hDb hNumber =>
      exact hSound.started hVacant hClosing hOther hSource
        hSourceDb hDestination hDb hNumber _
  | copied _ _ hBackup hHandle =>
      exact (hSound.backupAdvanced hBackup hHandle _ _ _).copied
  | paused _ _ hBackup hHandle =>
      exact hSound.backupAdvanced hBackup hHandle _ _ _
  | finished _ hBackup hHandle =>
      exact hSound.finished hBackup hHandle _ _
  | severed _ hClosing hBackup _ hHandle =>
      exact hSound.severed hClosing hBackup hHandle _ _
  | dropped _ _ hEnded => exact hSound.dropped hEnded

------------------------------------------------------------
-- What the Steps Keep
------------------------------------------------------------

namespace BackupStep

/- Steps that may change more parts. -/
theorem mono
    (hMore : ∀ part, A part → B part)
    (hStep : BackupStep A g g') :
    BackupStep B g g' := by
  cases hStep with
  | started hPart hVacant hClosing hOther hSource hSourceDb
      hDestination hDb hNumber hEnlists hDrives =>
      exact .started (hMore _ hPart) hVacant hClosing hOther
        hSource hSourceDb hDestination hDb hNumber hEnlists
        hDrives
  | copied hPart hDrives hBackup hHandle hOpen =>
      exact .copied (hMore _ hPart) hDrives hBackup hHandle
        hOpen
  | paused hPart hDrives hBackup hHandle hOpen hCode =>
      exact .paused (hMore _ hPart) hDrives hBackup hHandle
        hOpen hCode
  | finished hPart hBackup hHandle =>
      exact .finished (hMore _ hPart) hBackup hHandle
  | severed hPart hClosing hBackup hLive hHandle =>
      exact .severed (hMore _ hPart) hClosing hBackup hLive
        hHandle
  | dropped hPart hDrives hEnded =>
      exact .dropped (hMore _ hPart) hDrives hEnded

/- A step that is kept from a backup leaves it as it is. -/
theorem keeps_backup
    {p : Place}
    (hPart : ¬ A (.backup p))
    (hStep : BackupStep A g g') :
    g'.world.backups.get? p = g.world.backups.get? p := by
  have hOther : ∀ {q}, A (.backup q) → p ≠ q := by
    intro q hAllowed hSame
    exact hPart (hSame ▸ hAllowed)
  cases hStep <;> simp_all [World.heard]

theorem keeps_statements
    (hStep : BackupStep A g g') :
    g'.world.statements = g.world.statements := by
  cases hStep <;> simp [World.heard]

theorem keeps_issued
    (hStep : BackupStep A g g') :
    g'.world.issued.anchors = g.world.issued.anchors := by
  cases hStep <;> simp [World.heard]

theorem keeps_connections
    (hStep : BackupStep A g g') :
    SameHandles g.world.connections g'.world.connections ∧
      g'.world.issued.connections =
        g.world.issued.connections := by
  have hRemoved : ∀ (connections : Table ConnectionId
      Connection) (c c' : Option ConnectionId) (p : Place),
      SameHandles connections
        ((connections.modify? c (·.removeBackup p)).modify? c'
          (·.removeBackup p)) :=
    fun connections c c' p =>
      (SameHandles.modify? (f := (·.removeBackup p))
        connections c fun _ => rfl).trans
          (.modify? _ c' fun _ => rfl)
  cases hStep with
  | @started p _ source destination =>
      rw [Backup.register_eq]
      exact ⟨(SameHandles.modify (f := (·.addBackup p))
        g.world.connections source fun _ => rfl).trans
          (.modify _ destination fun _ => rfl), rfl⟩
  | copied =>
      simp only [World.modifyBackup_eq]
      exact ⟨.refl _, rfl⟩
  | paused => exact ⟨.refl _, rfl⟩
  | finished | severed =>
      simp only [World.modifyBackup_eq, World.modifyLinked_eq]
      exact ⟨hRemoved _ _ _ _, rfl⟩
  | dropped => exact ⟨.refl _, rfl⟩

theorem keeps_expendable
    (hStep : BackupStep A g g') :
    g'.custody.expendable = g.custody.expendable := by
  cases hStep <;> rfl

theorem keeps_enlists
    (hStep : BackupStep A g g') :
    g'.custody.enlists = g.custody.enlists := by
  cases hStep <;> rfl

theorem keeps_drives
    (hStep : BackupStep A g g') :
    g'.custody.drives = g.custody.drives := by
  cases hStep <;> rfl

/-
  A backup that is unfinished in a slot was so before, or
  else is on a connection that may get one.
-/
theorem live_before
    {p : Place}
    {c : ConnectionId}
    (hSlot : p ≠ .scratch)
    (hLive : LiveBackup g'.world.backups p c)
    (hStep : BackupStep A g g') :
    g.custody.enlists c ∨
      LiveBackup g.world.backups p c := by
  cases hStep with
  | @started q _ source destination _ _ _ _ _ _ _ _ _ _ _ _ _
      _ _ _ hEnlists =>
      rw [Backup.register_eq] at hLive
      rcases liveBackup_put.mp hLive with
        ⟨rfl, _, hOn⟩ | ⟨_, hBefore⟩
      · rcases hEnlists.resolve_left hSlot with
          ⟨hSource, hDestination⟩
        rcases hOn with hFrom | hTo
        · cases hFrom
          exact .inl hSource
        · cases hTo
          exact .inl hDestination
      · exact .inr hBefore
  | paused => exact .inr hLive
  | copied =>
      rw [World.modifyBackup_eq] at hLive
      refine .inr (liveBackup_of_modify ?_ hLive)
      exact fun _ hOn => hOn
  | finished =>
      simp only [World.modifyBackup_eq, World.modifyLinked_eq,
        World.heard] at hLive
      exact .inr (liveBackup_of_modify
        (fun _ hOn => absurd rfl hOn.1) hLive)
  | severed =>
      simp only [World.modifyBackup_eq, World.modifyLinked_eq,
        World.heard] at hLive
      refine .inr (liveBackup_of_modify (fun b hOn => ?_)
        (liveBackup_of_modify
          (fun _ hOn => absurd rfl hOn.1) hLive))
      refine ⟨hOn.1, hOn.2.imp ?_ ?_⟩
      all_goals
        intro hIs
        simp only [Backup.without] at hIs
        split at hIs
        case isTrue => cases hIs
        case isFalse => exact hIs
  | dropped => exact .inr (liveBackup_erase.mp hLive).2

theorem keeps_slots
    (hStep : BackupStep A g g') :
    g'.world.plain = g.world.plain ∧
      g'.world.serialized = g.world.serialized := by
  cases hStep <;> simp [World.heard]

theorem trace_suffix
    (hStep : BackupStep A g g') :
    g.world.trace <:+ g'.world.trace := by
  cases hStep <;> simp [World.heard]

end BackupStep

end SqliteAccess
