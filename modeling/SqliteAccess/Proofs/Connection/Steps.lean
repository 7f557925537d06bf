import SqliteAccess.Proofs.Session.Asking

/-
  The steps that change connections.

  Key definitions include:
    * `Event.Releases`
    * `ConnectionStep`

  The steps are characterized by:
    * `ConnectionStep.sound`
-/

namespace SqliteAccess

variable {E : Engine} {g g' : Stage E}

------------------------------------------------------------
-- Steps
------------------------------------------------------------

/- Whether a call releases a database handle for good. -/
def Event.Releases
    (db : DatabaseHandle)
    (e : Event) : Prop :=
  e = ⟨.close db, ResultCode.ok⟩ ∨ e = ⟨.closeLater db, ()⟩

/-
  What can happen to connections: a database is opened, and
  what a failed opening has left is closed again; or it gets
  a connection, which is released and forgotten later.  One
  whose children are released is disowned until then.
-/
inductive ConnectionStep : Stage E → Stage E → Prop
  | opened {g path flags db answer engine}
      (hFree : g.custody.arriving = none)
      (hNumber :
        db.number = g.world.issued.databases + 1)
      (hCreated : OpenAnswer.created answer) :
      ConnectionStep g
        { custody := { g.custody with arriving := some db }
          world :=
            { g.world.heard
                ⟨.openDatabase path flags db, answer⟩ engine
                with issued.databases := db.number } }
  | abandoned {g db code engine}
      (hPending : g.custody.pending = none)
      (hArriving : g.custody.arriving = some db)
      (hLeft : g.world.trace.any (Lifetime.leaves db)) :
      ConnectionStep g
        { custody := { g.custody with arriving := none }
          world := g.world.heard ⟨.close db, code⟩ engine }
  | settled {g c db path options}
      (hArriving : g.custody.arriving = some db)
      (hSuccess :
        g.world.trace.any (Lifetime.leaves db) = false)
      (hHomeless : g.custody.homeless = none)
      (hNumber :
        c.number = g.world.issued.connections + 1) :
      ConnectionStep g
        { custody :=
            { g.custody with
              arriving := none
              homeless := some c }
          world :=
            Connection.register c db path options g.world }
  | released {g c conn db e engine}
      (hPending : g.custody.pending = none)
      (hConnection : g.world.connections.get? c = some conn)
      (hHandle : conn.handle = some db)
      (hChildless : g.world.Childless c)
      (hReleases : e.Releases db)
      (hExpendable : g.custody.expendable c) :
      ConnectionStep g
        { g with
          world :=
            (g.world.heard e engine).modifyConnection c
              Connection.withoutHandle }
  | forgotten {g c}
      (hHomeless : g.custody.homeless = some c)
      (hClosed : (g.world.connection c).handle = none)
      (hExpendable : g.custody.expendable c) :
      ConnectionStep g
        { custody := { g.custody with homeless := none }
          world := Connection.forget c g.world }
  | disowned {g c}
      (hFree : g.custody.closing = none) :
      ConnectionStep g
        { custody := { g.custody with closing := some c }
          world :=
            g.world.modifyConnection c Connection.childless }
  | freed {g c}
      (hClosing : g.custody.closing = some c)
      (hChildless : g.world.Childless c) :
      ConnectionStep g
        { g with
          custody := { g.custody with closing := none } }


------------------------------------------------------------
-- Soundness
------------------------------------------------------------

namespace Sound

variable {c : ConnectionId} {conn : Connection}
variable {db : DatabaseHandle}

theorem created
    {path : Bytes}
    {flags : Int32}
    {answer : OpenAnswer}
    (hSound : Sound g)
    (hFree : g.custody.arriving = none)
    (hNumber : db.number = g.world.issued.databases + 1)
    (hCreated : answer.created)
    (engine : E.State) :
    Sound
      { custody := { g.custody with arriving := some db }
        world :=
          { g.world.heard
              ⟨.openDatabase path flags db, answer⟩ engine
              with issued.databases := db.number } } := by
  have hNew := hSound.opened.births_eq_zero hNumber
  have hOpened := hSound.opened
  rw [hFree] at hOpened
  exact
    { hSound with
      lawful := ⟨Event.Lawful.of_open hNew, hSound.lawful⟩
      linked := hSound.linked_heard rfl
      opened := hOpened.created hNumber hCreated
      copying := hSound.copying.heard (fun _ => ⟨rfl, rfl⟩)
        fun _ => rfl }

theorem abandoned
    (hSound : Sound g)
    (hPending : g.custody.pending = none)
    (hArriving : g.custody.arriving = some db)
    (hLeft : g.world.trace.any (Lifetime.leaves db))
    (code : ResultCode)
    (engine : E.State) :
    Sound
      { custody := { g.custody with arriving := none }
        world := g.world.heard ⟨.close db, code⟩ engine } := by
  have hAlive := hSound.opened.fresh hArriving
  have hClear : Trace.Clear g.custody.hosted g.world.trace db := by
    apply hSound.clear hPending
    intro c conn hConnection hHandle
    exact absurd hArriving
      (hSound.opened.kept hConnection hHandle)
  have hOpened := hSound.opened
  rw [hArriving] at hOpened
  exact
    { hSound with
      lawful :=
        ⟨Event.Lawful.of_close (.inl rfl) hAlive hClear
          (by simp), hSound.lawful⟩
      linked := hSound.linked_heard rfl
      opened := hOpened.abandoned hLeft code
      copying := hSound.copying.heard (fun _ => ⟨rfl, rfl⟩)
        fun _ => rfl }

/- Nothing is live on a connection that is not open. -/
theorem childless_of_closed
    (hSound : Sound g)
    (hClosed : (g.world.connection c).handle = none) :
    g.world.Childless c where
  statements p := by
    rintro ⟨s, hStatement, hLive⟩
    rcases Option.ne_none_iff_exists'.mp hLive.1 with
      ⟨st, hHandle⟩
    rcases
        hSound.owned.opened hStatement hLive.2 hHandle with
      ⟨conn, hConnection, hOpen⟩
    rw [World.connection_of_get? hConnection, hOpen]
      at hClosed
    cases hClosed
  backups p := by
    rintro ⟨b, hBackup, hLive⟩
    rcases Option.ne_none_iff_exists'.mp hLive.1 with
      ⟨bk, hHandle⟩
    rcases hSound.copying.between hBackup hHandle with
      ⟨_, _, _, _, hFrom, hTo, _, hSource, hDestination, _,
       _, hSourceDb, hDb, _⟩
    rcases hLive.2 with hIs | hIs
    · cases hFrom.symm.trans hIs
      rw [World.connection_of_get? hSource, hSourceDb]
        at hClosed
      cases hClosed
    · cases hTo.symm.trans hIs
      rw [World.connection_of_get? hDestination, hDb]
        at hClosed
      cases hClosed

/-
  Connections may change on which nothing is live, as far as
  the statements and the backups are concerned.
-/
theorem owned_copying_of_stays
    (hSound : Sound g)
    (connections' : Table ConnectionId Connection)
    (hChildless : g.world.Childless c)
    (hStays : ∀ {c' conn}, c' ≠ c →
      g.world.connections.get? c' = some conn →
        ∃ conn', connections'.get? c' = some conn' ∧
          conn'.handle = conn.handle) :
    Owned g.world.statements connections' ∧
      Copying g.world.backups connections' g.world.trace
        g.world.issued.backups := by
  constructor
  · apply hSound.owned.of_connections
    intro p s c' conn' hStatement hOwner hIs
    apply hStays _ hIs
    intro hSame
    subst hSame
    refine hChildless.statements p
      ⟨s, hStatement, ?_, hOwner⟩
    rw [ne_eq, ← hSound.owned.none_iff hStatement, hOwner]
    simp
  · apply hSound.copying.of_connections
    intro p c' conn' hLive hIs
    apply hStays _ hIs
    intro hSame
    subst hSame
    exact hChildless.backups p hLive

theorem settled
    {path : Bytes}
    {options : ConnectionOptions}
    (hSound : Sound g)
    (hArriving : g.custody.arriving = some db)
    (hSuccess :
      g.world.trace.any (Lifetime.leaves db) = false)
    (hHomeless : g.custody.homeless = none)
    (hNumber : c.number = g.world.issued.connections + 1) :
    Sound
      { custody :=
          { g.custody with
            arriving := none
            homeless := some c }
        world :=
          Connection.register c db path options g.world } := by
  have hNew : ∀ conn,
      g.world.connections.get? c ≠ some conn := by
    intro conn hConnection
    have hOld := hSound.opened.identified hConnection
    omega
  have hAbsent : g.world.connections.get? c = none :=
    Option.eq_none_iff_forall_ne_some.mpr hNew
  have hChildless := hSound.childless_of_closed (c := c)
    (by simp [World.connection, hAbsent, Connection.vacant])
  rcases
      hSound.owned_copying_of_stays
        (g.world.connections.put c
          { handle := some db
            path
            options
            statements := []
            backups := [] })
        hChildless
        (by
          intro c' conn hOther hIs
          exact ⟨conn, by simp [hOther, hIs], rfl⟩) with
    ⟨hOwned, hCopying⟩
  have hOpened := hSound.opened
  rw [hArriving] at hOpened
  have hHoused := hSound.housed
  rw [hHomeless] at hHoused
  exact
    { hSound with
      owned := hOwned
      opened := hOpened.settled hSuccess hNumber rfl
      copying := hCopying
      registered :=
        { statements := hSound.registered.statements.put rfl
            fun p => hChildless.statements p
          backups := hSound.registered.backups.put rfl
            fun p => hChildless.backups p }
      housed := hHoused.put }

theorem released
    {e : Event}
    (hSound : Sound g)
    (hPending : g.custody.pending = none)
    (hConnection : g.world.connections.get? c = some conn)
    (hHandle : conn.handle = some db)
    (hChildless : g.world.Childless c)
    (hReleases : e.Releases db)
    (engine : E.State) :
    Sound
      { g with
        world :=
          (g.world.heard e engine).modifyConnection c
            Connection.withoutHandle } := by
  rcases hSound.opened.alive hConnection hHandle with
    ⟨hAlive, hNotLeft⟩
  have hClear := hSound.clear_of_childless hPending
    hConnection hHandle hChildless
  have hLawful :
      e.Lawful g.custody.hosted g.world.trace := by
    apply Event.Lawful.of_close _ hAlive hClear
      fun _ => hNotLeft
    rcases hReleases with rfl | rfl
    · exact .inl rfl
    · exact .inr rfl
  rcases
      hSound.owned_copying_of_stays
        (g.world.connections.modify c
          Connection.withoutHandle)
        hChildless
        (by
          intro c' conn' hOther hIs
          exact ⟨conn', by simp [hOther, hIs], rfl⟩) with
    ⟨hOwned, hCopying⟩
  have hSilent : e.call.statement? = none := by
    rcases hReleases with rfl | rfl <;> rfl
  have hNoBackup : e.call.backup? = none := by
    rcases hReleases with rfl | rfl <;> rfl
  rw [World.modifyConnection_eq]
  exact
    { hSound with
      lawful := ⟨hLawful, hSound.lawful⟩
      linked := hSound.linked_heard hSilent
      owned := hOwned
      opened := hSound.opened.released hConnection hHandle
        hReleases
      copying := hCopying.heard
        (fun _ => Lifetime.spared_of_ne_backup _
          (by simp [hNoBackup]))
        (fun _ => Event.copies_of_ne (by simp [hNoBackup]))
      registered :=
        { statements :=
            hSound.registered.statements.modify c
              fun _ => rfl
          backups :=
            hSound.registered.backups.modify c fun _ => rfl }
      housed := hSound.housed.modify c _ }

theorem forgotten
    (hSound : Sound g)
    (hHomeless : g.custody.homeless = some c)
    (hClosed : (g.world.connection c).handle = none) :
    Sound
      { custody := { g.custody with homeless := none }
        world := Connection.forget c g.world } := by
  have hChildless := hSound.childless_of_closed hClosed
  rcases
      hSound.owned_copying_of_stays
        (g.world.connections.erase c)
        hChildless
        (by
          intro c' conn hOther hIs
          exact ⟨conn, by simp [hOther, hIs], rfl⟩) with
    ⟨hOwned, hCopying⟩
  have hHoused := hSound.housed
  rw [hHomeless] at hHoused
  have hNone : ∀ conn,
      g.world.connections.get? c = some conn →
        conn.handle = none := by
    intro conn hConnection
    rw [World.connection_of_get? hConnection] at hClosed
    exact hClosed
  exact
    { hSound with
      owned := hOwned
      opened := hSound.opened.forgotten hNone
      copying := hCopying
      registered :=
        { statements := hSound.registered.statements.erase
          backups := hSound.registered.backups.erase }
      housed := hHoused.erase }

theorem disowned
    (hSound : Sound g)
    (hFree : g.custody.closing = none) :
    Sound
      { custody := { g.custody with closing := some c }
        world :=
          g.world.modifyConnection c
            Connection.childless } := by
  have hSame := SameHandles.modify
    (f := Connection.childless) g.world.connections c
    fun _ => rfl
  have hRegistered := hSound.registered
  rw [hFree] at hRegistered
  rw [World.modifyConnection_eq]
  exact
    { hSound with
      owned := hSound.owned.of_connections
        fun _ _ hIs => hSame.get?_eq_some hIs
      opened := hSound.opened.of_sameHandles hSame
      copying := hSound.copying.of_sameHandles hSame
      registered :=
        { statements :=
            hRegistered.statements.disowned fun _ => rfl
          backups :=
            hRegistered.backups.disowned fun _ => rfl }
      housed := hSound.housed.of_sameHandles hSame }

theorem freed
    (hSound : Sound g)
    (hClosing : g.custody.closing = some c)
    (hChildless : g.world.Childless c) :
    Sound
      { g with
        custody := { g.custody with closing := none } } := by
  have hRegistered := hSound.registered
  rw [hClosing] at hRegistered
  exact
    { hSound with
      registered :=
        { statements :=
            hRegistered.statements.freed
              hChildless.statements
          backups :=
            hRegistered.backups.freed hChildless.backups } }

end Sound

/- Steps on connections keep a stage sound. -/
theorem ConnectionStep.sound
    (hSound : Sound g)
    (hStep : ConnectionStep g g') :
    Sound g' := by
  cases hStep with
  | opened hFree hNumber hCreated =>
      exact hSound.created hFree hNumber hCreated _
  | abandoned hPending hArriving hLeft =>
      exact hSound.abandoned hPending hArriving hLeft _ _
  | settled hArriving hSuccess hHomeless hNumber =>
      exact hSound.settled hArriving hSuccess hHomeless
        hNumber
  | released hPending hConnection hHandle hChildless
      hReleases =>
      exact hSound.released hPending hConnection hHandle
        hChildless hReleases _
  | forgotten hHomeless hClosed =>
      exact hSound.forgotten hHomeless hClosed
  | disowned hFree => exact hSound.disowned hFree
  | freed hClosing hChildless =>
      exact hSound.freed hClosing hChildless

------------------------------------------------------------
-- What the Steps Keep
------------------------------------------------------------

namespace ConnectionStep

theorem keeps_statements
    (hStep : ConnectionStep g g') :
    g'.world.statements = g.world.statements := by
  cases hStep <;>
    simp [World.heard, Connection.register,
      Connection.forget]

theorem keeps_issued
    (hStep : ConnectionStep g g') :
    g'.world.issued.anchors = g.world.issued.anchors := by
  cases hStep <;>
    simp [World.heard, Connection.register,
      Connection.forget]

theorem keeps_backups
    (hStep : ConnectionStep g g') :
    g'.world.backups = g.world.backups := by
  cases hStep <;>
    simp [World.heard, Connection.register,
      Connection.forget]

theorem keeps_slots
    (hStep : ConnectionStep g g') :
    g'.world.plain = g.world.plain ∧
      g'.world.serialized = g.world.serialized := by
  cases hStep <;>
    simp [World.heard, Connection.register,
      Connection.forget]

theorem trace_suffix
    (hStep : ConnectionStep g g') :
    g.world.trace <:+ g'.world.trace := by
  cases hStep <;>
    simp [World.heard, Connection.register,
      Connection.forget]

theorem keeps_expendable
    (hStep : ConnectionStep g g') :
    g'.custody.expendable = g.custody.expendable := by
  cases hStep <;> rfl

theorem keeps_enlists
    (hStep : ConnectionStep g g') :
    g'.custody.enlists = g.custody.enlists := by
  cases hStep <;> rfl

theorem keeps_drives
    (hStep : ConnectionStep g g') :
    g'.custody.drives = g.custody.drives := by
  cases hStep <;> rfl

/- Connections are numbered on and on. -/
theorem connections_issued_le
    (hStep : ConnectionStep g g') :
    g.world.issued.connections ≤
      g'.world.issued.connections := by
  cases hStep with
  | @settled c _ _ _ _ _ _ hNumber =>
      have hMore :
          g.world.issued.connections < c.number := by omega
      exact Nat.le_of_lt hMore
  | released | disowned =>
      simp [World.modifyConnection_eq, World.heard]
  | _ => exact Nat.le_refl _

/-
  An old connection is still there, or still gone, with the
  handle it had, unless it is expendable.
-/
theorem keeps_handle
    {c : ConnectionId}
    (hOld : c.number ≤ g.world.issued.connections)
    (hNeeded : ¬ g.custody.expendable c)
    (hStep : ConnectionStep g g') :
    (g'.world.connections.get? c).map (·.handle) =
      (g.world.connections.get? c).map (·.handle) := by
  cases hStep with
  | @settled c' _ _ _ _ _ _ hNumber =>
      have hOther : c ≠ c' := by
        rintro rfl
        omega
      simp [Connection.register, hOther]
  | @released c' _ _ _ _ _ _ _ _ _ hExpendable =>
      have hOther : c ≠ c' := by
        rintro rfl
        exact hNeeded hExpendable
      simp [World.heard, hOther]
  | @forgotten c' _ _ hExpendable =>
      have hOther : c ≠ c' := by
        rintro rfl
        exact hNeeded hExpendable
      simp [Connection.forget, hOther]
  | disowned =>
      rw [World.modifyConnection_eq]
      exact SameHandles.modify (f := Connection.childless)
        _ _ (fun _ => rfl) c
  | _ => rfl

/- A connection that is gone does not come back. -/
theorem keeps_gone
    {c : ConnectionId}
    (hOld : c.number ≤ g.world.issued.connections)
    (hGone : g.world.connections.get? c = none)
    (hStep : ConnectionStep g g') :
    g'.world.connections.get? c = none := by
  cases hStep with
  | @settled c' _ _ _ _ _ _ hNumber =>
      have hOther : c ≠ c' := by
        rintro rfl
        omega
      simp [Connection.register, hOther, hGone]
  | released | disowned =>
      simp only [World.modifyConnection_eq, World.heard,
        Table.get?_modify]
      split
      case isTrue hSame => rw [← hSame, hGone, Option.map_none]
      case isFalse => exact hGone
  | forgotten => simp [Connection.forget, hGone]
  | _ => exact hGone

end ConnectionStep

end SqliteAccess
