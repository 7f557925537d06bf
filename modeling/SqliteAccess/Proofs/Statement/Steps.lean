import SqliteAccess.Proofs.Session.Asking
import SqliteAccess.Proofs.Statement.Registered

/-
  The steps that change statements.

  Key definitions include:
    * `StatementStep`

  The steps are characterized by:
    * `StatementStep.sound`
    * `StatementStep.keeps_statement`
-/

namespace SqliteAccess

variable {E : Engine} {A B : Part → Prop} {g g' : Stage E}

------------------------------------------------------------
-- Steps
------------------------------------------------------------

/-
  What can happen to statements: they are compiled, kept,
  stepped, reset, finalized, moved and removed.  A statement
  that is under way can also be given to the host, and one of
  the host be finalized.
-/
inductive StatementStep (A : Part → Prop) :
    Stage E → Stage E → Prop
  | compiled {g sql st answer engine}
      (hFree : g.custody.pending = none)
      (hOpen : g.world.Opens st.database)
      (hNumber :
        st.number = g.world.issued.statements + 1)
      (hCreated : PrepareAnswer.created answer) :
      StatementStep A g
        { custody := { g.custody with pending := some st }
          world :=
            { g.world.heard ⟨.prepare sql st, answer⟩ engine
                with issued.statements := st.number } }
  | discarded {g st code engine}
      (hPending : g.custody.pending = some st) :
      StatementStep A g
        { custody := { g.custody with pending := none }
          world :=
            g.world.heard ⟨.finalize st, code⟩ engine }
  | handedOver {g st}
      (hPending : g.custody.pending = some st) :
      StatementStep A g
        { g with
          custody :=
            { g.custody with
              pending := none
              hosted := st :: g.custody.hosted } }
  | entered {g c p s conn st}
      (hPart : A (.statement p))
      (hPending : g.custody.pending = some st)
      (hVacant : g.world.statements.get? p = none)
      (hConnection : g.world.connections.get? c = some conn)
      (hOpen : conn.handle = some st.database)
      (hClosing : g.custody.closing = none)
      (hHandle : s.handle = some st)
      (hOwner : s.connection = some c)
      (hAnchor :
        s.anchor = some ⟨g.world.issued.anchors + 1⟩)
      (hState : s.state = .ready)
      (hGeneration : s.generation = 0)
      (hParameters :
        g.world.trace.parameters st = some s.parameterCount)
      (hColumns :
        g.world.trace.columns st =
          some s.columnNames.length)
      (hUnfailed : s.stepFailed = false)
      (hEnlists : p = .scratch ∨ g.custody.enlists c) :
      StatementStep A g
        { custody :=
            { g.custody with
              pending := none
              scratch :=
                p = .scratch || g.custody.scratch }
          world := Statement.register c p s g.world }
  | advanced {g p s st code engine}
      (hPart : A (.statement p))
      (hStatement : g.world.statements.get? p = some s)
      (hHandle : s.handle = some st)
      (hState : s.state ≠ .done) :
      StatementStep A g
        { g with
          world :=
            (g.world.heard ⟨.step st, code⟩ engine)
              |>.modifyStatement p (·.stepped code) }
  | rewound {g p s st code engine}
      (hPart : A (.statement p))
      (hStatement : g.world.statements.get? p = some s)
      (hHandle : s.handle = some st) :
      StatementStep A g
        { g with
          world :=
            (g.world.heard ⟨.reset st, code⟩ engine)
              |>.modifyStatement p Statement.rewound }
  | finalized {g p s st code engine}
      (hPart : A (.statement p))
      (hStatement : g.world.statements.get? p = some s)
      (hHandle : s.handle = some st) :
      StatementStep A g
        { g with
          world :=
            ((g.world.modifyLinked s.connection
                (·.removeStatement p))
              |>.modifyStatement p Statement.ended)
              |>.heard ⟨.finalize st, code⟩ engine }
  | detached {g c p s st code engine}
      (hPart : A (.statement p))
      (hClosing : g.custody.closing = some c)
      (hStatement : g.world.statements.get? p = some s)
      (hLive : s.IsLiveOn c)
      (hHandle : s.handle = some st) :
      StatementStep A g
        { g with
          world :=
            ((g.world.modifyStatement p
                fun s => { s with connection := none })
              |>.modifyStatement p Statement.ended)
              |>.heard ⟨.finalize st, code⟩ engine }
  | confirmed {g p}
      (hPart : A (.statement p))
      (hEnded : (g.world.statement p).handle = none) :
      StatementStep A g
        { g with
          world :=
            g.world.modifyStatement p
              fun s => { s with state := .finalized } }
  | removed {g p}
      (hPart : A (.statement p))
      (hEnded : (g.world.statement p).handle = none) :
      StatementStep A g
        { custody :=
            { g.custody with
              scratch :=
                p ≠ .scratch && g.custody.scratch }
          world :=
            { g.world.dropAnchor (g.world.statement p).anchor
                with
              statements := g.world.statements.erase p } }
  | transferred {g source target s}
      (hSource : A (.statement source))
      (hTarget : A (.statement target))
      (hStatement : g.world.statements.get? source = some s)
      (hOther : source ≠ target)
      (hSlot : target ≠ .scratch)
      (hEnded : (g.world.statement target).handle = none)
      (hEnlists : source = .scratch → ∀ c,
        s.connection = some c → g.custody.enlists c) :
      StatementStep A g
        { g with
          world := Statement.transfer source target g.world }
  | evicted {g st code engine}
      (hHosted : st ∈ g.custody.hosted)
      (hAlive : (Lifetime.statement st).alive g.world.trace) :
      StatementStep A g (g.heard ⟨.finalize st, code⟩ engine)

------------------------------------------------------------
-- Calls on Statements
------------------------------------------------------------

/- A step comes in order on a statement that is not done. -/
theorem Sound.lawful_step
    {p : Place}
    {s : Statement}
    {st : StatementHandle}
    (hSound : Sound g)
    (hStatement : g.world.statements.get? p = some s)
    (hHandle : s.handle = some st)
    (hState : s.state ≠ .done)
    (code : ResultCode) :
    Event.Lawful g.custody.hosted g.world.trace
      ⟨.step st, code⟩ := by
  have hAlive := hSound.linked.alive hStatement hHandle
  have hFollows := hSound.linked.follows hStatement hHandle
  apply Event.Lawful.of_named rfl rfl rfl
  · simpa [Call.statement?] using hAlive
  · simp [Call.backup?]
  · simp [Call.databases]
  · simp [Call.closes?]
  · have hNot := hFollows.notFinalized
    simp only [Event.Conforms, hFollows.state]
    cases hIs : s.state <;> simp_all

/- A reset comes in order on a statement that is alive. -/
theorem Event.Lawful.of_reset
    {hosted : List StatementHandle}
    {t : Trace}
    {st : StatementHandle}
    (hAlive : (Lifetime.statement st).alive t)
    (code : ResultCode) :
    Event.Lawful hosted t ⟨.reset st, code⟩ := by
  apply of_named rfl rfl rfl
  · simpa [Call.statement?] using hAlive
  · simp [Call.backup?]
  · simp [Call.databases]
  · simp [Call.closes?]
  · simp [Event.Conforms, Call.column?]

/- A statement that is alive can be finalized. -/
theorem Event.Lawful.of_finalize
    {hosted : List StatementHandle}
    {t : Trace}
    {st : StatementHandle}
    (hAlive : (Lifetime.statement st).alive t)
    (code : ResultCode) :
    Event.Lawful hosted t ⟨.finalize st, code⟩ := by
  apply of_named rfl rfl rfl
  · simpa [Call.statement?] using hAlive
  · simp [Call.backup?]
  · simp [Call.databases]
  · simp [Call.closes?]
  · simp [Event.Conforms, Call.column?]

------------------------------------------------------------
-- Statements Under Way
------------------------------------------------------------

namespace Sound

variable {p : Place} {s : Statement} {st : StatementHandle}

theorem compiled
    {sql : Bytes}
    {answer : PrepareAnswer}
    (hSound : Sound g)
    (hFree : g.custody.pending = none)
    (hOpen : g.world.Opens st.database)
    (hNumber : st.number = g.world.issued.statements + 1)
    (hCreated : answer.created)
    (engine : E.State) :
    Sound
      { custody := { g.custody with pending := some st }
        world :=
          { g.world.heard ⟨.prepare sql st, answer⟩ engine
              with issued.statements := st.number } } := by
  have hLinked := hSound.linked
  rw [hFree] at hLinked
  have hNew := hLinked.births_eq_zero hNumber
  have hAlive := hSound.alive_of_opens hOpen
  have hRespected := hSound.lawful.statements st
  exact
    { hSound with
      lawful :=
        ⟨Event.Lawful.of_prepare hNew hAlive, hSound.lawful⟩
      linked := hLinked.compiled hRespected hNumber hCreated
      opened := hSound.opened.heard (fun _ => ⟨rfl, rfl⟩)
        fun _ => rfl
      copying := hSound.copying.heard (fun _ => ⟨rfl, rfl⟩)
        fun _ => rfl }

theorem discarded
    (hSound : Sound g)
    (hPending : g.custody.pending = some st)
    (code : ResultCode)
    (engine : E.State) :
    Sound
      { custody := { g.custody with pending := none }
        world :=
          g.world.heard ⟨.finalize st, code⟩ engine } := by
  have hLinked := hSound.linked
  rw [hPending] at hLinked
  have hAlive := (hLinked.fresh rfl).1
  exact
    { hSound with
      lawful :=
        ⟨Event.Lawful.of_finalize hAlive code,
          hSound.lawful⟩
      linked := hLinked.discarded code
      opened := hSound.opened.heard (fun _ => ⟨rfl, rfl⟩)
        fun _ => rfl
      copying := hSound.copying.heard (fun _ => ⟨rfl, rfl⟩)
        fun _ => rfl }

theorem handedOver
    (hSound : Sound g)
    (hPending : g.custody.pending = some st) :
    Sound
      { g with
        custody :=
          { g.custody with
            pending := none
            hosted := st :: g.custody.hosted } } := by
  have hLinked := hSound.linked
  rw [hPending] at hLinked
  exact
    { hSound with
      lawful := hSound.lawful.mono (List.subset_cons_self _ _)
      linked := hLinked.handedOver }

theorem evicted
    (hSound : Sound g)
    (hHosted : st ∈ g.custody.hosted)
    (hAlive : (Lifetime.statement st).alive g.world.trace)
    (code : ResultCode)
    (engine : E.State) :
    Sound (g.heard ⟨.finalize st, code⟩ engine) :=
  { hSound with
    lawful :=
      ⟨Event.Lawful.of_finalize hAlive code, hSound.lawful⟩
    linked := hSound.linked.evicted hHosted code
    opened := hSound.opened.heard (fun _ => ⟨rfl, rfl⟩)
      fun _ => rfl
    copying := hSound.copying.heard (fun _ => ⟨rfl, rfl⟩)
      fun _ => rfl }

------------------------------------------------------------
-- Statements That Are Kept
------------------------------------------------------------

theorem entered
    {c : ConnectionId}
    {conn : Connection}
    (hSound : Sound g)
    (hPending : g.custody.pending = some st)
    (hVacant : g.world.statements.get? p = none)
    (hConnection : g.world.connections.get? c = some conn)
    (hOpen : conn.handle = some st.database)
    (hClosing : g.custody.closing = none)
    (hHandle : s.handle = some st)
    (hOwner : s.connection = some c)
    (hAnchor : s.anchor = some ⟨g.world.issued.anchors + 1⟩)
    (hState : s.state = .ready)
    (hGeneration : s.generation = 0)
    (hParameters :
      g.world.trace.parameters st = some s.parameterCount)
    (hColumns :
      g.world.trace.columns st =
        some s.columnNames.length)
    (hUnfailed : s.stepFailed = false) :
    Sound
      { custody :=
          { g.custody with
            pending := none
            scratch := p = .scratch || g.custody.scratch }
        world := Statement.register c p s g.world } := by
  have hLinked := hSound.linked
  rw [hPending] at hLinked
  have hRegistered := hSound.registered
  rw [hClosing] at hRegistered
  have hSame := SameHandles.modify
    (f := (·.addStatement p)) g.world.connections c
    fun _ => rfl
  have hOwned : Owned (g.world.statements.put p s)
      g.world.connections := by
    apply hSound.owned.put
    · simp [hHandle, hOwner]
    · intro c' st' hOwner' hHandle'
      cases hOwner.symm.trans hOwner'
      cases hHandle.symm.trans hHandle'
      exact ⟨conn, hConnection, hOpen⟩
  rw [Statement.register_eq]
  exact
    { hSound with
      linked := hLinked.entered hVacant hHandle hState
        hGeneration hParameters hColumns hUnfailed
      owned := hOwned.of_connections
        fun _ _ hIs => hSame.get?_eq_some hIs
      anchored := hSound.anchored.entered hVacant hAnchor
      opened := hSound.opened.of_sameHandles hSame
      copying := hSound.copying.of_sameHandles hSame
      registered := by
        simpa [hClosing] using hRegistered.entered hVacant
          (by simp [hHandle]) hOwner
      housed := hSound.housed.of_sameHandles hSame
      scratch := by
        simp [hSound.scratch, eq_comm] }

/- A statement is stepped or reset, as its handle is. -/
theorem driven
    {e : Event}
    {f : Statement → Statement}
    (hSound : Sound g)
    (hStatement : g.world.statements.get? p = some s)
    (hHandle : s.handle = some st)
    (hLawful :
      e.Lawful g.custody.hosted g.world.trace)
    (hNames : e.call.statement? = some st)
    (hSpared :
      (Lifetime.statement st).Spared g.world.trace e)
    (hDatabases : e.call.databases = [])
    (hBackup : e.call.backup? = none)
    (hHandle' : (f s).handle = s.handle)
    (hOwner' : (f s).connection = s.connection)
    (hAnchor' : (f s).anchor = s.anchor)
    (hFollows : (f s).Follows (e :: g.world.trace) st)
    (engine : E.State) :
    Sound
      { g with
        world :=
          (g.world.heard e engine).modifyStatement p f } := by
  simp only [World.modifyStatement_eq, World.heard]
  rw [Table.modify_eq_put f hStatement]
  exact
    { hSound with
      lawful := ⟨hLawful, hSound.lawful⟩
      linked := hSound.linked.driven hStatement hHandle
        hNames hSpared (hHandle'.trans hHandle) hFollows
      owned := hSound.owned.put_like hStatement hOwner'
        hHandle'
      anchored := hSound.anchored.changed hStatement hAnchor'
        (by simp [hHandle'])
      opened := hSound.opened.heard
        (fun _ => Lifetime.spared_of_not_mem _
          (by simp [hDatabases]))
        (fun _ => Lifetime.leaves_eq_false
          (by simp [hDatabases]))
      copying := hSound.copying.heard
        (fun _ => Lifetime.spared_of_ne_backup _
          (by simp [hBackup]))
        (fun _ => Event.copies_of_ne (by simp [hBackup]))
      registered := hSound.registered.changed hStatement
        hHandle' hOwner'
      scratch := by
        rw [Table.contains_put_of_get? _ hStatement]
        exact hSound.scratch }

theorem advanced
    (hSound : Sound g)
    (hStatement : g.world.statements.get? p = some s)
    (hHandle : s.handle = some st)
    (hState : s.state ≠ .done)
    (code : ResultCode)
    (engine : E.State) :
    Sound
      { g with
        world :=
          (g.world.heard ⟨.step st, code⟩ engine)
            |>.modifyStatement p (·.stepped code) } := by
  have hFollows := hSound.linked.follows hStatement hHandle
  have hStepped := Statement.stepped_eq s code
  exact hSound.driven (f := (·.stepped code)) hStatement
    hHandle (hSound.lawful_step hStatement hHandle hState code)
    rfl ⟨rfl, rfl⟩ rfl rfl (by simp [hStepped])
    (by simp [hStepped]) (by simp [hStepped])
    (hFollows.stepped hState code) engine

theorem rewound
    (hSound : Sound g)
    (hStatement : g.world.statements.get? p = some s)
    (hHandle : s.handle = some st)
    (code : ResultCode)
    (engine : E.State) :
    Sound
      { g with
        world :=
          (g.world.heard ⟨.reset st, code⟩ engine)
            |>.modifyStatement p Statement.rewound } := by
  have hAlive := hSound.linked.alive hStatement hHandle
  have hFollows := hSound.linked.follows hStatement hHandle
  exact hSound.driven hStatement hHandle
    (Event.Lawful.of_reset hAlive code) rfl ⟨rfl, rfl⟩ rfl
    rfl rfl rfl rfl (hFollows.rewound code) engine

theorem finalized
    (hSound : Sound g)
    (hStatement : g.world.statements.get? p = some s)
    (hHandle : s.handle = some st)
    (code : ResultCode)
    (engine : E.State) :
    Sound
      { g with
        world :=
          ((g.world.modifyLinked s.connection
              (·.removeStatement p))
            |>.modifyStatement p Statement.ended)
            |>.heard ⟨.finalize st, code⟩ engine } := by
  have hAlive := hSound.linked.alive hStatement hHandle
  have hSame := SameHandles.modify?
    (f := (·.removeStatement p)) g.world.connections
    s.connection fun _ => rfl
  have hOwned : Owned (g.world.statements.put p s.ended)
      g.world.connections :=
    hSound.owned.put_untied rfl rfl
  simp only [World.modifyStatement_eq,
    World.modifyLinked_eq, World.heard]
  rw [Table.modify_eq_put _ hStatement]
  exact
    { hSound with
      lawful :=
        ⟨Event.Lawful.of_finalize hAlive code,
          hSound.lawful⟩
      linked := hSound.linked.finalized hStatement hHandle
        code rfl rfl
      owned := hOwned.of_connections
        fun _ _ hIs => hSame.get?_eq_some hIs
      anchored := hSound.anchored.changed hStatement rfl
        (by simp [Statement.ended])
      opened := (hSound.opened.heard (fun _ => ⟨rfl, rfl⟩)
        fun _ => rfl).of_sameHandles hSame
      copying := (hSound.copying.heard (fun _ => ⟨rfl, rfl⟩)
        fun _ => rfl).of_sameHandles hSame
      registered := hSound.registered.finalized hStatement rfl
      housed := hSound.housed.of_sameHandles hSame
      scratch := by
        rw [Table.contains_put_of_get? _ hStatement]
        exact hSound.scratch }

theorem detached
    {c : ConnectionId}
    (hSound : Sound g)
    (hClosing : g.custody.closing = some c)
    (hStatement : g.world.statements.get? p = some s)
    (hLive : s.IsLiveOn c)
    (hHandle : s.handle = some st)
    (code : ResultCode)
    (engine : E.State) :
    Sound
      { g with
        world :=
          ((g.world.modifyStatement p
              fun s => { s with connection := none })
            |>.modifyStatement p Statement.ended)
            |>.heard ⟨.finalize st, code⟩ engine } := by
  have hAlive := hSound.linked.alive hStatement hHandle
  have hRegistered := hSound.registered
  rw [hClosing] at hRegistered
  have hUntied :
      (g.world.statements.put p
          { s with connection := none }).get? p =
        some { s with connection := none } := by
    simp
  simp only [World.modifyStatement_eq, World.heard]
  rw [Table.modify_eq_put _ hStatement,
    Table.modify_eq_put _ hUntied, Table.put_put]
  exact
    { hSound with
      lawful :=
        ⟨Event.Lawful.of_finalize hAlive code,
          hSound.lawful⟩
      linked := hSound.linked.finalized hStatement hHandle
        code rfl rfl
      owned := hSound.owned.put_untied rfl rfl
      anchored := hSound.anchored.changed hStatement rfl
        (by simp [Statement.ended])
      opened := hSound.opened.heard (fun _ => ⟨rfl, rfl⟩)
        fun _ => rfl
      copying := hSound.copying.heard (fun _ => ⟨rfl, rfl⟩)
        fun _ => rfl
      registered := by
        simpa [hClosing] using hRegistered.detached
          hStatement hLive rfl
      scratch := by
        rw [Table.contains_put_of_get? _ hStatement]
        exact hSound.scratch }

/- A place with a statement that has no handle. -/
theorem ended_of_statement
    (hEnded : (g.world.statement p).handle = none) :
    ∀ s, g.world.statements.get? p = some s →
      s.handle = none := by
  intro s hStatement
  rw [World.statement_of_get? hStatement] at hEnded
  exact hEnded

theorem confirmed
    (hSound : Sound g)
    (hEnded : (g.world.statement p).handle = none) :
    Sound
      { g with
        world :=
          g.world.modifyStatement p
            fun s => { s with state := .finalized } } := by
  have hNone := ended_of_statement hEnded
  rw [World.modifyStatement_eq]
  cases hStatement : g.world.statements.get? p with
  | none =>
      rw [Table.modify_eq_self _ hStatement]
      exact hSound
  | some s =>
      have hHandle := hNone s hStatement
      rw [Table.modify_eq_put _ hStatement]
      exact
        { hSound with
          linked := hSound.linked.vacated hNone hHandle rfl
          owned := hSound.owned.put_like hStatement rfl rfl
          anchored := hSound.anchored.changed hStatement rfl
            (by simp)
          registered := hSound.registered.changed hStatement
            rfl rfl
          scratch := by
            rw [Table.contains_put_of_get? _ hStatement]
            exact hSound.scratch }

theorem removed
    (hSound : Sound g)
    (hEnded : (g.world.statement p).handle = none) :
    Sound
      { custody :=
          { g.custody with
            scratch := p ≠ .scratch && g.custody.scratch }
        world :=
          { g.world.dropAnchor (g.world.statement p).anchor
              with
            statements := g.world.statements.erase p } } := by
  have hNone := ended_of_statement hEnded
  rw [World.dropAnchor_eq]
  exact
    { hSound with
      linked := hSound.linked.removed hNone
      owned := hSound.owned.erase
      anchored := hSound.anchored.removed
      registered := hSound.registered.removed hNone
      scratch := by
        simp [hSound.scratch, eq_comm] }

theorem transferred
    {target : Place}
    (hSound : Sound g)
    (hStatement : g.world.statements.get? p = some s)
    (hOther : p ≠ target)
    (hSlot : target ≠ .scratch)
    (hEnded : (g.world.statement target).handle = none) :
    Sound
      { g with
        world := Statement.transfer p target g.world } := by
  have hNone := ended_of_statement hEnded
  have hTied := hSound.owned.none_iff hStatement
  have hSame := SameHandles.modify?
    (f := (·.replaceStatement p target)) g.world.connections
    s.connection (by
      intro conn
      unfold Connection.replaceStatement
      split <;> rfl)
  have hOwned : Owned
      ((g.world.statements.put target s).put p s.emptied)
      g.world.connections :=
    (hSound.owned.put_like hStatement rfl rfl).put_untied
      rfl rfl
  rw [Statement.transfer_eq,
    World.statement_of_get? hStatement]
  exact
    { hSound with
      linked := hSound.linked.transferred hStatement hOther
        hNone
      owned := hOwned.of_connections
        fun _ _ hIs => hSame.get?_eq_some hIs
      anchored := hSound.anchored.transferred hStatement
        hOther
      opened := hSound.opened.of_sameHandles hSame
      copying := hSound.copying.of_sameHandles hSame
      registered := hSound.registered.transferred hStatement
        hTied hOther hNone
      housed := hSound.housed.of_sameHandles hSame
      scratch := by
        have hStill :
            (g.world.statements.put target s).get? p =
              some s := by
          simp [hOther, hStatement]
        rw [Table.contains_put_of_get? _ hStill]
        simpa [hSlot.symm] using hSound.scratch }

end Sound

/- Steps on statements keep a stage sound. -/
theorem StatementStep.sound
    (hSound : Sound g)
    (hStep : StatementStep A g g') :
    Sound g' := by
  cases hStep with
  | compiled hFree hOpen hNumber hCreated =>
      exact hSound.compiled hFree hOpen hNumber hCreated _
  | discarded hPending => exact hSound.discarded hPending _ _
  | handedOver hPending => exact hSound.handedOver hPending
  | entered _ hPending hVacant hConnection hOpen hClosing
      hHandle hOwner hAnchor hState hGeneration hParameters
      hColumns hUnfailed =>
      exact hSound.entered hPending hVacant hConnection hOpen
        hClosing hHandle hOwner hAnchor hState hGeneration
        hParameters hColumns hUnfailed
  | advanced _ hStatement hHandle hState =>
      exact hSound.advanced hStatement hHandle hState _ _
  | rewound _ hStatement hHandle =>
      exact hSound.rewound hStatement hHandle _ _
  | finalized _ hStatement hHandle =>
      exact hSound.finalized hStatement hHandle _ _
  | detached _ hClosing hStatement hLive hHandle =>
      exact hSound.detached hClosing hStatement hLive hHandle
        _ _
  | confirmed _ hEnded => exact hSound.confirmed hEnded
  | removed _ hEnded => exact hSound.removed hEnded
  | transferred _ _ hStatement hOther hSlot hEnded _ =>
      exact hSound.transferred hStatement hOther hSlot hEnded
  | evicted hHosted hAlive =>
      exact hSound.evicted hHosted hAlive _ _

------------------------------------------------------------
-- What the Steps Keep
------------------------------------------------------------

namespace StatementStep

/- Steps that may change more parts. -/
theorem mono
    (hMore : ∀ part, A part → B part)
    (hStep : StatementStep A g g') :
    StatementStep B g g' := by
  cases hStep with
  | compiled hFree hOpen hNumber hCreated =>
      exact .compiled hFree hOpen hNumber hCreated
  | discarded hPending => exact .discarded hPending
  | handedOver hPending => exact .handedOver hPending
  | entered hPart hPending hVacant hConnection hOpen hClosing
      hHandle hOwner hAnchor hState hGeneration hParameters
      hColumns hUnfailed hEnlists =>
      exact .entered (hMore _ hPart) hPending hVacant
        hConnection hOpen hClosing hHandle hOwner hAnchor
        hState hGeneration hParameters hColumns hUnfailed
        hEnlists
  | advanced hPart hStatement hHandle hState =>
      exact .advanced (hMore _ hPart) hStatement hHandle
        hState
  | rewound hPart hStatement hHandle =>
      exact .rewound (hMore _ hPart) hStatement hHandle
  | finalized hPart hStatement hHandle =>
      exact .finalized (hMore _ hPart) hStatement hHandle
  | detached hPart hClosing hStatement hLive hHandle =>
      exact .detached (hMore _ hPart) hClosing hStatement
        hLive hHandle
  | confirmed hPart hEnded =>
      exact .confirmed (hMore _ hPart) hEnded
  | removed hPart hEnded =>
      exact .removed (hMore _ hPart) hEnded
  | transferred hSource hTarget hStatement hOther hSlot
      hEnded hEnlists =>
      exact .transferred (hMore _ hSource) (hMore _ hTarget)
        hStatement hOther hSlot hEnded hEnlists
  | evicted hHosted hAlive => exact .evicted hHosted hAlive

/- A step that is kept from a statement leaves it as it is. -/
theorem keeps_statement
    {p : Place}
    (hPart : ¬ A (.statement p))
    (hStep : StatementStep A g g') :
    g'.world.statements.get? p =
      g.world.statements.get? p := by
  have hOther : ∀ {q}, A (.statement q) → p ≠ q := by
    intro q hAllowed hSame
    exact hPart (hSame ▸ hAllowed)
  cases hStep <;> simp_all [Stage.heard, World.heard]

theorem keeps_backups
    (hStep : StatementStep A g g') :
    g'.world.backups = g.world.backups := by
  cases hStep <;> simp [Stage.heard, World.heard]

theorem issued_le
    (hStep : StatementStep A g g') :
    g.world.issued.anchors ≤ g'.world.issued.anchors := by
  cases hStep <;> simp [Stage.heard, World.heard]

theorem keeps_connections
    (hStep : StatementStep A g g') :
    SameHandles g.world.connections g'.world.connections ∧
      g'.world.issued.connections =
        g.world.issued.connections := by
  cases hStep with
  | entered =>
      rw [Statement.register_eq]
      exact ⟨.modify _ _ fun _ => rfl, rfl⟩
  | advanced | rewound | detached | confirmed | removed =>
      simp [World.heard, SameHandles.refl]
  | finalized =>
      rw [World.modifyLinked_eq, World.modifyStatement_eq]
      exact ⟨.modify? _ _ fun _ => rfl, rfl⟩
  | transferred =>
      rw [Statement.transfer_eq]
      refine ⟨.modify? _ _ fun conn => ?_, rfl⟩
      unfold Connection.replaceStatement
      split <;> rfl
  | _ => exact ⟨.refl _, rfl⟩

theorem keeps_expendable
    (hStep : StatementStep A g g') :
    g'.custody.expendable = g.custody.expendable := by
  cases hStep <;> rfl

theorem keeps_enlists
    (hStep : StatementStep A g g') :
    g'.custody.enlists = g.custody.enlists := by
  cases hStep <;> rfl

theorem keeps_drives
    (hStep : StatementStep A g g') :
    g'.custody.drives = g.custody.drives := by
  cases hStep <;> rfl

/-
  A statement that is live in a slot was live on the same
  connection before, there or in a slot it was taken from, or
  else is on a connection that may get one.
-/
theorem live_before
    {p : Place}
    {c : ConnectionId}
    (hSlot : p ≠ .scratch)
    (hLive : LiveStatement g'.world.statements p c)
    (hStep : StatementStep A g g') :
    g.custody.enlists c ∨
      ∃ q, q ≠ .scratch ∧
        LiveStatement g.world.statements q c ∧
        (q = p ∨ A (.statement q) ∧ A (.statement p)) := by
  have hHere : LiveStatement g.world.statements p c →
      g.custody.enlists c ∨
        ∃ q, q ≠ .scratch ∧
          LiveStatement g.world.statements q c ∧
          (q = p ∨ A (.statement q) ∧ A (.statement p)) :=
    fun hBefore => .inr ⟨p, hSlot, hBefore, .inl rfl⟩
  have hModified : ∀ {q : Place} {f : Statement → Statement},
      (∀ s, (f s).IsLiveOn c → s.IsLiveOn c) →
        LiveStatement (g.world.statements.modify q f) p c →
          LiveStatement g.world.statements p c :=
    fun hKeeps => liveStatement_of_modify hKeeps
  have hEnds : ∀ s : Statement, ¬ s.ended.IsLiveOn c :=
    fun s hOn => hOn.1 rfl
  cases hStep with
  | @entered c' q s _ _ _ _ _ _ _ _ _ hOwner _ _ _ _ _ _
      hEnlists =>
      rw [Statement.register_eq] at hLive
      rcases liveStatement_put.mp hLive with
        ⟨rfl, hOn⟩ | ⟨_, hBefore⟩
      · cases hOwner.symm.trans hOn.2
        exact .inl (hEnlists.resolve_left hSlot)
      · exact hHere hBefore
  | @advanced q _ _ code =>
      rw [World.modifyStatement_eq] at hLive
      apply hHere (hModified _ hLive)
      intro s hOn
      simpa [Statement.stepped_eq, Statement.IsLiveOn] using hOn
  | rewound =>
      rw [World.modifyStatement_eq] at hLive
      apply hHere (hModified _ hLive)
      exact fun _ hOn => hOn
  | finalized =>
      rw [World.modifyStatement_eq, World.modifyLinked_eq]
        at hLive
      exact hHere (hModified
        (fun s hOn => absurd hOn (hEnds s)) hLive)
  | detached =>
      simp only [World.modifyStatement_eq, World.heard] at hLive
      apply hHere
      refine hModified (fun s hOn => ?_)
        (liveStatement_of_modify
          (fun s hOn => absurd hOn (hEnds s)) hLive)
      exact absurd hOn.2 (by simp)
  | confirmed =>
      rw [World.modifyStatement_eq] at hLive
      apply hHere (hModified _ hLive)
      exact fun _ hOn => hOn
  | removed =>
      exact hHere (liveStatement_erase.mp hLive).2
  | @transferred source target s hSource hTarget hStatement
      _ _ _ hEnlists =>
      rw [Statement.transfer_eq,
        World.statement_of_get? hStatement] at hLive
      rcases liveStatement_put.mp hLive with
        ⟨_, hOn⟩ | ⟨_, hLive⟩
      · exact absurd rfl hOn.1
      rcases liveStatement_put.mp hLive with
        ⟨rfl, hOn⟩ | ⟨_, hBefore⟩
      · by_cases hScratch : source = .scratch
        · exact .inl (hEnlists hScratch c hOn.2)
        · exact .inr ⟨source, hScratch, ⟨s, hStatement, hOn⟩,
            .inr ⟨hSource, hTarget⟩⟩
      · exact hHere hBefore
  | _ => exact hHere hLive

theorem keeps_slots
    (hStep : StatementStep A g g') :
    g'.world.plain = g.world.plain ∧
      g'.world.serialized = g.world.serialized := by
  cases hStep <;> simp [Stage.heard, World.heard]

theorem trace_suffix
    (hStep : StatementStep A g g') :
    g.world.trace <:+ g'.world.trace := by
  cases hStep <;> simp [Stage.heard, World.heard]

end StatementStep

end SqliteAccess
