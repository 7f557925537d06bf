import SqliteAccess.Proofs.Operation.Run

/-
  The objects of a session know about each other.

  Between operations, the lists of connections agree with the
  back-references of statements and backups, whatever the
  operations were and whether they succeeded or failed.

  Key definitions include:
    * `World.Consistent`

  The agreement is characterized by:
    * `Session.reachable_consistent`
-/

namespace SqliteAccess

variable {E : Engine}

------------------------------------------------------------
-- Agreement of Objects
------------------------------------------------------------

/-
  Whether the objects of a world agree:

    * `statements`, `backups`: a connection lists, each once,
      the statements with a handle that refer to it and the
      unfinished backups that copy from or to it
    * `closed`: a closed connection lists nothing
    * `finalized`: a statement is finalized if and only if it
      has no handle, and refers to a connection otherwise
    * `referred`: that connection exists, and is open on the
      database of the handle
    * `copying`: an unfinished backup copies between two
      different connections, which exist and are open
    * `pointed`, `anchors`: a token of rows points to the one
      statement that has it
-/
structure World.Consistent (w : World E) : Prop where
  statements : ∀ c conn, w.connections.get? c = some conn →
    conn.statements.Nodup ∧
      ∀ p, p ∈ conn.statements ↔
        ∃ s, w.statements.get? p = some s ∧
          s.handle ≠ none ∧ s.connection = some c
  backups : ∀ c conn, w.connections.get? c = some conn →
    conn.backups.Nodup ∧
      ∀ p, p ∈ conn.backups ↔
        ∃ b, w.backups.get? p = some b ∧
          b.handle ≠ none ∧
            (b.source = some c ∨ b.destination = some c)
  closed : ∀ c conn, w.connections.get? c = some conn →
    conn.handle = none →
      conn.statements = [] ∧ conn.backups = []
  finalized : ∀ p s, w.statements.get? p = some s →
    (s.state = .finalized ↔ s.handle = none) ∧
      (s.handle = none ↔ s.connection = none)
  referred : ∀ p s c, w.statements.get? p = some s →
    s.connection = some c →
      ∃ conn st, w.connections.get? c = some conn ∧
        s.handle = some st ∧ conn.handle = some st.database
  copying : ∀ p b, w.backups.get? p = some b →
    b.handle ≠ none →
      ∃ source destination conn conn',
        b.source = some source ∧
        b.destination = some destination ∧
        source ≠ destination ∧
        w.connections.get? source = some conn ∧
        w.connections.get? destination = some conn' ∧
        conn.handle ≠ none ∧ conn'.handle ≠ none
  pointed : ∀ p s a, w.statements.get? p = some s →
    s.anchor = some a → w.anchors.get? a = some p
  anchors : ∀ a p, w.anchors.get? a = some p →
    ∃ s, w.statements.get? p = some s ∧
      s.anchor = some a ∧
        ∀ q r, w.statements.get? q = some r →
          r.anchor = some a → q = p

------------------------------------------------------------
-- Agreement at Rest
------------------------------------------------------------

namespace Sound

variable {g : Stage E} {c : ConnectionId} {conn : Connection}
variable {p : Place}

/- A statement that is live on a connection keeps it open. -/
theorem open_of_liveStatement
    (hSound : Sound g)
    (hConnection :
      g.world.connections.get? c = some conn)
    (hLive : LiveStatement g.world.statements p c) :
    conn.handle ≠ none := by
  rcases hLive with ⟨s, hStatement, hHandle, hOwner⟩
  rcases Option.ne_none_iff_exists'.mp hHandle with
    ⟨st, hSome⟩
  rcases hSound.owned.opened hStatement hOwner hSome with
    ⟨conn', hConnection', hOpen⟩
  rw [hConnection] at hConnection'
  cases hConnection'
  simp [hOpen]

/- A backup that is live on a connection keeps it open. -/
theorem open_of_liveBackup
    (hSound : Sound g)
    (hConnection :
      g.world.connections.get? c = some conn)
    (hLive : LiveBackup g.world.backups p c) :
    conn.handle ≠ none := by
  rcases hLive with ⟨b, hBackup, hHandle, hUses⟩
  rcases Option.ne_none_iff_exists'.mp hHandle with
    ⟨bk, hSome⟩
  rcases hSound.copying.between hBackup hSome with
    ⟨source, destination, conn₁, conn₂, hSource,
     hDestination, _, hFrom, hTo, db₁, db₂, hOpen₁, hOpen₂,
     _⟩
  rcases hUses with hIs | hIs
  · rw [hSource] at hIs
    cases hIs
    rw [hConnection] at hFrom
    cases hFrom
    simp [hOpen₁]
  · rw [hDestination] at hIs
    cases hIs
    rw [hConnection] at hTo
    cases hTo
    simp [hOpen₂]

/- A statement is finalized if and only if it has no handle. -/
theorem finalized_iff
    (hSound : Sound g)
    {s : Statement}
    (hStatement : g.world.statements.get? p = some s) :
    s.state = .finalized ↔ s.handle = none := by
  constructor
  · intro hFinalized
    cases hHandle : s.handle with
    | none => rfl
    | some st =>
        have hFollows :=
          hSound.linked.follows hStatement hHandle
        exact absurd hFinalized hFollows.notFinalized
  · exact hSound.linked.ended hStatement

/- Where no connection is closing, all objects agree. -/
theorem consistent
    (hSound : Sound g)
    (hClosing : g.custody.closing = none) :
    g.world.Consistent where
  statements := by
    intro c conn hConnection
    have hListed := hSound.registered.statements
    refine ⟨hListed.nodup hConnection, fun p => ?_⟩
    have hMember := hListed.mem_iff (p := p) hConnection
    simpa [hClosing, LiveStatement, Statement.IsLiveOn]
      using hMember
  backups := by
    intro c conn hConnection
    have hListed := hSound.registered.backups
    refine ⟨hListed.nodup hConnection, fun p => ?_⟩
    have hMember := hListed.mem_iff (p := p) hConnection
    simpa [hClosing, LiveBackup, Backup.IsLiveOn]
      using hMember
  closed := by
    intro c conn hConnection hClosed
    constructor
    · apply List.eq_nil_iff_forall_not_mem.mpr
      intro p hListed
      have hLive :=
        (hSound.registered.statements.mem_iff hConnection).mp
          hListed
      exact hSound.open_of_liveStatement hConnection hLive.2
        hClosed
    · apply List.eq_nil_iff_forall_not_mem.mpr
      intro p hListed
      have hLive :=
        (hSound.registered.backups.mem_iff hConnection).mp
          hListed
      exact hSound.open_of_liveBackup hConnection hLive.2
        hClosed
  finalized := by
    intro p s hStatement
    exact ⟨hSound.finalized_iff hStatement,
      (hSound.owned.none_iff hStatement).symm⟩
  referred := by
    intro p s c hStatement hOwner
    cases hHandle : s.handle with
    | none =>
        have hNone :=
          (hSound.owned.none_iff hStatement).mpr hHandle
        simp [hOwner] at hNone
    | some st =>
        rcases hSound.owned.opened hStatement hOwner
            hHandle with
          ⟨conn, hConnection, hOpen⟩
        exact ⟨conn, st, hConnection, rfl, hOpen⟩
  copying := by
    intro p b hBackup hHandle
    rcases Option.ne_none_iff_exists'.mp hHandle with
      ⟨bk, hSome⟩
    rcases hSound.copying.between hBackup hSome with
      ⟨source, destination, conn, conn', hSource,
       hDestination, hOther, hFrom, hTo, db, db', hOpen,
       hOpen', _⟩
    exact ⟨source, destination, conn, conn', hSource,
      hDestination, hOther, hFrom, hTo, by simp [hOpen],
      by simp [hOpen']⟩
  pointed := by
    intro p s a hStatement hAnchor
    exact hSound.anchored.pointed hStatement hAnchor
  anchors := by
    intro a p hPoints
    rcases hSound.anchored.owned hPoints with
      ⟨s, hStatement, hAnchor⟩
    refine ⟨s, hStatement, hAnchor, ?_⟩
    intro q r hOther hSame
    have hPoints' := hSound.anchored.pointed hOther hSame
    rw [hPoints] at hPoints'
    exact (Option.some.inj hPoints').symm

end Sound

------------------------------------------------------------
-- Reachable Sessions
------------------------------------------------------------

/-
  After any operations on any engine, the objects of a
  session agree.
-/
theorem Session.reachable_consistent
    (engine : E.State)
    (patience : Nat)
    (log : Log)
    (ops : List Operation) :
    ((start engine patience log).runAll
      ops).2.world.Consistent :=
  (reachable_sound engine patience log ops).consistent rfl

end SqliteAccess
