import SqliteAccess.Proofs.Session.Changes
import SqliteAccess.Proofs.Trace.Lawful
import SqliteAccess.Proofs.Trace.Reading

/-
  Who is responsible for a handle.

  Between operations every handle that is alive is held by an
  object of the session, or was given to the host.  Inside an
  operation a handle may also be under way: compiled but not
  kept yet, opened but not registered yet.  The custody of a
  stage tells what is under way.

  Key definitions include:
    * `Custody`
    * `Stage`
    * `Statement.Follows`
    * `Listed`
    * `Sound`
    * `World.Childless`
    * `Part`
-/

namespace SqliteAccess

------------------------------------------------------------
-- Stages
------------------------------------------------------------

/-
  What is under way inside an operation:

    * `pending`: a statement that is compiled and not kept yet
    * `arriving`: a database that is not registered yet
    * `homeless`: a connection that no slot has
    * `closing`: a connection whose children are released
    * `scratch`: whether there is a scratch statement
    * `copying`: whether there is a scratch backup
    * `hosted`: the statements that were given to the host

  Besides, `expendable` tells which connections may be closed
  or forgotten, `enlists` which may get a statement or a
  backup in a slot, and `drives` in which places a backup may
  be started, advanced or destroyed.  None of them ever
  changes.
-/
structure Custody where
  pending : Option StatementHandle := none
  arriving : Option DatabaseHandle := none
  homeless : Option ConnectionId := none
  closing : Option ConnectionId := none
  scratch : Bool := false
  copying : Bool := false
  hosted : List StatementHandle := []
  expendable : ConnectionId → Prop := fun _ => True
  enlists : ConnectionId → Prop := fun _ => True
  drives : Place → Prop := fun _ => True

/- Whether nothing is under way but the slot of a connection. -/
structure Custody.Idle (k : Custody) : Prop where
  pending : k.pending = none
  arriving : k.arriving = none
  closing : k.closing = none
  scratch : k.scratch = false
  copying : k.copying = false

/- Whether nothing is under way at all. -/
structure Custody.AtRest (k : Custody) : Prop
    extends Idle k where
  homeless : k.homeless = none

/- What was given to the host is not under way. -/
theorem Custody.atRest_of_hosted
    (hosted : List StatementHandle) :
    Custody.AtRest { hosted } :=
  ⟨⟨rfl, rfl, rfl, rfl, rfl⟩, rfl⟩

theorem Custody.scratch_eq
    {k : Custody}
    {b : Bool}
    (hScratch : k.scratch = b) :
    { k with scratch := b } = k := by
  subst hScratch
  rfl

theorem Custody.copying_eq
    {k : Custody}
    {b : Bool}
    (hCopying : k.copying = b) :
    { k with copying := b } = k := by
  subst hCopying
  rfl

/- A moment inside an operation. -/
structure Stage (E : Engine) where
  custody : Custody
  world : World E

------------------------------------------------------------
-- Statements
------------------------------------------------------------

/-
  Whether a statement agrees with what a trace tells about
  its handle.  One that has failed is done.
-/
structure Statement.Follows
    (s : Statement)
    (t : Trace)
    (st : StatementHandle) : Prop where
  state : t.stateOf st = s.state
  notFinalized : s.state ≠ .finalized
  failed : s.stepFailed = t.hasFailed st
  stuck : s.stepFailed = true → s.state = .done
  generation : s.generation = UInt64.ofNat (t.transitions st)
  parameters : t.parameters st = some s.parameterCount
  columns : t.columns st = some s.columnNames.length

/-
  Handles of statements: each belongs to one statement, which
  agrees with the trace, is under way, or is the host's.
-/
structure Linked
    (statements : Table Place Statement)
    (t : Trace)
    (pending : Option StatementHandle)
    (hosted : List StatementHandle)
    (issued : Nat) : Prop where
  alive : ∀ {p s st},
    statements.get? p = some s → s.handle = some st →
      (Lifetime.statement st).alive t
  follows : ∀ {p s st},
    statements.get? p = some s → s.handle = some st →
      s.Follows t st
  kept : ∀ {p s st},
    statements.get? p = some s → s.handle = some st →
      pending ≠ some st ∧ st ∉ hosted
  unique : ∀ {p q s r st},
    statements.get? p = some s → s.handle = some st →
      statements.get? q = some r → r.handle = some st →
        p = q
  ended : ∀ {p s},
    statements.get? p = some s → s.handle = none →
      s.state = .finalized
  fresh : ∀ {st}, pending = some st →
    (Lifetime.statement st).alive t ∧ st ∉ hosted ∧
      t.stateOf st = .ready ∧ t.transitions st = 0
  custody : ∀ {st}, (Lifetime.statement st).alive t →
    pending = some st ∨ st ∈ hosted ∨
      ∃ p s, statements.get? p = some s ∧ s.handle = some st
  given : ∀ {st}, st ∈ hosted →
    (Lifetime.statement st).births t ≠ 0
  numbered : ∀ {st}, (Lifetime.statement st).births t ≠ 0 →
    st.number ≤ issued

/-
  Back-references of statements: a statement with a handle
  belongs to an open connection to the database of the
  handle, and one without a handle to none.
-/
structure Owned
    (statements : Table Place Statement)
    (connections : Table ConnectionId Connection) :
    Prop where
  none_iff : ∀ {p s}, statements.get? p = some s →
    (s.connection = none ↔ s.handle = none)
  opened : ∀ {p s c st}, statements.get? p = some s →
    s.connection = some c → s.handle = some st →
      ∃ conn, connections.get? c = some conn ∧
        conn.handle = some st.database

/-
  Tokens of rows: each points to the statement that has it,
  and every statement with a handle has one.
-/
structure Anchored
    (statements : Table Place Statement)
    (anchors : Table Anchor Place)
    (issued : Nat) : Prop where
  pointed : ∀ {p s a}, statements.get? p = some s →
    s.anchor = some a → anchors.get? a = some p
  owned : ∀ {p a}, anchors.get? a = some p →
    ∃ s, statements.get? p = some s ∧ s.anchor = some a
  present : ∀ {p s}, statements.get? p = some s →
    s.handle ≠ none → s.anchor ≠ none
  numbered : ∀ {a p}, anchors.get? a = some p →
    a.number ≤ issued

------------------------------------------------------------
-- Connections and Backups
------------------------------------------------------------

/-
  Handles of databases: each belongs to one connection, which
  opened it without a failure, or is under way.
-/
structure Opened
    (connections : Table ConnectionId Connection)
    (t : Trace)
    (arriving : Option DatabaseHandle)
    (issued issuedConnections : Nat) : Prop where
  alive : ∀ {c conn db},
    connections.get? c = some conn → conn.handle = some db →
      (Lifetime.database db).alive t ∧
        t.any (Lifetime.leaves db) = false
  kept : ∀ {c conn db},
    connections.get? c = some conn → conn.handle = some db →
      arriving ≠ some db
  unique : ∀ {c c' conn conn' db},
    connections.get? c = some conn → conn.handle = some db →
      connections.get? c' = some conn' →
        conn'.handle = some db → c = c'
  fresh : ∀ {db}, arriving = some db →
    (Lifetime.database db).alive t
  custody : ∀ {db}, (Lifetime.database db).alive t →
    arriving = some db ∨
      ∃ c conn, connections.get? c = some conn ∧
        conn.handle = some db
  numbered : ∀ {db}, (Lifetime.database db).births t ≠ 0 →
    db.number ≤ issued
  identified : ∀ {c conn}, connections.get? c = some conn →
    c.number ≤ issuedConnections

/-
  Handles of backups: each belongs to one backup, which
  copies between two open connections.
-/
structure Copying
    (backups : Table Place Backup)
    (connections : Table ConnectionId Connection)
    (t : Trace)
    (issued : Nat) : Prop where
  alive : ∀ {p b bk}, backups.get? p = some b →
    b.handle = some bk → (Lifetime.backup bk).alive t
  between : ∀ {p b bk}, backups.get? p = some b →
    b.handle = some bk →
      ∃ source destination sourceConn destinationConn,
        b.source = some source ∧
        b.destination = some destination ∧
        source ≠ destination ∧
        connections.get? source = some sourceConn ∧
        connections.get? destination = some destinationConn ∧
        ∃ sourceDb destinationDb,
          sourceConn.handle = some sourceDb ∧
          destinationConn.handle = some destinationDb ∧
          t.between bk = some (sourceDb, destinationDb)
  unique : ∀ {p q b b' bk},
    backups.get? p = some b → b.handle = some bk →
      backups.get? q = some b' → b'.handle = some bk → p = q
  custody : ∀ {bk}, (Lifetime.backup bk).alive t →
    ∃ p b, backups.get? p = some b ∧ b.handle = some bk
  numbered : ∀ {bk}, (Lifetime.backup bk).births t ≠ 0 →
    bk.number ≤ issued

------------------------------------------------------------
-- Registries and Slots
------------------------------------------------------------

/- Whether a statement is live on a connection. -/
def Statement.IsLiveOn
    (s : Statement)
    (c : ConnectionId) : Prop :=
  s.handle ≠ none ∧ s.connection = some c

/- Whether a backup is unfinished on a connection. -/
def Backup.IsLiveOn
    (b : Backup)
    (c : ConnectionId) : Prop :=
  b.handle ≠ none ∧
    (b.source = some c ∨ b.destination = some c)

/- Whether a place has a statement live on a connection. -/
def LiveStatement
    (statements : Table Place Statement)
    (p : Place)
    (c : ConnectionId) : Prop :=
  ∃ s, statements.get? p = some s ∧ s.IsLiveOn c

/- Whether a place has a backup unfinished on a connection. -/
def LiveBackup
    (backups : Table Place Backup)
    (p : Place)
    (c : ConnectionId) : Prop :=
  ∃ b, backups.get? p = some b ∧ b.IsLiveOn c

/-
  Whether every connection lists, each once, the places that
  are live on it.  One whose children are being released
  lists nothing.
-/
structure Listed
    (connections : Table ConnectionId Connection)
    (list : Connection → List Place)
    (live : Place → ConnectionId → Prop)
    (closing : Option ConnectionId) : Prop where
  mem_iff : ∀ {c conn p}, connections.get? c = some conn →
    (p ∈ list conn ↔ closing ≠ some c ∧ live p c)
  nodup : ∀ {c conn}, connections.get? c = some conn →
    (list conn).Nodup

/-
  Registries: connections list the statements and the backups
  that are live on them.
-/
structure Registered
    (connections : Table ConnectionId Connection)
    (statements : Table Place Statement)
    (backups : Table Place Backup)
    (closing : Option ConnectionId) : Prop where
  statements :
    Listed connections (·.statements)
      (LiveStatement statements) closing
  backups :
    Listed connections (·.backups) (LiveBackup backups)
      closing

/-
  Slots: every connection that exists is in one, except the
  one under way.
-/
def Housed
    (connections : Table ConnectionId Connection)
    (plain serialized : Table Nat ConnectionId)
    (homeless : Option ConnectionId) : Prop :=
  ∀ c conn, connections.get? c = some conn →
    homeless = some c ∨
      (∃ n, plain.get? n = some c) ∨
        ∃ z, serialized.get? z = some c

------------------------------------------------------------
-- Sound Stages
------------------------------------------------------------

/- Whether every handle of a stage is accounted for. -/
structure Sound {E : Engine} (g : Stage E) : Prop where
  lawful : g.world.trace.Lawful g.custody.hosted
  linked :
    Linked g.world.statements g.world.trace
      g.custody.pending g.custody.hosted
      g.world.issued.statements
  owned : Owned g.world.statements g.world.connections
  anchored :
    Anchored g.world.statements g.world.anchors
      g.world.issued.anchors
  opened :
    Opened g.world.connections g.world.trace
      g.custody.arriving g.world.issued.databases
      g.world.issued.connections
  copying :
    Copying g.world.backups g.world.connections
      g.world.trace g.world.issued.backups
  registered :
    Registered g.world.connections g.world.statements
      g.world.backups g.custody.closing
  housed :
    Housed g.world.connections g.world.plain
      g.world.serialized g.custody.homeless
  scratch :
    g.world.statements.contains .scratch = g.custody.scratch
  scratchBackup :
    g.world.backups.contains .scratch = g.custody.copying

variable {E : Engine}

------------------------------------------------------------
-- Objects of a World
------------------------------------------------------------

namespace World

/- Whether a statement of a world has a handle. -/
def Holds
    (w : World E)
    (st : StatementHandle) : Prop :=
  ∃ p s, w.statements.get? p = some s ∧ s.handle = some st

/- Whether a connection of a world has a handle. -/
def Opens
    (w : World E)
    (db : DatabaseHandle) : Prop :=
  ∃ c conn, w.connections.get? c = some conn ∧
    conn.handle = some db

/- Whether a backup of a world has a handle. -/
def Copies
    (w : World E)
    (bk : BackupHandle) : Prop :=
  ∃ p b, w.backups.get? p = some b ∧ b.handle = some bk

/- Whether nothing is live on a connection. -/
structure Childless
    (w : World E)
    (c : ConnectionId) : Prop where
  statements : ∀ p, ¬ LiveStatement w.statements p c
  backups : ∀ p, ¬ LiveBackup w.backups p c

end World

/- A stage in which one more call has been answered. -/
def Stage.heard
    (g : Stage E)
    (e : Event)
    (engine : E.State) : Stage E :=
  { g with world := g.world.heard e engine }

/- The parts of a session that steps may be kept from. -/
inductive Part where
  | statement (p : Place)
  | backup (p : Place)
  | slots

end SqliteAccess
