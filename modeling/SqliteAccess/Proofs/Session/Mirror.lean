import SqliteAccess.Proofs.Session.Changes

/-
  Sessions that mirror each other.

  Two sessions are alike but for the slots that their
  statements are kept in.  A mirror says which slot of the
  one stands for which slot of the other.

  Key definitions include:
    * `Mirror`
    * `Mirror.place`
    * `Statement.Mirrored`
    * `Anchor.Mirrored`
    * `Connection.Mirrored`
    * `World.Mirrors`
    * `Session.Mirrors`

  The mirrors are characterized by:
    * `Mirror.place_inj`
    * `Statement.Mirrored.change`
    * `Connection.Mirrors.replaceStatement`
    * `World.Mirrors.of_still`
    * `World.Mirrors.isCurrent`
-/

namespace SqliteAccess

variable {E : Engine}

------------------------------------------------------------
-- Mirrors
------------------------------------------------------------

/-
  How the slots of one session stand for those of another.
  Spare slots are left alone: they are free in the one, and
  their images hold in the other what was left there, if
  anything was.  The patience of the one may be related to
  that of the other in any way.
-/
structure Mirror where
  slot : Nat → Nat
  injective : ∀ {n k}, slot n = slot k → n = k
  spare : Nat → Prop
  left : Option Statement
  patient : Nat → Nat → Prop

namespace Mirror

variable {m : Mirror} {p q : Place}

/- The image of a place; calls keep the scratch place. -/
def place (m : Mirror) : Place → Place
  | .scratch => .scratch
  | .slot n => .slot (m.slot n)

/- Whether both sessions have the same patience. -/
def Patient (m : Mirror) : Prop :=
  ∀ n k, m.patient n k → k = n

/- Whether everything stands for itself. -/
def Still (m : Mirror) : Prop :=
  ∀ p, m.place p = p

/- Whether a place is not spare. -/
def Uses (m : Mirror) : Place → Prop
  | .scratch => True
  | .slot n => ¬ m.spare n

theorem place_inj :
    m.place p = m.place q ↔ p = q := by
  cases p with
  | scratch => cases q <;> simp [place]
  | slot n =>
      cases q with
      | scratch => simp [place]
      | slot k =>
          simp only [place, Place.slot.injEq]
          exact ⟨m.injective, congrArg m.slot⟩

theorem place_ne_of_spare
    {n : Nat}
    (hUses : m.Uses p)
    (hSpare : m.spare n) :
    m.place p ≠ .slot (m.slot n) := by
  intro hSame
  have hSlot : p = .slot n := place_inj.mp hSame
  rw [hSlot] at hUses
  exact hUses hSpare

end Mirror

------------------------------------------------------------
-- Statements
------------------------------------------------------------

/- Whether places and their images hold the same statements. -/
structure Statement.Mirrored
    (m : Mirror)
    (t t' : Table Place Statement) : Prop where
  kept : ∀ p, m.Uses p → t'.get? (m.place p) = t.get? p
  free : ∀ n, m.spare n → t.get? (.slot n) = none
  left : ∀ n, m.spare n →
    t'.get? (.slot (m.slot n)) = m.left

namespace Statement.Mirrored

variable {m : Mirror} {t t' : Table Place Statement}
variable {p : Place}

/-
  Tables that are changed in the same way at a place and at
  its image.
-/
theorem change
    {u u' : Table Place Statement}
    {v : Option Statement}
    (h : Statement.Mirrored m t t')
    (hUses : m.Uses p)
    (hChange : ∀ q, u.get? q =
      if q = p then v else t.get? q)
    (hChange' : ∀ q, u'.get? q =
      if q = m.place p then v else t'.get? q) :
    Statement.Mirrored m u u' where
  kept q hUsesOther := by
    rw [hChange, hChange', h.kept q hUsesOther]
    simp only [Mirror.place_inj]
  free n hSpare := by
    have hOther : Place.slot n ≠ p := by
      rintro rfl
      exact hUses hSpare
    rw [hChange, if_neg hOther]
    exact h.free n hSpare
  left n hSpare := by
    have hOther := Mirror.place_ne_of_spare hUses hSpare
    rw [hChange', if_neg hOther.symm]
    exact h.left n hSpare

theorem put
    (h : Statement.Mirrored m t t')
    (hUses : m.Uses p)
    (s : Statement) :
    Statement.Mirrored m (t.put p s)
      (t'.put (m.place p) s) :=
  h.change hUses (Table.get?_put t p · s)
    (Table.get?_put t' (m.place p) · s)

theorem erase
    (h : Statement.Mirrored m t t')
    (hUses : m.Uses p) :
    Statement.Mirrored m (t.erase p)
      (t'.erase (m.place p)) :=
  h.change hUses (Table.get?_erase t p)
    (Table.get?_erase t' (m.place p))

theorem modify
    (h : Statement.Mirrored m t t')
    (hUses : m.Uses p)
    (f : Statement → Statement) :
    Statement.Mirrored m (t.modify p f)
      (t'.modify (m.place p) f) := by
  apply h.change hUses (Table.get?_modify t p · f)
  intro q
  rw [Table.get?_modify, h.kept p hUses]

end Statement.Mirrored

------------------------------------------------------------
-- Tokens of Rows
------------------------------------------------------------

/- Whether tokens point to places and to their images. -/
structure Anchor.Mirrored
    (m : Mirror)
    (t t' : Table Anchor Place) : Prop where
  points : ∀ a, t'.get? a = (t.get? a).map m.place
  used : ∀ a p, t.get? a = some p → m.Uses p

namespace Anchor.Mirrored

variable {m : Mirror} {t t' : Table Anchor Place}
variable {p : Place}

theorem put?
    (h : Anchor.Mirrored m t t')
    (hUses : m.Uses p)
    (a : Option Anchor) :
    Anchor.Mirrored m (t.put? a p)
      (t'.put? a (m.place p)) where
  points b := by
    rw [Table.get?_put?, Table.get?_put?, h.points]
    split
    case isTrue => rfl
    case isFalse => rfl
  used b q hFound := by
    rw [Table.get?_put?] at hFound
    split at hFound
    case isTrue =>
      cases hFound
      exact hUses
    case isFalse => exact h.used b q hFound

theorem erase?
    (h : Anchor.Mirrored m t t')
    (a : Option Anchor) :
    Anchor.Mirrored m (t.erase? a) (t'.erase? a) where
  points b := by
    rw [Table.get?_erase?, Table.get?_erase?, h.points]
    split
    case isTrue => rfl
    case isFalse => rfl
  used b q hFound := by
    rw [Table.get?_erase?] at hFound
    split at hFound
    case isTrue => cases hFound
    case isFalse => exact h.used b q hFound

end Anchor.Mirrored

------------------------------------------------------------
-- Connections
------------------------------------------------------------

/-
  Whether connections are alike and list statements and their
  images.
-/
structure Connection.Mirrors
    (m : Mirror)
    (c c' : Connection) : Prop where
  handle : c'.handle = c.handle
  path : c'.path = c.path
  options : c'.options = c.options
  backups : c'.backups = c.backups
  statements :
    c'.statements.Perm (c.statements.map m.place)
  used : ∀ p ∈ c.statements, m.Uses p

namespace Connection.Mirrors

variable {m : Mirror} {c c' : Connection} {p q : Place}

/- Where nothing is live, there is nothing to tell apart. -/
theorem of_nil
    (hNothing : c.statements = []) :
    Connection.Mirrors m c c where
  handle := rfl
  path := rfl
  options := rfl
  backups := rfl
  statements := by simp [hNothing]
  used := by simp [hNothing]

theorem addStatement
    (h : Connection.Mirrors m c c')
    (hUses : m.Uses p) :
    Connection.Mirrors m (c.addStatement p)
      (c'.addStatement (m.place p)) :=
  { h with
    statements := by
      have hFiltered :=
        h.statements.filter (fun q => q ≠ m.place p)
      rw [List.filter_map] at hFiltered
      simpa [Connection.addStatement, Function.comp_def,
        Mirror.place_inj] using hFiltered
    used := by
      intro q hMember
      rcases List.mem_cons.mp hMember with rfl | hOld
      · exact hUses
      · exact h.used q (List.mem_filter.mp hOld).1 }

theorem removeStatement
    (h : Connection.Mirrors m c c')
    (p : Place) :
    Connection.Mirrors m (c.removeStatement p)
      (c'.removeStatement (m.place p)) :=
  { h with
    statements := by
      have hFiltered :=
        h.statements.filter (fun q => q ≠ m.place p)
      rw [List.filter_map] at hFiltered
      simpa [Connection.removeStatement, Function.comp_def,
        Mirror.place_inj] using hFiltered
    used := fun q hMember =>
      h.used q (List.mem_filter.mp hMember).1 }

theorem replaceStatement
    (h : Connection.Mirrors m c c')
    (hUses : m.Uses q) :
    Connection.Mirrors m (c.replaceStatement p q)
      (c'.replaceStatement (m.place p) (m.place q)) := by
  have hListed :
      m.place p ∈ c'.statements ↔ p ∈ c.statements := by
    rw [h.statements.mem_iff, List.mem_map]
    simp only [Mirror.place_inj, exists_eq_right]
  unfold Connection.replaceStatement
  simp only [hListed]
  split
  case isTrue =>
    exact (h.removeStatement p).addStatement hUses
  case isFalse => exact h

/- Connections that mirror each other list equally many. -/
theorem count
    (h : Connection.Mirrors m c c') :
    c'.statements.length = c.statements.length := by
  rw [h.statements.length_eq, List.length_map]

theorem hasChildren
    (h : Connection.Mirrors m c c') :
    c'.hasChildren = c.hasChildren := by
  unfold Connection.hasChildren
  rw [h.backups, h.statements.isEmpty_eq, List.isEmpty_map]

end Connection.Mirrors

/-
  Whether an identity has no connection in both tables, or
  has connections that mirror each other.
-/
inductive Connection.Paired
    (m : Mirror) :
    Option Connection → Option Connection → Prop where
  | missing : Paired m none none
  | found {c c'}
      (hMirrors : Connection.Mirrors m c c') :
      Paired m (some c) (some c')

namespace Connection.Paired

variable {m : Mirror} {o o' : Option Connection}

theorem map
    {f g : Connection → Connection}
    (h : Connection.Paired m o o')
    (hChange : ∀ {c c'}, Connection.Mirrors m c c' →
      Connection.Mirrors m (f c) (g c')) :
    Connection.Paired m (o.map f) (o'.map g) := by
  cases h with
  | missing => exact .missing
  | found hMirrors => exact .found (hChange hMirrors)

theorem getD
    (h : Connection.Paired m o o') :
    Connection.Mirrors m (o.getD .vacant)
      (o'.getD .vacant) := by
  cases h with
  | missing => exact .of_nil rfl
  | found hMirrors => exact hMirrors

theorem isSome
    (h : Connection.Paired m o o') :
    o'.isSome = o.isSome := by
  cases h with
  | missing => rfl
  | found hMirrors => rfl

end Connection.Paired

/- Whether all connections of two tables are paired. -/
def Connection.Mirrored
    (m : Mirror)
    (t t' : Table ConnectionId Connection) : Prop :=
  ∀ c, Connection.Paired m (t.get? c) (t'.get? c)

namespace Connection.Mirrored

variable {m : Mirror}
variable {t t' : Table ConnectionId Connection}
variable {f g : Connection → Connection}

theorem modify
    (h : Connection.Mirrored m t t')
    (c : ConnectionId)
    (hChange : ∀ {conn conn'},
      Connection.Mirrors m conn conn' →
        Connection.Mirrors m (f conn) (g conn')) :
    Connection.Mirrored m (t.modify c f)
      (t'.modify c g) := by
  intro c'
  rw [Table.get?_modify, Table.get?_modify]
  split
  case isTrue => exact (h c).map hChange
  case isFalse => exact h c'

theorem modify?
    (h : Connection.Mirrored m t t')
    (c : Option ConnectionId)
    (hChange : ∀ {conn conn'},
      Connection.Mirrors m conn conn' →
        Connection.Mirrors m (f conn) (g conn')) :
    Connection.Mirrored m (t.modify? c f)
      (t'.modify? c g) := by
  cases c with
  | none => exact h
  | some c => exact h.modify c hChange

theorem put
    {conn : Connection}
    (h : Connection.Mirrored m t t')
    (c : ConnectionId)
    (hMirrors : Connection.Mirrors m conn conn) :
    Connection.Mirrored m (t.put c conn)
      (t'.put c conn) := by
  intro c'
  rw [Table.get?_put, Table.get?_put]
  split
  case isTrue => exact .found hMirrors
  case isFalse => exact h c'

theorem erase
    (h : Connection.Mirrored m t t')
    (c : ConnectionId) :
    Connection.Mirrored m (t.erase c) (t'.erase c) := by
  intro c'
  rw [Table.get?_erase, Table.get?_erase]
  split
  case isTrue => exact .missing
  case isFalse => exact h c'

end Connection.Mirrored

------------------------------------------------------------
-- Worlds
------------------------------------------------------------

/-
  Whether worlds are alike but for the slots of statements.
-/
structure World.Mirrors
    (m : Mirror)
    (w w' : World E) : Prop where
  engine : w'.engine = w.engine
  trace : w'.trace = w.trace
  patience : m.patient w.patience w'.patience
  issued : w'.issued = w.issued
  library : w'.library = w.library
  plain : w'.plain = w.plain
  serialized : w'.serialized = w.serialized
  rows : w'.rows = w.rows
  transactions : w'.transactions = w.transactions
  savepoints : w'.savepoints = w.savepoints
  backups : w'.backups = w.backups
  connections :
    Connection.Mirrored m w.connections w'.connections
  statements :
    Statement.Mirrored m w.statements w'.statements
  anchors : Anchor.Mirrored m w.anchors w'.anchors

namespace World.Mirrors

variable {m : Mirror} {w w' : World E} {p : Place}

/-
  A world is mirrored by itself with any related patience,
  where everything stands for itself and nothing is spare.
-/
theorem of_still
    {n : Nat}
    (hStill : m.Still)
    (hUses : ∀ p, m.Uses p)
    (hPatient : m.patient w.patience n) :
    w.Mirrors m { w with patience := n } := by
  have hPlace : m.place = id := funext hStill
  exact
    { engine := rfl
      trace := rfl
      patience := hPatient
      issued := rfl
      library := rfl
      plain := rfl
      serialized := rfl
      rows := rfl
      transactions := rfl
      savepoints := rfl
      backups := rfl
      connections := by
        intro c
        cases w.connections.get? c with
        | none => exact .missing
        | some conn =>
            exact .found
              { handle := rfl
                path := rfl
                options := rfl
                backups := rfl
                statements := by rw [hPlace, List.map_id]
                used := fun p _ => hUses p }
      statements :=
        { kept := fun p _ => by rw [hStill]
          free := fun n hSpare =>
            absurd hSpare (hUses (.slot n))
          left := fun n hSpare =>
            absurd hSpare (hUses (.slot n)) }
      anchors :=
        { points := fun a => by rw [hPlace, Option.map_id]; rfl
          used := fun _ p _ => hUses p } }

theorem statement
    (h : w.Mirrors m w')
    (hUses : m.Uses p) :
    w'.statement (m.place p) = w.statement p := by
  unfold World.statement
  rw [h.statements.kept p hUses]

theorem connection
    (h : w.Mirrors m w')
    (c : ConnectionId) :
    Connection.Mirrors m (w.connection c)
      (w'.connection c) :=
  (h.connections c).getD

theorem placeOf
    (h : w.Mirrors m w')
    (r : Row) :
    w'.placeOf r = (w.placeOf r).map m.place := by
  unfold World.placeOf
  cases r.anchor with
  | none => rfl
  | some a => exact h.anchors.points a

theorem used_of_placeOf
    {r : Row}
    (h : w.Mirrors m w')
    (hPlace : w.placeOf r = some p) :
    m.Uses p := by
  rcases Option.bind_eq_some_iff.mp hPlace with
    ⟨a, _, hPoints⟩
  exact h.anchors.used a p hPoints

/- Rows are current in both worlds or in neither. -/
theorem isCurrent
    (h : w.Mirrors m w')
    (r : Row) :
    w'.isCurrent r = w.isCurrent r := by
  unfold World.isCurrent
  rw [h.placeOf]
  cases hPlace : w.placeOf r with
  | none => rfl
  | some p =>
      simp only [Option.map_some,
        h.statement (h.used_of_placeOf hPlace)]

end World.Mirrors

/- Whether sessions are alike but for the same slots. -/
structure Session.Mirrors
    (m : Mirror)
    (s s' : Session E) : Prop where
  world : s.world.Mirrors m s'.world
  log : s'.log = s.log

end SqliteAccess
