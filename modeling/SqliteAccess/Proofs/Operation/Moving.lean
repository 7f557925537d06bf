import SqliteAccess.Proofs.Operation.Journal
import SqliteAccess.Proofs.Operation.Mirroring
import SqliteAccess.Proofs.Session.Consistency
import SqliteAccess.Proofs.Statement.Currency
import SqliteAccess.Proofs.Statement.Destroying

/-
  Moving a statement cannot be observed.

  A session in which a statement was moved mirrors the one in
  which it was not: the two slots of the move stand for each
  other.  So whatever is done with the statement afterwards
  goes the same way in both.

  Key definitions include:
    * `Mirror.swap`
    * `Session.Moves`
    * `Session.Indistinct`

  Correctness is proven by:
    * `World.Consistent.transfer_mirrors`
    * `Session.Moves.mirrors`
    * `Session.move_unobservable`
-/

namespace SqliteAccess

variable {E : Engine}

------------------------------------------------------------
-- Two Slots That Stand for Each Other
------------------------------------------------------------

namespace Mirror

/-
  The mirror of a move: its slots stand for each other.  The
  second one is free without the move, and with the move the
  first one holds what was left there.
-/
def swap
    (a b : Nat)
    (left : Option Statement) : Mirror where
  slot n := if n = a then b else if n = b then a else n
  injective := by grind
  spare n := n = b
  left
  patient n k := k = n

variable {a b : Nat} {left : Option Statement} {p : Place}

@[simp]
theorem swap_source :
    (swap a b left).place (.slot a) = .slot b := by
  simp [place, swap]

@[simp]
theorem swap_target :
    (swap a b left).place (.slot b) = .slot a := by
  by_cases hSame : b = a
  · simp [place, swap, hSame]
  · simp [place, swap, hSame]

theorem swap_of_ne
    (hSource : p ≠ .slot a)
    (hTarget : p ≠ .slot b) :
    (swap a b left).place p = p := by
  cases p with
  | scratch => rfl
  | slot n =>
      have hA : n ≠ a := fun h => hSource (congrArg _ h)
      have hB : n ≠ b := fun h => hTarget (congrArg _ h)
      simp [place, swap, hA, hB]

theorem swap_uses_iff :
    (swap a b left).Uses p ↔ p ≠ .slot b := by
  cases p with
  | scratch => simp [Uses]
  | slot n => simp [Uses, swap]

/- The images of images are the places themselves. -/
theorem swap_swap (p : Place) :
    (swap a b left).place ((swap a b left).place p) = p := by
  by_cases hSource : p = .slot a
  · rw [hSource, swap_source, swap_target]
  · by_cases hTarget : p = .slot b
    · rw [hTarget, swap_target, swap_source]
    · rw [swap_of_ne hSource hTarget,
        swap_of_ne hSource hTarget]

/- An order of places is carried over to their images. -/
theorem swap_carries
    {order : Place → Nat}
    (hOrder : ∀ {p q}, order p = order q → p = q) :
    (swap a b left).Carries order
      (fun p => order ((swap a b left).place p)) where
  injective hSame := place_inj.mp (hOrder hSame)
  image p := congrArg order (swap_swap p)

end Mirror

------------------------------------------------------------
-- Lists of Statements
------------------------------------------------------------

namespace Connection

variable {a b : Nat} {left : Option Statement}
variable {c : Connection}

theorem mem_replaceStatement_iff
    {old new p : Place} :
    p ∈ (c.replaceStatement old new).statements ↔
      (p = new ∧ old ∈ c.statements) ∨
        (p ∈ c.statements ∧
          ¬ (p = old ∧ old ∈ c.statements)) := by
  unfold replaceStatement
  by_cases hListed : old ∈ c.statements
  · by_cases hNew : p = new
    · simp [hListed, hNew, addStatement]
    · simp [hListed, hNew, addStatement, removeStatement]
  · simp [hListed]

theorem nodup_replaceStatement
    (hNodup : c.statements.Nodup)
    (old new : Place) :
    (c.replaceStatement old new).statements.Nodup := by
  unfold replaceStatement
  split
  case isTrue =>
    simp only [addStatement, removeStatement,
      List.nodup_cons]
    exact ⟨by simp, (hNodup.filter _).filter _⟩
  case isFalse => exact hNodup

theorem replaceStatement_alike
    (c : Connection)
    (old new : Place) :
    (c.replaceStatement old new).handle = c.handle ∧
      (c.replaceStatement old new).path = c.path ∧
      (c.replaceStatement old new).options = c.options ∧
      (c.replaceStatement old new).backups = c.backups := by
  unfold replaceStatement
  split
  case isTrue => exact ⟨rfl, rfl, rfl, rfl⟩
  case isFalse => exact ⟨rfl, rfl, rfl, rfl⟩

/-
  A connection lists the images of the statements that it
  listed before one of them was moved.
-/
theorem replaceStatement_mirrors
    (hNodup : c.statements.Nodup)
    (hFree : .slot b ∉ c.statements) :
    Connection.Mirrors (.swap a b left) c
      (c.replaceStatement (.slot a) (.slot b)) := by
  rcases replaceStatement_alike c (.slot a) (.slot b) with
    ⟨hHandle, hPath, hOptions, hBackups⟩
  refine ⟨hHandle, hPath, hOptions, hBackups, ?_, ?_⟩
  · have hImages :
        (c.statements.map (Mirror.swap a b left).place).Nodup :=
      List.Pairwise.map _
        (fun _ _ hOther hSame =>
          hOther (Mirror.place_inj.mp hSame)) hNodup
    apply (List.perm_ext_iff_of_nodup
      (nodup_replaceStatement hNodup _ _) hImages).mpr
    intro p
    rw [mem_replaceStatement_iff]
    -- A place is an image exactly if its own image is listed.
    have hImage :
        p ∈ c.statements.map (Mirror.swap a b left).place ↔
          (Mirror.swap a b left).place p ∈ c.statements := by
      rw [List.mem_map]
      constructor
      · rintro ⟨q, hListed, rfl⟩
        rw [Mirror.swap_swap]
        exact hListed
      · exact fun hListed => ⟨_, hListed, Mirror.swap_swap p⟩
    rw [hImage]
    by_cases hSource : p = .slot a
    · rw [hSource, Mirror.swap_source]
      by_cases hSame : a = b
      · simp [hSame, hFree]
      · simp [hSame, hFree]
    · by_cases hTarget : p = .slot b
      · rw [hTarget, Mirror.swap_target]
        simp [hFree]
      · rw [Mirror.swap_of_ne hSource hTarget]
        simp [hSource, hTarget]
  · intro p hListed
    apply Mirror.swap_uses_iff.mpr
    rintro rfl
    exact hFree hListed

end Connection

------------------------------------------------------------
-- Moving in a World
------------------------------------------------------------

section Transfer

variable {a b : Nat} {r : Statement} {left : Option Statement}
variable {w : World E}

/- Only the connection of a statement lists it anew. -/
theorem Connection.Mirrored.of_replace
    {t : Table ConnectionId Connection}
    {owner : Option ConnectionId}
    (hNodup : ∀ {c conn}, t.get? c = some conn →
      conn.statements.Nodup)
    (hFree : ∀ {c conn}, t.get? c = some conn →
      .slot b ∉ conn.statements)
    (hOwner : ∀ {c conn}, t.get? c = some conn →
      .slot a ∈ conn.statements → owner = some c) :
    Connection.Mirrored (.swap a b left) t
      (t.modify? owner
        (·.replaceStatement (.slot a) (.slot b))) := by
  have hReplaced : ∀ c,
      (t.modify? owner
        (·.replaceStatement (.slot a) (.slot b))).get? c =
        (t.get? c).map
          (·.replaceStatement (.slot a) (.slot b)) := by
    intro c
    -- Any other connection is replaced by itself.
    have hOther : owner ≠ some c →
        (t.get? c).map
          (·.replaceStatement (.slot a) (.slot b)) =
            t.get? c := by
      intro hElse
      cases hFound : t.get? c with
      | none => rfl
      | some conn =>
          have hAbsent : .slot a ∉ conn.statements :=
            fun hListed => hElse (hOwner hFound hListed)
          simp [Connection.replaceStatement, hAbsent]
    cases hLinked : owner with
    | none =>
        rw [hOther (by simp [hLinked])]
        rfl
    | some c' =>
        unfold Table.modify?
        rw [Table.get?_modify]
        split
        case isTrue hSame => rw [hSame]
        case isFalse hElse =>
          rw [hOther (by simp [hLinked, Ne.symm hElse])]
  intro c
  rw [hReplaced]
  cases hFound : t.get? c with
  | none => exact .missing
  | some conn =>
      exact .found (Connection.replaceStatement_mirrors
        (hNodup hFound) (hFree hFound))

/- A statement is found at the image of its place. -/
theorem Statement.Mirrored.of_transfer
    {t : Table Place Statement}
    (l : Statement)
    (hSource : t.get? (.slot a) = some r)
    (hFree : t.get? (.slot b) = none) :
    Statement.Mirrored (.swap a b (some l)) t
      ((t.put (.slot b) r).put (.slot a) l) where
  kept p hUses := by
    have hTarget := Mirror.swap_uses_iff.mp hUses
    by_cases hMoved : p = .slot a
    · rw [hMoved] at hTarget
      rw [hMoved, Mirror.swap_source, Table.get?_put,
        if_neg (Ne.symm hTarget), Table.get?_put, if_pos rfl,
        hSource]
    · rw [Mirror.swap_of_ne hMoved hTarget, Table.get?_put,
        if_neg hMoved, Table.get?_put, if_neg hTarget]
  free n hSpare := by
    cases hSpare
    exact hFree
  left n hSpare := by
    cases hSpare
    show Table.get? _
      ((Mirror.swap a b (some l)).place (.slot b)) = some l
    rw [Mirror.swap_target, Table.get?_put, if_pos rfl]

/- So are the rows that were read from it. -/
theorem Anchor.Mirrored.of_transfer
    (hConsistent : w.Consistent)
    (hSource : w.statements.get? (.slot a) = some r)
    (hFree : w.statements.get? (.slot b) = none) :
    Anchor.Mirrored (.swap a b left) w.anchors
      (w.anchors.put? r.anchor (.slot b)) where
  points x := by
    rw [Table.get?_put?]
    split
    case isTrue hToken =>
      rw [hConsistent.pointed _ _ _ hSource hToken]
      exact (congrArg some Mirror.swap_source).symm
    case isFalse hOther =>
      cases hPoints : w.anchors.get? x with
      | none => rfl
      | some p =>
          rcases hConsistent.anchors x p hPoints with
            ⟨s, hFound, hToken, _⟩
          have hKept : p ≠ .slot a := by
            rintro rfl
            rw [hSource] at hFound
            cases hFound
            exact hOther hToken
          have hTarget : p ≠ .slot b := by
            rintro rfl
            rw [hFree] at hFound
            cases hFound
          exact (congrArg some
            (Mirror.swap_of_ne hKept hTarget)).symm
  used x p hPoints := by
    rcases hConsistent.anchors x p hPoints with
      ⟨s, hFound, _⟩
    apply Mirror.swap_uses_iff.mpr
    rintro rfl
    rw [hFree] at hFound
    cases hFound

/-
  A world in which a statement was moved to a free slot
  mirrors the one in which it was not.
-/
theorem World.Consistent.transfer_mirrors
    (hConsistent : w.Consistent)
    (hSource : w.statements.get? (.slot a) = some r)
    (hFree : w.statements.get? (.slot b) = none) :
    w.Mirrors (.swap a b (some r.emptied))
      (Statement.transfer (.slot a) (.slot b) w) := by
  have hVacant : (w.statement (.slot b)).anchor = none := by
    simp [World.statement, hFree, Statement.vacant]
  rw [Statement.transfer_eq, World.statement_of_get? hSource,
    hVacant]
  refine
    { engine := rfl
      trace := rfl
      patience := rfl
      issued := rfl
      library := rfl
      plain := rfl
      serialized := rfl
      rows := rfl
      transactions := rfl
      savepoints := rfl
      backups := rfl
      connections := ?_
      statements := .of_transfer r.emptied hSource hFree
      anchors := .of_transfer hConsistent hSource hFree }
  apply Connection.Mirrored.of_replace
  · intro c conn hFound
    exact (hConsistent.statements c conn hFound).1
  · intro c conn hFound hListed
    rcases ((hConsistent.statements c conn hFound).2 _).mp
      hListed with ⟨s, hThere, _⟩
    rw [hFree] at hThere
    cases hThere
  · intro c conn hFound hListed
    rcases ((hConsistent.statements c conn hFound).2 _).mp
      hListed with ⟨s, hThere, _, hOwner⟩
    rw [hSource] at hThere
    cases hThere
    exact hOwner

end Transfer

------------------------------------------------------------
-- Ways to Move a Statement
------------------------------------------------------------

/-
  The ways in which a statement is moved to another slot, each
  with the session as it is without the move: a new statement
  is constructed from it in a free slot, or it is assigned to
  the statement in an occupied one, which has its end there.
-/
inductive Session.Moves
    (s : Session E)
    (a b : Nat) : Operation → Session E → Prop where
  | construct
      (hFree : s.world.statements.get? (.slot b) = none) :
      Moves s a b (.moveStatement a b) s
  | assign
      (hTarget :
        s.world.statements.get? (.slot b) ≠ none) :
      Moves s a b (.assignStatement a b)
        (s.run (.dropStatement b)).2

/- What a statement is moved over may be destroyed first. -/
theorem Statement.transfer_of_erased
    {source target : Place}
    (hSlots : source ≠ target)
    (w : World E) :
    transfer source target
        (let w := w.dropAnchor (w.statement target).anchor
        { w with statements := w.statements.erase target }) =
      transfer source target w := by
  simp only [transfer_eq, World.statement, Table.get?_erase,
    if_true, if_neg hSlots, World.dropAnchor_eq,
    Table.erase_put, Option.getD_none, vacant, Table.erase?]

namespace Session.Moves

variable {a b : Nat} {op : Operation} {s base : Session E}
variable {r : Statement}

theorem run_statementIn
    {n : Nat}
    (hFound : s.world.statements.get? (.slot n) ≠ none) :
    (Operation.statementIn n).run s = (.ok (.slot n), s) := by
  have hContains :
      s.world.statements.contains (.slot n) = true :=
    Option.isSome_iff_ne_none.mpr hFound
  unfold Operation.statementIn
  rw [Operation.run_occupied, if_pos hContains]

theorem run_dropStatement
    {n : Nat}
    (hFound : s.world.statements.get? (.slot n) ≠ none) :
    s.run (.dropStatement n) =
      (.ok .nothing, (Statement.destroy (.slot n) s).2) := by
  unfold Session.run Operation.perform Operation.discard
  rw [Attempt.run_bind_of_ok (run_statementIn hFound)]
  rfl

/- A move takes the statement to the other slot. -/
theorem run
    (hMoves : s.Moves a b op base)
    (hSlots : a ≠ b)
    (hSource : s.world.statements.get? (.slot a) ≠ none) :
    s.run op =
      (.ok .nothing,
        { base with
          world := Statement.transfer (.slot a) (.slot b)
            base.world }) := by
  have hPlaces : Place.slot a ≠ .slot b :=
    fun hSame => hSlots (Place.slot.inj hSame)
  cases hMoves with
  | construct hFree =>
      unfold Session.run Operation.perform Operation.relocate
      rw [Attempt.run_bind_of_ok (run_statementIn hSource),
        if_pos hSlots,
        Attempt.run_bind_of_ok (Attempt.run_lift _ _),
        Statement.destroy_of_free hFree]
      rfl
  | assign hTarget =>
      have hAssigned :
          Statement.assign (.slot a) (.slot b) s =
            ((), { (Statement.finalize (.slot b) s).2 with
              world :=
                Statement.transfer (.slot a) (.slot b)
                  (Statement.finalize (.slot b) s).2.world
              }) := by
        unfold Statement.assign
        rw [if_neg hPlaces]
        rfl
      rw [run_dropStatement hTarget]
      unfold Session.run Operation.perform Operation.overwrite
      rw [Attempt.run_bind_of_ok (run_statementIn hTarget),
        Attempt.run_bind_of_ok (run_statementIn hSource),
        Attempt.run_bind_of_ok (Attempt.run_lift _ _),
        hAssigned]
      have hSame := Statement.transfer_of_erased hPlaces
        (Statement.finalize (.slot b) s).2.world
      rw [← hSame]
      rfl

end Session.Moves

------------------------------------------------------------
-- Sessions Without the Move
------------------------------------------------------------

section Without

variable {a b : Nat} {op : Operation} {s base : Session E}
variable {r : Statement} {p : Place}

/-
  A statement that is destroyed is gone from its place and
  from the list of its connection.
-/
theorem Statement.destroy_tables
    (hConsistent : s.world.Consistent)
    (hFound : s.world.statements.get? p = some r) :
    (destroy p s).2.world.statements =
        s.world.statements.erase p ∧
      (destroy p s).2.world.connections =
        s.world.connections.modify? r.connection
          (·.removeStatement p) := by
  cases hHandle : r.handle with
  | none =>
      have hOwner : r.connection = none :=
        (hConsistent.finalized p r hFound).2.mp hHandle
      rw [destroy_of_finalized hFound hHandle, hOwner]
      exact ⟨rfl, rfl⟩
  | some st =>
      rcases destroy_of_live hFound hHandle with
        ⟨engine, event, log, hDestroyed⟩
      rw [hDestroyed]
      exact ⟨rfl, rfl⟩

/- Nothing is listed where no statement is. -/
theorem World.Consistent.removeStatement_connection
    {w : World E}
    (hConsistent : w.Consistent)
    {c : ConnectionId}
    (hOther : ∀ r, w.statements.get? p = some r →
      r.connection ≠ some c) :
    (w.connection c).removeStatement p = w.connection c := by
  unfold World.connection
  cases hFound : w.connections.get? c with
  | none => rfl
  | some conn =>
      have hAbsent : p ∉ conn.statements := by
        intro hListed
        rcases ((hConsistent.statements c conn hFound).2 p).mp
          hListed with ⟨r, hThere, _, hOwner⟩
        exact hOther r hThere hOwner
      have hKept :
          conn.statements.filter (· ≠ p) =
            conn.statements := by
        apply List.filter_eq_self.mpr
        intro q hMember
        apply decide_eq_true
        rintro rfl
        exact hAbsent hMember
      simp only [Option.getD_some,
        Connection.removeStatement, hKept]

namespace Session.Moves

/- What stays in the two slots if nothing is moved. -/
theorem slots
    (hMoves : s.Moves a b op base)
    (hConsistent : s.world.Consistent)
    (hSlots : a ≠ b) :
    base.world.statements.get? (.slot a) =
        s.world.statements.get? (.slot a) ∧
      base.world.statements.get? (.slot b) = none := by
  cases hMoves with
  | construct hFree => exact ⟨rfl, hFree⟩
  | assign hTarget =>
      rcases Option.ne_none_iff_exists'.mp hTarget with
        ⟨r, hFound⟩
      rw [run_dropStatement hTarget]
      rw [(Statement.destroy_tables hConsistent hFound).1]
      simp [hSlots]

/- Connections list the same, less what is moved over. -/
theorem connection
    (hMoves : s.Moves a b op base)
    (hConsistent : s.world.Consistent)
    (c : ConnectionId) :
    base.world.connection c =
      (s.world.connection c).removeStatement (.slot b) := by
  cases hMoves with
  | construct hFree =>
      apply Eq.symm
      apply hConsistent.removeStatement_connection
      intro r hFound
      rw [hFree] at hFound
      cases hFound
  | assign hTarget =>
      rcases Option.ne_none_iff_exists'.mp hTarget with
        ⟨r, hFound⟩
      have hTables :=
        Statement.destroy_tables hConsistent hFound
      rw [run_dropStatement hTarget]
      unfold World.connection
      rw [hTables.2]
      by_cases hOwner : r.connection = some c
      · rw [hOwner]
        simp only [Table.modify?, Table.get?_modify, if_true]
        cases s.world.connections.get? c <;> rfl
      · rw [Table.get?_modify?_of_ne hOwner]
        apply Eq.symm
        apply hConsistent.removeStatement_connection
        intro r' hFound'
        rw [hFound] at hFound'
        cases hFound'
        exact hOwner

end Session.Moves

end Without

------------------------------------------------------------
-- What Cannot Be Observed
------------------------------------------------------------

/-
  Whether sessions are alike but for the slots of statements:
  they have made the same calls and written the same lines,
  the same rows are current, and equally many statements are
  live on each connection.
-/
structure Session.Indistinct
    (m : Mirror)
    (s s' : Session E) : Prop extends s.Mirrors m s' where
  calls : s'.world.trace = s.world.trace
  current : ∀ r, s'.world.isCurrent r = s.world.isCurrent r
  live : ∀ c,
    (s'.world.connection c).statements.length =
      (s.world.connection c).statements.length

theorem Session.Mirrors.indistinct
    {m : Mirror}
    {s s' : Session E}
    (hMirrors : s.Mirrors m s') :
    s.Indistinct m s' where
  toMirrors := hMirrors
  calls := hMirrors.world.trace
  current := hMirrors.world.isCurrent
  live c := (hMirrors.world.connection c).count

/-
  Carry out operations on the images of their slots.  The
  order of places is that of what they are images of.
-/
def Session.runImagesBy
    (order : Place → Nat)
    (m : Mirror)
    (s : Session E)
    (ops : List Operation) :
    List (Except Failure Reply) × Session E :=
  s.runAllBy (fun p => order (m.place p))
    (ops.map (·.onImages m.slot))

/-
  Whether operations on a session go like their images on
  another one: with the same replies, to sessions that cannot
  be told apart.
-/
structure Session.GoesAlike
    (order : Place → Nat)
    (m : Mirror)
    (s s' : Session E)
    (ops : List Operation) : Prop where
  replies :
    (s'.runImagesBy order m ops).1 =
      (s.runAllBy order ops).1
  indistinct :
    (s.runAllBy order ops).2.Indistinct m
      (s'.runImagesBy order m ops).2

section Leaving

variable {a b : Nat} {left : Option Statement} {r : Statement}
variable {s s' : Session E}

/- What is left of a statement may be taken away. -/
theorem Session.Mirrors.without
    (hMirrors : s.Mirrors (.swap a b left) s') :
    s.Mirrors (.swap a b none)
      { s' with
        world :=
          { s'.world with
            statements :=
              s'.world.statements.erase (.slot a) } } where
  log := hMirrors.log
  world :=
    { hMirrors.world with
      connections := by
        intro c
        have hPaired := hMirrors.world.connections c
        revert hPaired
        generalize s.world.connections.get? c = o
        generalize s'.world.connections.get? c = o'
        rintro (_ | ⟨h⟩)
        · exact .missing
        · exact .found { h with }
      anchors := { hMirrors.world.anchors with }
      statements :=
        { kept := by
            intro p hUses
            have hOther :
                (Mirror.swap a b none).place p ≠ .slot a := by
              have hTarget :
                  (Mirror.swap a b none).place (.slot b) =
                    .slot a :=
                Mirror.swap_target
              rw [← hTarget]
              exact fun hSame => Mirror.swap_uses_iff.mp hUses
                (Mirror.place_inj.mp hSame)
            rw [Table.get?_erase, if_neg hOther]
            exact hMirrors.world.statements.kept p hUses
          free := hMirrors.world.statements.free
          left := by
            intro n hSpare
            cases hSpare
            show Table.get? _
              ((Mirror.swap a b none).place (.slot b)) = none
            rw [Mirror.swap_target, Table.get?_erase,
              if_pos rfl] } }

/- What is left of a statement is left alone. -/
theorem Session.Mirrors.found
    (hMirrors : s.Mirrors (.swap a b (some r.emptied)) s') :
    s'.world.statements.get? (.slot a) = some r.emptied := by
  have hTarget :
      (Mirror.swap a b (some r.emptied)).place (.slot b) =
        .slot a :=
    Mirror.swap_target
  rw [← hTarget]
  exact hMirrors.world.statements.left b rfl

/- Destroying it neither calls the engine nor writes a line. -/
theorem Session.Mirrors.run_dropStatement
    (hMirrors : s.Mirrors (.swap a b (some r.emptied)) s') :
    s'.run (.dropStatement a) =
      (.ok .nothing,
        { s' with
          world :=
            { s'.world with
              statements :=
                s'.world.statements.erase (.slot a) } }) := by
  rw [Moves.run_dropStatement (by simp [hMirrors.found]),
    Statement.destroy_of_finalized hMirrors.found rfl]
  rfl

/- Operations go alike where one slot stands for another. -/
theorem Session.Mirrors.goesAlike
    {order : Place → Nat}
    (hMirrors : s.Mirrors (.swap a b left) s')
    (hOrder : ∀ {p q}, order p = order q → p = q)
    {ops : List Operation}
    (hFresh : ∀ op ∈ ops, b ∉ op.statementSlots) :
    s.GoesAlike order (.swap a b left) s' ops := by
  rcases runAllBy_mirrors (fun _ _ hSame => hSame)
      (Mirror.swap_carries hOrder)
      hMirrors ops (fun op hMember n hNamed hSpare => by
        cases hSpare
        exact hFresh op hMember hNamed) with
    ⟨hReplies, hAfter⟩
  exact ⟨hReplies, hAfter.indistinct⟩

end Leaving

------------------------------------------------------------
-- Moving
------------------------------------------------------------

/-
  Whether a session has a finalized statement in a slot, and
  destroying it neither calls the engine nor writes a line.
-/
structure Session.LeavesBehind
    (s : Session E)
    (n : Nat)
    (left : Statement) : Prop where
  found : s.world.statements.get? (.slot n) = some left
  finalized : left.state = .finalized
  handle : left.handle = none
  dropped : (s.run (.dropStatement n)).1 = .ok .nothing
  calls :
    (s.run (.dropStatement n)).2.world.trace = s.world.trace
  lines : (s.run (.dropStatement n)).2.log = s.log

/-
  Whether the move from a slot to another one, which led from
  one session to another and left something behind, makes no
  difference to what would have been done without it:

    * `same`: the sessions cannot be told apart
    * `goesOn`: what is done next goes alike
    * `behind`: what is left behind is still there, finalized,
      and can be destroyed
    * `goesOnWithout`: what is done after that goes alike
-/
structure Session.Unobserved
    (a b : Nat)
    (left : Statement)
    (order : Place → Nat)
    (base moved : Session E)
    (next later : List Operation) : Prop where
  same : base.Indistinct (.swap a b (some left)) moved
  goesOn :
    base.GoesAlike order (.swap a b (some left)) moved next
  behind :
    (moved.runImagesBy order (.swap a b (some left))
      next).2.LeavesBehind a left
  goesOnWithout :
    (base.runAllBy order next).2.GoesAlike order
      (.swap a b none)
      ((moved.runImagesBy order (.swap a b (some left))
        next).2.run (.dropStatement a)).2
      later

section Moving

variable {a b : Nat} {r : Statement} {s base : Session E}
variable {move : Operation}

theorem Session.Mirrors.leavesBehind
    {s' : Session E}
    (hMirrors : s.Mirrors (.swap a b (some r.emptied)) s') :
    s'.LeavesBehind a r.emptied where
  found := hMirrors.found
  finalized := rfl
  handle := rfl
  dropped := by rw [hMirrors.run_dropStatement]
  calls := by rw [hMirrors.run_dropStatement]
  lines := by rw [hMirrors.run_dropStatement]

/- A session with a move mirrors the one without. -/
theorem Session.Moves.mirrors
    (hMoves : s.Moves a b move base)
    (hConsistent : s.world.Consistent)
    (hBase : base.world.Consistent)
    (hSlots : a ≠ b)
    (hSource : s.world.statements.get? (.slot a) = some r) :
    base.Mirrors (.swap a b (some r.emptied))
      (s.run move).2 := by
  rcases hMoves.slots hConsistent hSlots with ⟨hKept, hFree⟩
  rw [hMoves.run hSlots (by simp [hSource])]
  exact ⟨hBase.transfer_mirrors (hKept.trans hSource) hFree,
    rfl⟩

/- The session without the move is led to by operations. -/
theorem Session.Moves.consistent
    {engine : E.State}
    {patience : Nat}
    {log : Log}
    {before : List Operation}
    (hMoves : s.Moves a b move base)
    (hReached :
      s = ((start engine patience log).runAll before).2) :
    base.world.Consistent := by
  cases hMoves with
  | construct hFree =>
      rw [hReached]
      exact (reachable_sound engine patience log
        before).consistent rfl
  | assign hTarget =>
      have hLast := (reachable_sound engine patience log
        (before ++ [.dropStatement b])).consistent rfl
      rw [runAll_append, ← hReached] at hLast
      exact hLast

end Moving

namespace Session

/-
  A statement is moved in a session that operations have led
  to.  Whatever is done next, with the new object instead of
  the old one, goes as it would have gone without the move: it
  gives the same replies, and leaves a session that has made
  the same calls, has written the same lines and has the same
  objects.  Only a connection that is destroyed goes through
  its live statements in another order, that of their places.

  The old object is finalized.  It may be destroyed at any
  time, which is no call and no line, and what is done after
  that goes as it would have gone, too.
-/
theorem move_unobservable
    (engine : E.State)
    (patience : Nat)
    (log : Log)
    (before next later : List Operation)
    {a b : Nat}
    {move : Operation}
    {s base : Session E}
    {order : Place → Nat}
    (hReached :
      s = ((start engine patience log).runAll before).2)
    (hSource : s.world.statements.get? (.slot a) ≠ none)
    (hSlots : a ≠ b)
    (hMoves : s.Moves a b move base)
    (hFresh : ∀ op ∈ next ++ later, b ∉ op.statementSlots)
    (hOrder : ∀ {p q}, order p = order q → p = q) :
    (s.run move).1 = .ok .nothing ∧
      (∀ c,
        ((s.run move).2.world.connection
          c).statements.length =
            ((s.world.connection c).removeStatement
              (.slot b)).statements.length) ∧
      Unobserved a b (s.world.statement (.slot a)).emptied
        order base (s.run move).2 next later := by
  rcases Option.ne_none_iff_exists'.mp hSource with
    ⟨r, hFound⟩
  have hConsistent : s.world.Consistent := by
    rw [hReached]
    exact (reachable_sound engine patience log
      before).consistent rfl
  have hMirrors := hMoves.mirrors hConsistent
    (hMoves.consistent hReached) hSlots hFound
  have hNext := hMirrors.goesAlike hOrder fun op hMember =>
    hFresh op (List.mem_append_left later hMember)
  have hAfter := hNext.indistinct.toMirrors
  refine ⟨?_, fun c => ?_, ?_⟩
  · rw [hMoves.run hSlots hSource]
  · rw [hMirrors.indistinct.live,
      hMoves.connection hConsistent]
  · rw [World.statement_of_get? hFound]
    refine ⟨hMirrors.indistinct, hNext, hAfter.leavesBehind,
      ?_⟩
    rw [hAfter.run_dropStatement]
    exact hAfter.without.goesAlike hOrder fun op hMember =>
      hFresh op (List.mem_append_right next hMember)

/- A row is fetched from the statement of that engine. -/
def rowReached : Session Engine.scripted :=
  ((start oneRowEngine 100 {}).runAll
    (oneRowSetup ++ [.fetch 0 0])).2

/- Ask for the row before and after the statement goes on. -/
def rowAsked : List Operation :=
  [.row 0 .isCurrent, .statement 0 .next, .row 0 .isCurrent]

/- The statement on the row is moved, and nobody can tell. -/
theorem move_unobservable_row :
    rowReached.world.statements.get? (.slot 0) ≠ none ∧
      rowReached.world.statements.get? (.slot 1) =
        none ∧
      Unobserved 0 1
        (rowReached.world.statement (.slot 0)).emptied
        Place.rank rowReached
        (rowReached.run (.moveStatement 0 1)).2
        rowAsked
        [.dropStatement 0, .dropConnection 0] := by
  have hSource :
      rowReached.world.statements.get? (.slot 0) ≠
        none := by
    decide +kernel
  have hFree :
      rowReached.world.statements.get? (.slot 1) =
        none := by
    decide +kernel
  have hUnobserved := @move_unobservable Engine.scripted
    oneRowEngine 100 {} (oneRowSetup ++ [.fetch 0 0])
    rowAsked [.dropStatement 0, .dropConnection 0] 0 1
    (.moveStatement 0 1) rowReached rowReached
    Place.rank
  exact ⟨hSource, hFree,
    (hUnobserved rfl hSource Nat.zero_ne_one
      (.construct hFree) (by decide) Place.rank_inj).2.2⟩

end Session

end SqliteAccess
