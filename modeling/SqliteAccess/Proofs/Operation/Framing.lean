import SqliteAccess.Proofs.Operation.Moving
import SqliteAccess.Proofs.Operation.Sparing

/-
  The frame of every operation.

  An operation changes the objects that it names, and what is
  lost together with a connection that it destroys.  Every
  other object is as before.  The statements that connections
  list change for one connection at most, except where a
  statement of one connection is moved over one of another.

  Key definitions include:
    * `Session.Relists`
    * `Session.Exchanges`
    * `Session.Transfers`
    * `Session.Framed`

  The frame is characterized by:
    * `Session.relists_cases`
    * `Session.relists_single`
    * `Session.operation_frame`
-/

namespace SqliteAccess

variable {E : Engine}

------------------------------------------------------------
-- Frames
------------------------------------------------------------

namespace Session

/-
  Whether an operation changes the set of the statements that
  a connection lists.  One that is not there lists nothing.
-/
def Relists
    (s : Session E)
    (op : Operation)
    (c : ConnectionId) : Prop :=
  ¬ ∀ p, p ∈ ((s.after op).connection c).statements ↔
    p ∈ (s.world.connection c).statements

/-
  Whether an operation takes a statement of one connection
  from its place to that of a statement of another one: the
  first lists it at its new place, and the second does not
  list that place any more.
-/
structure Exchanges
    (s : Session E)
    (op : Operation)
    (source target : Place)
    (c d : ConnectionId) : Prop where
  gains : ∀ p,
    p ∈ ((s.after op).connection c).statements ↔
      p = target ∨
        p ∈ (s.world.connection c).statements ∧ p ≠ source
  loses : ∀ p,
    p ∈ ((s.after op).connection d).statements ↔
      p ∈ (s.world.connection d).statements ∧ p ≠ target

end Session

namespace Operation

/-
  Where an operation moves a statement from, and over which
  one.  A statement that is prepared to be moved is in the
  scratch place until then.
-/
def assigns? : Operation → Option (Place × Place)
  | assignStatement source target =>
      some (.slot source, .slot target)
  | assignPrepared _ s _ => some (.scratch, .slot s)
  | _ => none

/- The slot in which an operation makes a new statement. -/
def fills? : Operation → Option Nat
  | prepare _ s _ => some s
  | moveStatement _ target => some target
  | prepareSerialized _ s _ => some s
  | _ => none

end Operation

/-
  Whether an operation that makes a statement in a slot is
  two: the old one is destroyed, and the new one is made in
  the slot that is free then.
-/
structure Session.Refills
    (s : Session E)
    (op : Operation)
    (n : Nat) : Prop where
  fills : op.fills? = some n
  free :
    (s.run (.dropStatement n)).2.world.statements.get?
      (.slot n) = none
  same : s.run op = (s.run (.dropStatement n)).2.run op

/-
  What an operation leaves alone:

    * `statements`, `backups`: a statement or a backup that it
      does not name, unless a connection is destroyed on which
      that is live
    * `transactions`, `savepoints`: a guard that it does not
      name
    * `connections`: whether a connection that it does not
      concern is open, which statements that lists, and which
      backups, except for those whose other connection is
      destroyed
    * `single`: which statements are listed by all connections
      but one, unless a statement of one connection is moved
      over one of another, or a slot is filled again, which
      counts as two operations
    * `assigned`: in such a move, all that is listed but for
      the statements at the two places
-/
structure Session.Framed
    (s : Session E)
    (op : Operation) : Prop where
  statements : ∀ n, .statement n ∉ op.names →
    (∀ c, LiveStatement s.world.statements (.slot n) c →
      ¬ s.Destroys op c) →
    (s.after op).statements.get? (.slot n) =
      s.world.statements.get? (.slot n)
  transactions : ∀ n, .guard .transaction n ∉ op.names →
    (s.after op).transactions.get? (.slot n) =
      s.world.transactions.get? (.slot n)
  savepoints : ∀ n, .guard .savepoint n ∉ op.names →
    (s.after op).savepoints.get? (.slot n) =
      s.world.savepoints.get? (.slot n)
  backups : ∀ n, .backup n ∉ op.names →
    (∀ c, LiveBackup s.world.backups (.slot n) c →
      ¬ s.Destroys op c) →
    (s.after op).backups.get? (.slot n) =
      s.world.backups.get? (.slot n)
  connections : ∀ c conn,
    s.world.connections.get? c = some conn →
    ¬ s.Concerns op c →
      ∃ conn',
        (s.after op).connections.get? c = some conn' ∧
        conn'.handle = conn.handle ∧
        (∀ p, p ∈ conn'.statements ↔ p ∈ conn.statements) ∧
        ∀ p, p ∈ conn'.backups ↔ p ∈ conn.backups ∧
          ∀ d, LiveBackup s.world.backups p d →
            ¬ s.Destroys op d
  single : ∀ c d, c ≠ d → s.Relists op c → s.Relists op d →
    (∃ source target, op.assigns? = some (source, target) ∧
      (s.Exchanges op source target c d ∨
        s.Exchanges op source target d c)) ∨
    ∃ n, s.Refills op n ∧
      (LiveStatement s.world.statements (.slot n) c ∨
        LiveStatement s.world.statements (.slot n) d)
  assigned : ∀ source target c d,
    op.assigns? = some (source, target) → c ≠ d →
    LiveStatement s.world.statements source c →
    LiveStatement s.world.statements target d →
      s.Exchanges op source target c d

------------------------------------------------------------
-- Statements That Are Listed Anew
------------------------------------------------------------

namespace Session

variable {s : Session E} {h : List StatementHandle}
variable {op : Operation} {c d : ConnectionId}

/-
  If the statements that a connection lists change, it is
  destroyed, or a slot that is named changes hands.
-/
theorem relists_cases
    (hSound : Sound (s.rest h))
    (hRelists : s.Relists op c) :
    s.Destroys op c ∨
      ∃ n, .statement n ∈ op.names ∧
        ¬ (LiveStatement (s.after op).statements (.slot n) c ↔
          LiveStatement s.world.statements (.slot n) c) := by
  rcases Classical.not_forall.mp hRelists with ⟨p, hChanges⟩
  rw [listed_after_iff op hSound, listed_iff hSound] at hChanges
  cases p with
  | scratch =>
      exact absurd (iff_of_false
        ((after_sound hSound).not_live_scratch rfl)
        (hSound.not_live_scratch rfl)) hChanges
  | slot n =>
      rcases statement_cases op hSound n with
        hSame | hNamed | ⟨hEnded, d, hGone, hLive⟩
      · unfold LiveStatement at hChanges
        rw [hSame] at hChanges
        exact absurd Iff.rfl hChanges
      · exact .inr ⟨n, hNamed, hChanges⟩
      · have hNot := World.not_live_of_ended hEnded c
        have hLive' : LiveStatement s.world.statements
            (.slot n) c :=
          Classical.byContradiction fun hNone =>
            hChanges (iff_of_false hNot hNone)
        cases hLive.unique hLive'
        exact .inl hGone

section Renewed

variable {n : Nat}
variable (hSound : Sound (s.rest h))
variable (hNamed : .statement n ∈ op.names)
variable (hOnly : ∀ m, .statement m ∈ op.names → m = n)

include hSound hNamed hOnly

/- All but the one slot that is named is as before. -/
theorem live_elsewhere
    {p : Place}
    (hPlace : p ≠ .slot n) :
    LiveStatement (s.after op).statements p c ↔
      LiveStatement s.world.statements p c := by
  cases p with
  | scratch =>
      exact iff_of_false
        ((after_sound hSound).not_live_scratch rfl)
        (hSound.not_live_scratch rfl)
  | slot m =>
      rcases statement_cases op hSound m with
        hSame | hNamed' | ⟨_, d, hGone, _⟩
      · unfold LiveStatement
        rw [hSame]
      · exact absurd (congrArg _ (hOnly m hNamed')) hPlace
      · exact absurd (mayEnd_of_destroys hSound hGone).1
          ((Operation.spares_of_named hNamed).2 d)

/- What is new in the slot was made for its connection. -/
theorem mayEnlist_of_new
    (hLive :
      LiveStatement (s.after op).statements (.slot n) c)
    (hNew :
      ¬ LiveStatement s.world.statements (.slot n) c) :
    op.mayEnlist s.world c := by
  rcases named_before hSound hNamed hLive with
    hMay | ⟨m, hNamed', hBefore⟩
  · exact hMay
  · cases hOnly m hNamed'
    exact absurd hBefore hNew

/- A slot that changes hands is left by one connection. -/
theorem renewed_cases
    (hOther : c ≠ d)
    (hFirst :
      ¬ (LiveStatement (s.after op).statements (.slot n) c ↔
        LiveStatement s.world.statements (.slot n) c))
    (hSecond :
      ¬ (LiveStatement (s.after op).statements (.slot n) d ↔
        LiveStatement s.world.statements (.slot n) d)) :
    (LiveStatement s.world.statements (.slot n) d ∧
        LiveStatement (s.after op).statements (.slot n) c ∧
          op.mayEnlist s.world c) ∨
      LiveStatement s.world.statements (.slot n) c ∧
        LiveStatement (s.after op).statements (.slot n) d ∧
          op.mayEnlist s.world d := by
  by_cases hLive : LiveStatement s.world.statements (.slot n) c
  · have hNot : ¬ LiveStatement s.world.statements
        (.slot n) d := fun hLive' =>
      hOther (hLive.unique hLive')
    have hNew : LiveStatement (s.after op).statements
        (.slot n) d :=
      Classical.byContradiction fun hNone =>
        hSecond (iff_of_false hNone hNot)
    exact .inr ⟨hLive, hNew,
      mayEnlist_of_new hSound hNamed hOnly hNew hNot⟩
  · have hNew : LiveStatement (s.after op).statements
        (.slot n) c :=
      Classical.byContradiction fun hNone =>
        hFirst (iff_of_false hNone hLive)
    have hNot : ¬ LiveStatement (s.after op).statements
        (.slot n) d := fun hLive' =>
      hOther (hNew.unique hLive')
    have hLive' : LiveStatement s.world.statements
        (.slot n) d :=
      Classical.byContradiction fun hNone =>
        hSecond (iff_of_false hNot hNone)
    exact .inl ⟨hLive', hNew,
      mayEnlist_of_new hSound hNamed hOnly hNew hLive⟩

/- A temporary statement has taken the slot of another. -/
theorem exchanges_of_renewed
    (hOther : c ≠ d)
    (hNew :
      LiveStatement (s.after op).statements (.slot n) c) :
    s.Exchanges op .scratch (.slot n) c d := by
  constructor
  · intro p
    rw [listed_after_iff op hSound, listed_iff hSound]
    by_cases hPlace : p = .slot n
    · simp [hPlace, hNew]
    · rw [live_elsewhere hSound hNamed hOnly hPlace]
      have hSlot : LiveStatement s.world.statements p c →
          p ≠ .scratch := by
        rintro hLive rfl
        exact hSound.not_live_scratch rfl hLive
      simpa [hPlace] using hSlot
  · intro p
    rw [listed_after_iff op hSound, listed_iff hSound]
    by_cases hPlace : p = .slot n
    · have hNot : ¬ LiveStatement (s.after op).statements
          (.slot n) d := fun hLive =>
        hOther (hNew.unique hLive)
      simp [hPlace, hNot]
    · rw [live_elsewhere hSound hNamed hOnly hPlace]
      simp [hPlace]

end Renewed

------------------------------------------------------------
-- Statements That Are Moved
------------------------------------------------------------

section Moved

variable {a b : Nat} {base : Session E} {r : Statement}
variable {p : Place}

/- Where statements are live after one of them was moved. -/
theorem live_of_transfer
    {w : World E}
    (hSlots : a ≠ b)
    (hSource : w.statements.get? (.slot a) = some r) :
    LiveStatement
        (Statement.transfer (.slot a) (.slot b) w).statements
        p c ↔
      p = .slot b ∧ LiveStatement w.statements (.slot a) c ∨
        p ≠ .slot a ∧ p ≠ .slot b ∧
          LiveStatement w.statements p c := by
  rw [Statement.transfer_eq, World.statement_of_get? hSource]
  simp only [liveStatement_put]
  have hLeft : ¬ r.emptied.IsLiveOn c :=
    Statement.not_isLiveOn rfl
  rw [← liveStatement_of_get? hSource]
  by_cases hPlace : p = .slot a
  · simp [hPlace, hLeft, hSlots]
  · by_cases hTarget : p = .slot b
    · simp [hTarget, Ne.symm hSlots]
    · simp [hPlace, hTarget]

/-
  Whether an operation leaves statements live where they were,
  but for one that it moves over another one.
-/
def Transfers
    (s : Session E)
    (op : Operation)
    (a b : Nat) : Prop :=
  ∀ p c, LiveStatement (s.after op).statements p c ↔
    p = .slot b ∧
        LiveStatement s.world.statements (.slot a) c ∨
      p ≠ .slot a ∧ p ≠ .slot b ∧
        LiveStatement s.world.statements p c

/- What is destroyed for a move was live in its slot only. -/
theorem live_of_base
    (hSound : Sound (s.rest h))
    (hMoves : s.Moves a b op base)
    (hPlace : p ≠ .slot b) :
    LiveStatement base.world.statements p c ↔
      LiveStatement s.world.statements p c := by
  cases hMoves with
  | construct => exact Iff.rfl
  | assign hThere =>
      rcases Option.ne_none_iff_exists'.mp hThere with
        ⟨x, hFound⟩
      rw [Moves.run_dropStatement hThere,
        (Statement.destroy_tables (hSound.consistent rfl)
          hFound).1, liveStatement_erase]
      exact and_iff_right hPlace

theorem transfers_of_moves
    (hSound : Sound (s.rest h))
    (hMoves : s.Moves a b op base)
    (hSlots : a ≠ b)
    (hSource :
      s.world.statements.get? (.slot a) = some r) :
    s.Transfers op a b := by
  intro p c
  have hConsistent := hSound.consistent rfl
  have hPlaces : Place.slot a ≠ .slot b :=
    fun hSame => hSlots (Place.slot.inj hSame)
  have hBase :
      base.world.statements.get? (.slot a) = some r :=
    (hMoves.slots hConsistent hSlots).1.trans hSource
  unfold after
  rw [hMoves.run hSlots (by simp [hSource]),
    live_of_transfer hSlots hBase,
    live_of_base hSound hMoves hPlaces]
  by_cases hPlace : p = .slot b
  · simp [hPlace]
  · rw [live_of_base hSound hMoves hPlace]

/- A statement of one connection was moved over another's. -/
theorem exchanges_of_transfers
    (hSound : Sound (s.rest h))
    (hTransfers : s.Transfers op a b)
    (hOther : c ≠ d)
    (hSource :
      LiveStatement s.world.statements (.slot a) c) :
    s.Exchanges op (.slot a) (.slot b) c d := by
  have hNotSource : ¬ LiveStatement s.world.statements
      (.slot a) d := fun hLive => hOther (hSource.unique hLive)
  constructor
  · intro p
    rw [listed_after_iff op hSound, listed_iff hSound,
      hTransfers]
    by_cases hPlace : p = .slot b
    · simp [hPlace, hSource]
    · simp [hPlace, and_comm]
  · intro p
    rw [listed_after_iff op hSound, listed_iff hSound,
      hTransfers]
    by_cases hPlace : p = .slot a
    · simp [hPlace, hNotSource]
    · simp [hPlace, hNotSource, and_comm]

/- Only the owners of the two slots list anything anew. -/
theorem owner_of_transfers
    (hSound : Sound (s.rest h))
    (hTransfers : s.Transfers op a b)
    (hRelists : s.Relists op c) :
    LiveStatement s.world.statements (.slot a) c ∨
      LiveStatement s.world.statements (.slot b) c := by
  apply Classical.byContradiction
  intro hNeither
  rcases not_or.mp hNeither with ⟨hNotSource, hNotTarget⟩
  apply hRelists
  intro p
  rw [listed_after_iff op hSound, listed_iff hSound, hTransfers]
  by_cases hPlace : p = .slot a
  · simp [hPlace, hNotSource]
  · by_cases hTarget : p = .slot b
    · simp [hTarget, hNotSource, hNotTarget]
    · simp [hPlace, hTarget]

/- If both list something anew, each owns one of the slots. -/
theorem owners_of_transfers
    (hSound : Sound (s.rest h))
    (hTransfers : s.Transfers op a b)
    (hOther : c ≠ d)
    (hFirst : s.Relists op c)
    (hSecond : s.Relists op d) :
    LiveStatement s.world.statements (.slot a) c ∧
        LiveStatement s.world.statements (.slot b) d ∨
      LiveStatement s.world.statements (.slot b) c ∧
        LiveStatement s.world.statements (.slot a) d := by
  rcases owner_of_transfers hSound hTransfers hFirst with
    hLive | hLive
  · rcases owner_of_transfers hSound hTransfers hSecond with
      hLive' | hLive'
    · exact absurd (hLive.unique hLive') hOther
    · exact .inl ⟨hLive, hLive'⟩
  · rcases owner_of_transfers hSound hTransfers hSecond with
      hLive' | hLive'
    · exact .inr ⟨hLive, hLive'⟩
    · exact absurd (hLive.unique hLive') hOther

/- What changes nothing lists nothing anew. -/
theorem not_relists
    (hSame : (s.run op).2 = s) :
    ¬ s.Relists op c := by
  intro hRelists
  apply hRelists
  intro p
  unfold after
  rw [hSame]

end Moved

------------------------------------------------------------
-- Slots That Are Filled Again
------------------------------------------------------------

section Refilled

variable {n : Nat}
variable (hSound : Sound (s.rest h))
variable (hFound : s.world.statements.get? (.slot n) ≠ none)

include hSound hFound

/- What destroying a statement leaves. -/
theorem dropStatement_tables :
    (s.run (.dropStatement n)).2 =
        (Statement.destroy (.slot n) s).2 ∧
      (s.run (.dropStatement n)).2.world.statements =
        s.world.statements.erase (.slot n) ∧
      (s.run (.dropStatement n)).2.world.plain =
        s.world.plain ∧
      (s.run (.dropStatement n)).2.world.serialized =
        s.world.serialized := by
  have hRun := Moves.run_dropStatement hFound
  have hKept := (Statement.destroy_affects
    (A := fun _ => False) (.slot n) s).keeps_connections id
  rcases Option.ne_none_iff_exists'.mp hFound with ⟨x, hSome⟩
  have hTables := Statement.destroy_tables
    (hSound.consistent rfl) hSome
  rw [hRun]
  exact ⟨rfl, hTables.1, hKept.plain, hKept.serialized⟩

theorem free_of_dropStatement :
    (s.run (.dropStatement n)).2.world.statements.get?
      (.slot n) = none := by
  rw [(dropStatement_tables hSound hFound).2.1]
  simp

/- What destroys a statement first may find it gone. -/
theorem destroyed_first
    {α : Type}
    (k : Unit → Attempt E α) :
    (Attempt.lift (Statement.destroy (.slot n)) >>= k).run s =
      (Attempt.lift (Statement.destroy (.slot n)) >>= k).run
        (s.run (.dropStatement n)).2 := by
  have hDropped := (dropStatement_tables hSound hFound).1
  have hFree := free_of_dropStatement hSound hFound
  rw [Attempt.run_bind_of_ok (Attempt.run_lift _ s),
    Attempt.run_bind_of_ok (Attempt.run_lift _ _),
    Statement.destroy_of_free hFree, hDropped]

/-
  What is made in an occupied slot could be made after the old
  statement was destroyed.
-/
theorem prepareIn_refilled
    {f : World E → Option ConnectionId}
    {sql : Bytes}
    (hSlot : f s.world = some c)
    (hKept :
      f (s.run (.dropStatement n)).2.world = f s.world) :
    (Operation.needed (Quiet.read f) >>= fun id =>
        Reply.after (Operation.prepareIn id n sql)).run s =
      (Operation.needed (Quiet.read f) >>= fun id =>
        Reply.after (Operation.prepareIn id n sql)).run
          (s.run (.dropStatement n)).2 := by
  have hSame : (Operation.prepareIn c n sql).run s =
      (Operation.prepareIn c n sql).run
        (s.run (.dropStatement n)).2 :=
    destroyed_first hSound hFound _
  rw [Attempt.run_bind_of_ok (Operation.run_needed hSlot),
    Attempt.run_bind_of_ok
      (Operation.run_needed (hKept.trans hSlot))]
  unfold Reply.after
  rw [Attempt.run_bind, Attempt.run_bind, hSame]

theorem prepare_refilled
    {m : Nat}
    {sql : Bytes}
    (hSlot : s.world.plain.get? m = some c) :
    s.run (.prepare m n sql) =
      (s.run (.dropStatement n)).2.run (.prepare m n sql) := by
  apply prepareIn_refilled (f := (·.plain.get? m)) hSound
    hFound hSlot
  rw [(dropStatement_tables hSound hFound).2.2.1]

theorem prepareSerialized_refilled
    {z : Nat}
    {sql : Bytes}
    (hSlot : s.world.serialized.get? z = some c) :
    s.run (.prepareSerialized z n sql) =
      (s.run (.dropStatement n)).2.run
        (.prepareSerialized z n sql) := by
  apply prepareIn_refilled (f := (·.serialized.get? z)) hSound
    hFound hSlot
  rw [(dropStatement_tables hSound hFound).2.2.2]

theorem moveStatement_refilled
    {a : Nat}
    (hSlots : a ≠ n)
    (hSource : s.world.statements.get? (.slot a) ≠ none) :
    s.run (.moveStatement a n) =
      (s.run (.dropStatement n)).2.run
        (.moveStatement a n) := by
  have hRun : ∀ t : Session E,
      t.world.statements.get? (.slot a) ≠ none →
        t.run (.moveStatement a n) =
          (Attempt.lift (Statement.destroy (.slot n)) >>=
            fun _ => Attempt.lift
              (Statement.move (.slot a) (.slot n)) >>=
                fun _ => pure Reply.nothing).run t := by
    intro t hThere
    show (Operation.relocate Operation.statementIn
      Statement.destroy Statement.move a n).run t = _
    unfold Operation.relocate
    rw [Attempt.run_bind_of_ok (Moves.run_statementIn hThere),
      if_pos hSlots]
  rcases dropStatement_tables hSound hFound with
    ⟨_, hStatements, _, _⟩
  have hSource' :
      (s.run (.dropStatement n)).2.world.statements.get?
        (.slot a) ≠ none := by
    rw [hStatements]
    simpa [hSlots] using hSource
  rw [hRun s hSource, hRun _ hSource']
  exact destroyed_first hSound hFound _

end Refilled

------------------------------------------------------------
-- Sets of Statements
------------------------------------------------------------

section Single

variable {a b n : Nat}

/- A slot without a statement is not found. -/
theorem run_statementIn_of_none
    (hMissing : s.world.statements.get? (.slot n) = none) :
    (Operation.statementIn n).run s =
      (.error .noObject, s) := by
  unfold Operation.statementIn
  rw [Operation.run_occupied, if_neg]
  simp [Table.contains, hMissing]

/- A statement is moved if it is there, and elsewhere. -/
theorem moved_of_relists
    (hRelists : s.Relists (.moveStatement a b) c) :
    a ≠ b ∧ s.world.statements.get? (.slot a) ≠ none := by
  have hThere : s.world.statements.get? (.slot a) ≠ none := by
    intro hMissing
    refine not_relists ?_ hRelists
    unfold run Operation.perform Operation.relocate
    rw [Attempt.run_bind_of_error
      (run_statementIn_of_none hMissing)]
  refine ⟨?_, hThere⟩
  rintro rfl
  refine not_relists ?_ hRelists
  unfold run Operation.perform Operation.relocate
  rw [Attempt.run_bind_of_ok (Moves.run_statementIn hThere),
    if_neg (by simp)]
  rfl

/- It is moved over another one if that is there as well. -/
theorem assigned_of_relists
    (hRelists : s.Relists (.assignStatement a b) c) :
    a ≠ b ∧ s.world.statements.get? (.slot a) ≠ none ∧
      s.world.statements.get? (.slot b) ≠ none := by
  have hTarget : s.world.statements.get? (.slot b) ≠ none := by
    intro hMissing
    refine not_relists ?_ hRelists
    unfold run Operation.perform Operation.overwrite
    rw [Attempt.run_bind_of_error
      (run_statementIn_of_none hMissing)]
  have hSource : s.world.statements.get? (.slot a) ≠ none := by
    intro hMissing
    refine not_relists ?_ hRelists
    unfold run Operation.perform Operation.overwrite
    rw [Attempt.run_bind_of_ok (Moves.run_statementIn hTarget),
      Attempt.run_bind_of_error
        (run_statementIn_of_none hMissing)]
  refine ⟨?_, hSource, hTarget⟩
  rintro rfl
  refine not_relists ?_ hRelists
  unfold run Operation.perform Operation.overwrite
  rw [Attempt.run_bind_of_ok (Moves.run_statementIn hTarget),
    Attempt.run_bind_of_ok (Moves.run_statementIn hTarget)]
  unfold Statement.assign
  rw [if_pos rfl]
  rfl

/- A statement that is moved to a slot is not listed before. -/
theorem transfers_of_moveStatement
    (hSound : Sound (s.rest h))
    (hSlots : a ≠ b)
    (hSource :
      s.world.statements.get? (.slot a) ≠ none) :
    s.Transfers (.moveStatement a b) a b := by
  rcases Option.ne_none_iff_exists'.mp hSource with
    ⟨x, hSome⟩
  by_cases hFree : s.world.statements.get? (.slot b) = none
  · exact transfers_of_moves hSound (.construct hFree) hSlots
      hSome
  · rcases dropStatement_tables hSound hFree with
      ⟨_, hStatements, _, _⟩
    have hDropped := (run_steps (.dropStatement b)
      hSound).sound hSound
    have hTransfers := transfers_of_moves hDropped
      (.construct (a := a) (free_of_dropStatement hSound hFree))
      hSlots (r := x)
      (by rw [hStatements]; simpa [hSlots] using hSome)
    intro p c
    have hIff := hTransfers p c
    have hSame : (s.run (.dropStatement b)).2.after
        (.moveStatement a b) = s.after (.moveStatement a b) := by
      unfold after
      rw [← moveStatement_refilled hSound hFree hSlots hSource]
    rw [hSame, hStatements] at hIff
    rw [hIff, liveStatement_erase, liveStatement_erase]
    by_cases hPlace : p = .slot b
    · simp [hPlace, hSlots]
    · simp [hPlace]

/-
  A slot that has got a statement of another connection was
  filled again, or a temporary statement was moved there.
-/
theorem cases_of_renewed
    (hSound : Sound (s.rest h))
    (hNamed : .statement n ∈ op.names)
    (hOnly : ∀ m, .statement m ∈ op.names → m = n)
    (hOther : c ≠ d)
    (hOld : LiveStatement s.world.statements (.slot n) d)
    (hNew :
      LiveStatement (s.after op).statements (.slot n) c)
    (hMay : op.mayEnlist s.world c) :
    op.assigns? = some (.scratch, .slot n) ∧
        s.Exchanges op .scratch (.slot n) c d ∨
      s.Refills op n := by
  have hFound :
      s.world.statements.get? (.slot n) ≠ none := by
    rcases hOld with ⟨x, hSome, _⟩
    simp [hSome]
  have hFree := free_of_dropStatement hSound hFound
  cases op with
  | prepare m k sql =>
      cases hOnly k (by simp [Operation.names])
      exact .inr ⟨rfl, hFree,
        prepare_refilled hSound hFound hMay⟩
  | prepareSerialized z k sql =>
      cases hOnly k (by simp [Operation.names])
      exact .inr ⟨rfl, hFree,
        prepareSerialized_refilled hSound hFound hMay⟩
  | assignPrepared m k sql =>
      cases hOnly k (by simp [Operation.names])
      exact .inl ⟨rfl, exchanges_of_renewed hSound hNamed
        hOnly hOther hNew⟩
  | startBackup => simp [Operation.names] at hNamed
  | _ => exact absurd hMay id

/- A statement that is moved to a slot refills that. -/
theorem refills_of_moved
    (hSound : Sound (s.rest h))
    (hOther : c ≠ d)
    (hFirst : s.Relists (.moveStatement a b) c)
    (hSecond : s.Relists (.moveStatement a b) d) :
    s.Refills (.moveStatement a b) b ∧
      (LiveStatement s.world.statements (.slot b) c ∨
        LiveStatement s.world.statements (.slot b) d) := by
  rcases moved_of_relists hFirst with ⟨hSlots, hSource⟩
  have hOwner : LiveStatement s.world.statements (.slot b) c ∨
      LiveStatement s.world.statements (.slot b) d :=
    (owners_of_transfers hSound
      (transfers_of_moveStatement hSound hSlots hSource)
      hOther hFirst hSecond).symm.imp And.left And.right
  have hTarget : s.world.statements.get? (.slot b) ≠ none := by
    rcases hOwner with ⟨x, hSome, _⟩ | ⟨x, hSome, _⟩
    · simp [hSome]
    · simp [hSome]
  exact
    ⟨⟨rfl, free_of_dropStatement hSound hTarget,
      moveStatement_refilled hSound hTarget hSlots hSource⟩,
     hOwner⟩

/- One that is moved over another one takes its place. -/
theorem exchanges_of_assigned
    (hSound : Sound (s.rest h))
    (hOther : c ≠ d)
    (hFirst : s.Relists (.assignStatement a b) c)
    (hSecond : s.Relists (.assignStatement a b) d) :
    s.Exchanges (.assignStatement a b) (.slot a) (.slot b) c
        d ∨
      s.Exchanges (.assignStatement a b) (.slot a) (.slot b) d
        c := by
  rcases assigned_of_relists hFirst with
    ⟨hSlots, hSource, hTarget⟩
  rcases Option.ne_none_iff_exists'.mp hSource with
    ⟨x, hSome⟩
  have hTransfers := transfers_of_moves hSound
    (.assign hTarget) hSlots hSome
  rcases owners_of_transfers hSound hTransfers hOther hFirst
    hSecond with ⟨hLive, _⟩ | ⟨_, hLive⟩
  · exact .inl (exchanges_of_transfers hSound hTransfers
      hOther hLive)
  · exact .inr (exchanges_of_transfers hSound hTransfers
      hOther.symm hLive)

/-
  Two connections do not list other statements unless one of
  theirs is moved over the other's, or an occupied slot is
  filled again.
-/
theorem relists_single
    (hSound : Sound (s.rest h))
    (hOther : c ≠ d)
    (hFirst : s.Relists op c)
    (hSecond : s.Relists op d) :
    (∃ source target, op.assigns? = some (source, target) ∧
      (s.Exchanges op source target c d ∨
        s.Exchanges op source target d c)) ∨
    ∃ n, s.Refills op n ∧
      (LiveStatement s.world.statements (.slot n) c ∨
        LiveStatement s.world.statements (.slot n) d) := by
  have hMixed : ∀ {e n}, s.Destroys op e →
      .statement n ∉ op.names := fun hGone hNamed =>
    (Operation.spares_of_named hNamed).2 _
      (mayEnd_of_destroys hSound hGone).1
  rcases relists_cases hSound hFirst with
    hGone | ⟨n, hNamed, hChanges⟩
  case inl =>
    rcases relists_cases hSound hSecond with
      hGone' | ⟨m, hNamed', _⟩
    · have hMay := mayEnd_of_destroys hSound hGone
      have hMay' := mayEnd_of_destroys hSound hGone'
      exact absurd (Operation.mayEnd_unique hMay.1 hMay'.1
        hMay.2 hMay'.2) hOther
    · exact absurd hNamed' (hMixed hGone)
  rcases relists_cases hSound hSecond with
    hGone' | ⟨m, hNamed', hChanges'⟩
  case inl => exact absurd hNamed (hMixed hGone')
  rcases Operation.named_cases hNamed with
    ⟨a, b, rfl⟩ | ⟨a, b, rfl⟩ | hOnly
  · exact .inr ⟨b,
      refills_of_moved hSound hOther hFirst hSecond⟩
  · exact .inl ⟨_, _, rfl,
      exchanges_of_assigned hSound hOther hFirst hSecond⟩
  · cases hOnly m hNamed'
    rcases renewed_cases hSound hNamed hOnly hOther hChanges
      hChanges' with
      ⟨hOld, hNew, hMay⟩ | ⟨hOld, hNew, hMay⟩
    · rcases cases_of_renewed hSound hNamed hOnly hOther hOld
        hNew hMay with
        ⟨hAssigns, hExchanges⟩ | hRefills
      · exact .inl ⟨_, _, hAssigns, .inl hExchanges⟩
      · exact .inr ⟨_, hRefills, .inr hOld⟩
    · rcases cases_of_renewed hSound hNamed hOnly hOther.symm
        hOld hNew hMay with
        ⟨hAssigns, hExchanges⟩ | hRefills
      · exact .inl ⟨_, _, hAssigns, .inr hExchanges⟩
      · exact .inr ⟨_, hRefills, .inl hOld⟩

end Single

------------------------------------------------------------
-- The Frame
------------------------------------------------------------

/- Every operation on a session at rest is framed. -/
theorem framed_of_sound
    (op : Operation)
    (hSound : Sound (s.rest h)) :
    s.Framed op where
  statements n hOther hKept := by
    rcases statement_cases op hSound n with
      hSame | hNamed | ⟨_, c, hGone, hLive⟩
    · exact hSame
    · exact absurd hNamed hOther
    · exact absurd hGone (hKept c hLive)
  transactions n hOther :=
    (op.run_spares s).transactions (.slot n)
      (by simpa [Operation.mayAlter] using hOther)
  savepoints n hOther :=
    (op.run_spares s).savepoints (.slot n)
      (by simpa [Operation.mayAlter] using hOther)
  backups n hOther hKept := by
    rcases backup_cases op hSound n with
      hSame | hNamed | ⟨_, c, hGone, hLive⟩
    · exact hSame
    · exact absurd hNamed hOther
    · exact absurd hGone (hKept c hLive)
  connections c conn hConnection hOther := by
    rcases keeps_connection hSound hConnection hOther with
      ⟨conn', hKept, hHandle⟩
    refine ⟨conn', hKept, hHandle, fun p => ?_, fun p => ?_⟩
    · have hBefore := listed_iff hSound c p
      have hAfter := listed_after_iff op hSound c p
      rw [World.connection_of_get? hConnection] at hBefore
      rw [World.connection_of_get? hKept] at hAfter
      rw [hBefore, hAfter]
      exact statements_of_other hSound hOther
        (by simp [hKept]) p
    · have hBefore : p ∈ conn.backups ↔
          LiveBackup s.world.backups p c :=
        hSound.mem_backups_iff rfl hConnection
      have hAfter : p ∈ conn'.backups ↔
          LiveBackup (s.after op).backups p c :=
        (after_sound hSound).mem_backups_iff rfl hKept
      rw [hBefore, hAfter]
      exact backups_of_other hSound hOther p
  single _ _ hOther hFirst hSecond :=
    relists_single hSound hOther hFirst hSecond
  assigned source target c d hAssigns hOther hSource
    hTarget := by
    cases op with
    | assignStatement a b =>
        cases hAssigns
        rcases hSource with ⟨x, hSome, hOn⟩
        have hSlots : a ≠ b := by
          rintro rfl
          exact hOther
            (LiveStatement.unique ⟨x, hSome, hOn⟩ hTarget)
        have hThere :
            s.world.statements.get? (.slot b) ≠ none := by
          rcases hTarget with ⟨y, hSome', _⟩
          simp [hSome']
        exact exchanges_of_transfers hSound
          (transfers_of_moves hSound (.assign hThere) hSlots
            hSome) hOther ⟨x, hSome, hOn⟩
    | assignPrepared m n sql =>
        cases hAssigns
        exact absurd hSource (hSound.not_live_scratch rfl)
    | _ => cases hAssigns

/-
  After any operations on any engine, an operation changes
  only what it names and what is lost with the connection that
  it destroys.
-/
theorem operation_frame
    (engine : E.State)
    (patience : Nat)
    (log : Log)
    (ops : List Operation)
    (op : Operation) :
    ((start engine patience log).runAll ops).2.Framed op :=
  framed_of_sound op
    (reachable_sound engine patience log ops)

end Session

end SqliteAccess
