import SqliteAccess.Engine.Scripted
import SqliteAccess.Proofs.Session.Counted
import SqliteAccess.Proofs.Transaction.Current
import SqliteAccess.Proofs.Transaction.Lineage
import SqliteAccess.Proofs.Transaction.Within

/-
  Whose transaction a guard ends.

  A guard knows of its transaction only that its connection
  has one open.  What it ends is the transaction of its
  connection that was begun last, which is its own if and
  only if no other one was begun since.

  Key definitions include:
    * `Deed.Begins`
    * `Deed.Founds`
    * `Session.GuardsEnd`

  The guards are characterized by:
    * `GuardCall.ending_carries`
    * `Chained.founded`
    * `Session.guards_end_latest`
-/

namespace SqliteAccess

variable {E : Engine}

open Quiet Attempt

------------------------------------------------------------
-- What Guards Carry Out
------------------------------------------------------------

/- Whether a call ends a guard of a transaction. -/
def GuardCall.EndsTransaction
    (call : GuardCall)
    (p : Place) : Prop :=
  call.settles? = some (.transaction, p) ∨
    call.removes? = some (.transaction, p)

/-
  Whether nothing was carried out, or one text that ends a
  transaction on the database of an active guard.
-/
def Session.CarriesEnd
    (p : Place)
    (s s' : Session E) : Prop :=
  s'.carried = s.carried ∨
    ∃ g db sql, s.world.active .transaction p = some g ∧
      s.world.handleOf g.connection = some db ∧
      Transaction.ends sql = true ∧
      s'.carried = (db, sql) :: s.carried

namespace Session.CarriesEnd

variable {p : Place} {s t : Session E}

/- What a connection executes to end a transaction. -/
theorem of_execute
    {α : Type}
    {g : Guard}
    {db : DatabaseHandle}
    {sql : Bytes}
    {r : Except Failure α × Session E}
    (hActive : s.world.active .transaction p = some g)
    (hOpen : s.world.handleOf g.connection = some db)
    (hEnds : Transaction.ends sql = true)
    (hBefore : t.carried = s.carried)
    (hCarries : t.Carries (db, sql) r) :
    s.CarriesEnd p r.2 := by
  rcases hCarries with ⟨l, hCarried, hSub, _⟩
  rw [hBefore] at hCarried
  rcases List.sublist_singleton.mp hSub with rfl | rfl
  · exact .inl hCarried
  · exact .inr ⟨g, db, sql, hActive, hOpen, hEnds, hCarried⟩

/- What follows carries nothing more out. -/
theorem andThen
    {s' : Session E}
    (hCarries : s.CarriesEnd p t)
    (hSame : s'.carried = t.carried) :
    s.CarriesEnd p s' := by
  unfold Session.CarriesEnd
  rw [hSame]
  exact hCarries

end Session.CarriesEnd

namespace Guard

variable {p : Place} {g : Guard} {s s' : Session E}

/- What the guard of a transaction sends ends one. -/
theorem ends_of_active
    (hActive : s.world.active .transaction p = some g) :
    Transaction.ends g.completion = true ∧
      Transaction.ends g.farewell = true := by
  rcases World.active_transaction hActive with ⟨t, _, _, rfl⟩
  exact ⟨Transaction.ends_commit, Transaction.ends_rollback⟩

/- What a guard carries out when it goes away. -/
theorem Leaves.carriesEnd
    (hActive : s.world.active .transaction p = some g)
    (hLeaves : g.Leaves s s') :
    s.CarriesEnd p s' := by
  have hSame : ∀ {t t' : Session E},
      t.world.trace = t'.world.trace →
        t.carried = t'.carried := fun hTrace =>
    congrArg Trace.carried hTrace
  cases hLeaves with
  | unreachable _ hTrace => exact .inl (hSame hTrace)
  | spared _ _ hTrace =>
      left
      unfold Session.carried
      rw [hTrace]
      rfl
  | @attempted c db _ _ t hConnection hOpen _ hStillOpen
      hAsked hTrace =>
      have hBefore : t.carried = s.carried := by
        unfold Session.carried
        rw [hAsked]
        rfl
      have hHandle : s.world.handleOf g.connection =
          some db := by
        rw [hConnection]
        exact hOpen
      exact (Session.CarriesEnd.of_execute hActive hHandle
        (ends_of_active hActive).2 hBefore
        (Connection.execute_carries hStillOpen _)).andThen
          (hSame hTrace)

end Guard

namespace GuardKind

variable {p : Place} {s : Session E}

/- What a guard carries out when it is to commit. -/
theorem complete_carriesEnd :
    s.CarriesEnd p
      ((GuardKind.transaction.complete p).run s).2 := by
  cases hActive : s.world.active .transaction p with
  | none =>
      rcases complete_of_inactive hActive with ⟨e, hRun⟩
      rw [hRun]
      exact .inl rfl
  | some g =>
      rw [complete_of_active hActive]
      rcases Connection.requireExisting_cases g.connection s
        with ⟨c, hOn, hRun⟩ | ⟨e, hRun⟩
      case inr =>
        rw [run_bind_of_error hRun]
        exact .inl rfl
      rw [run_bind_of_ok hRun]
      cases hHandle : (s.world.connection c).handle with
      | none =>
          rw [run_bind_of_error
            (Connection.execute_of_closed hHandle _)]
          exact .inl rfl
      | some db =>
          have hOpen : s.world.handleOf g.connection =
              some db := by
            rw [hOn]
            exact hHandle
          have hEnds := Session.CarriesEnd.of_execute hActive
            hOpen (Guard.ends_of_active hActive).1 rfl
            (Connection.execute_carries hHandle _)
          rcases hDone : (Connection.execute c
            g.completion).run s with ⟨result, t⟩
          rw [hDone] at hEnds
          cases result with
          | error e =>
              rw [run_bind_of_error hDone]
              exact hEnds
          | ok n =>
              rw [run_bind_of_ok hDone, run_lift]
              exact hEnds.andThen
                (congrArg Trace.carried World.trace_endGuard)

/- What a guard carries out when it is to roll back. -/
theorem rollback_carriesEnd :
    s.CarriesEnd p
      ((GuardKind.transaction.rollback p).run s).2 := by
  cases hActive : s.world.active .transaction p with
  | none =>
      rcases rollback_of_inactive hActive with ⟨e, hRun⟩
      rw [hRun]
      exact .inl rfl
  | some g =>
      rw [rollback_of_active_transaction hActive]
      rcases Connection.requireExisting_cases g.connection s
        with ⟨c, hOn, hRun⟩ | ⟨e, hRun⟩
      case inr =>
        rw [run_bind_of_error hRun]
        exact .inl rfl
      rw [run_bind_of_ok hRun, run_bind_of_ok (run_lift _ s)]
      let t : Session E :=
        (update (World.endGuard .transaction p) s).2
      have hConnections :
          t.world.connection = s.world.connection :=
        World.connection_endGuard
      have hUncarried : t.carried = s.carried :=
        congrArg Trace.carried World.trace_endGuard
      show s.CarriesEnd p ((_ >>= _ : Attempt E Unit).run t).2
      cases hHandle : (t.world.connection c).handle with
      | none =>
          unfold Connection.isAutocommit
          rw [run_bind_of_error (run_bind_of_error
            (Connection.requireOpen_of_closed hHandle _))]
          exact .inl hUncarried
      | some db =>
          have hOpen : s.world.handleOf g.connection =
              some db := by
            rw [hOn, World.handleOf, ← hConnections]
            exact hHandle
          rcases Connection.isAutocommit_of_open hHandle with
            ⟨t', hAsked, hStillOpen, hTrace⟩
          rw [run_bind_of_ok hAsked]
          have hBefore : t'.carried = s.carried := by
            rw [← hUncarried]
            unfold Session.carried
            rw [hTrace]
            rfl
          cases t.world.inTransaction (some c) with
          | false => exact .inl hBefore
          | true =>
              have hRolled := Session.CarriesEnd.of_execute
                hActive hOpen Transaction.ends_rollback
                hBefore (Connection.execute_carries
                  hStillOpen _)
              rw [← run_map_snd (Connection.execute c _)
                (fun _ => ()) t'] at hRolled
              exact hRolled

end GuardKind

/-
  A call that ends a guard of a transaction carries out one
  text at most, on the database of an active guard.
-/
theorem GuardCall.ending_carries
    {call : GuardCall}
    {p : Place}
    (hEnds : call.EndsTransaction p)
    (s : Session E) :
    s.CarriesEnd p (call.perform.run s).2 := by
  rcases hEnds with hSettles | hRemoves
  · cases call <;> cases hSettles
    · exact GuardKind.complete_carriesEnd
    · exact GuardKind.rollback_carriesEnd
  · cases hActive : s.world.active .transaction p with
    | some g =>
        exact (GuardCall.leaves hRemoves
          hActive).2.carriesEnd hActive
    | none =>
        left
        have hAlone := GuardKind.abandon_of_inactive hActive
        cases call with
        | assign k source target =>
            simp only [removes?] at hRemoves
            split at hRemoves
            case isTrue => cases hRemoves
            case isFalse hOther =>
              cases hRemoves
              simp only [perform, run_lift]
              rw [GuardKind.assign_run hOther, hAlone]
              exact congrArg Trace.carried
                World.trace_moveGuard
        | destroy k q =>
            cases hRemoves
            simp only [perform, run_lift]
            rw [GuardKind.destroy_run, hAlone]
            exact congrArg Trace.carried World.trace_dropGuard
        | _ => cases hRemoves

/- A guard that is constructed has begun a transaction. -/
theorem GuardCall.begin_carries
    {c : ConnectionId}
    {p : Place}
    {type : TransactionType}
    {s : Session E}
    (hDone : ((GuardCall.begin c p type).perform.run s).1 =
      .ok ()) :
    ∃ db, (s.world.connection c).handle = some db ∧
      ((GuardCall.begin c p type).perform.run s).2.carried =
        (db, Transaction.beginSql type) :: s.carried := by
  rcases hRun : (GuardCall.begin c p type).perform.run s with
    ⟨result, t⟩
  rw [hRun] at hDone
  cases hDone
  rcases run_bind_eq_ok.mp hRun with ⟨n, t', hBegun, hKept⟩
  have hOpen := Connection.isOpen_of_execute hBegun
  cases hHandle : (s.world.connection c).handle with
  | none => simp [Connection.isOpen, hHandle] at hOpen
  | some db =>
      rcases Connection.execute_carries hHandle
          (Transaction.beginSql type) with
        ⟨l, hCarried, _, hOnce⟩
      rw [hBegun] at hCarried hOnce
      rw [hOnce rfl] at hCarried
      refine ⟨db, rfl, ?_⟩
      cases hKept
      exact hCarried

------------------------------------------------------------
-- Deeds That Begin Transactions
------------------------------------------------------------

namespace Deed

variable {d : Deed E} {db : DatabaseHandle}

/- Whether a deed has begun a transaction of a database. -/
def Begins (d : Deed E) (db : DatabaseHandle) : Prop :=
  d.before.world.trace.begun db <
    d.after.world.trace.begun db

/- What was begun remains counted. -/
theorem begun_le (d : Deed E) (db : DatabaseHandle) :
    d.before.world.trace.begun db ≤
      d.after.world.trace.begun db := by
  unfold Trace.begun
  rw [d.trace_after]
  exact (Trace.carried_suffix _ _).sublist.countP_le

/-
  Whether a deed has constructed a guard on a connection, of
  the lineage of which there is a guard at a place, and which
  deeds have been done since.
-/
structure Founds
    (own : Deed E)
    (since journal : List (Deed E))
    (p : Place)
    (c : ConnectionId) : Prop where
  constructs : ∃ q type, own.act = .guard (.begin c q type)
  succeeds : own.result = .ok ()
  lineage : ∃ earliest, journal = since ++ own :: earliest ∧
    lineages journal .transaction p = some earliest.length

/- The deed is known by the number of the lineage. -/
theorem Founds.own_eq
    {own : Deed E}
    {since journal : List (Deed E)}
    {p : Place}
    {c : ConnectionId}
    {m : Nat}
    (hFounds : own.Founds since journal p c)
    (hLabel : lineages journal .transaction p = some m) :
    journal.reverse[m]? = some own := by
  rcases hFounds.lineage with ⟨earliest, hSplit, hNumber⟩
  rw [hLabel] at hNumber
  cases hNumber
  rw [hSplit]
  simp

/- Only beginning constructs the guard of a transaction. -/
theorem begin_of_creates
    {p : Place}
    (hCreates : d.creates? = some (.transaction, p)) :
    ∃ c type, d.act = .guard (.begin c p type) ∧
      d.result = .ok () := by
  unfold creates? at hCreates
  split at hCreates
  case h_2 => cases hCreates
  case h_1 call hAct =>
    split at hCreates
    case isFalse => cases hCreates
    case isTrue hOk =>
      cases call <;> cases hCreates
      refine ⟨_, _, hAct, ?_⟩
      cases hResult : d.result with
      | error e =>
          rw [hResult] at hOk
          cases hOk
      | ok _ => rfl

end Deed

namespace Chained

variable {s s' : Session E} {l journal : List (Deed E)}

/- What deeds have changed. -/
theorem changes
    (hChained : Chained s l s') :
    Changes (fun _ => True) s s' := by
  induction l generalizing s' with
  | nil =>
      cases hChained
      exact .refl
  | cons d earlier ih =>
      rw [← hChained.2]
      exact (ih hChained.1).trans
        (d.act.perform_affects d.before)

/-
  As many transactions were begun as before if and only if no
  deed has begun one.
-/
theorem begun_eq_iff
    (hChained : Chained s l s')
    (db : DatabaseHandle) :
    s.world.trace.begun db ≤ s'.world.trace.begun db ∧
      (s'.world.trace.begun db = s.world.trace.begun db ↔
        ∀ d ∈ l, ¬ d.Begins db) := by
  induction l generalizing s' with
  | nil =>
      cases hChained
      simp
  | cons d earlier ih =>
      rcases ih hChained.1 with ⟨hBefore, hIff⟩
      have hNow := d.begun_le db
      rw [← hChained.2]
      refine ⟨hBefore.trans hNow, ?_⟩
      rw [List.forall_mem_cons, ← hIff]
      unfold Deed.Begins
      omega

/- The guard of a transaction was constructed by a deed. -/
theorem founded
    {p : Place}
    {g : Guard}
    (hNone : ∀ k p, s.world.active k p = none)
    (hChained : Chained s journal s')
    (hActive : s'.world.active .transaction p = some g) :
    ∃ c, ∃ own : Deed E, ∃ since, g.connection = some c ∧
      own.Founds since journal p c := by
  induction journal generalizing s' p g with
  | nil =>
      cases hChained
      rw [hNone] at hActive
      cases hActive
  | cons d earlier ih =>
      rw [← hChained.2] at hActive
      by_cases hNew : d.creates? = some (.transaction, p)
      · rcases Deed.begin_of_creates hNew with
          ⟨c, type, hAct, hDone⟩
        have hRun : (Transaction.start c p type).run
            d.before = (.ok (), d.after) := by
          refine Prod.ext ?_ ?_
          · rw [← hDone, Deed.result, hAct]
            rfl
          · rw [Deed.after, hAct]
            rfl
        have hBegun := (Transaction.start_active hRun).1
        rw [hActive] at hBegun
        cases hBegun
        exact ⟨c, d, [], rfl, ⟨p, type, hAct⟩, hDone, earlier,
          rfl, Deed.passOn_of_creates hNew⟩
      · have hBefore :=
          (Deed.active_before hActive).resolve_left hNew
        rcases ih hChained.1 hBefore with
          ⟨c, own, since, hOn, hFounds⟩
        rcases hFounds.lineage with
          ⟨earliest, hSplit, hLabel⟩
        refine ⟨c, own, d :: since, hOn, hFounds.constructs,
          hFounds.succeeds, earliest, ?_, ?_⟩
        · rw [hSplit]
          rfl
        · exact (Deed.passOn_of_active hNew hActive).trans
            hLabel

end Chained

------------------------------------------------------------
-- Whole Sessions
------------------------------------------------------------

namespace Session

/-
  What is so whenever a guard has ended a transaction of a
  database: what is said of the deed by which the guard was
  constructed, which has begun a transaction of the database,
  of the deeds since, and of the calls before that one by
  which the transaction was ended.
-/
def GuardsEnd
    (journal : List (Deed E))
    (P : Deed E → List (Deed E) → Trace → DatabaseHandle →
      Prop) : Prop :=
  ∀ later d earlier call p x e y db,
    journal = later ++ d :: earlier →
    d.act = .guard call →
    call.EndsTransaction p →
    d.events = x ++ e :: y →
    Trace.ends (y ++ d.before.world.trace) db e = true →
    ∃ own : Deed E, ∃ since c,
      own.Founds since earlier p c ∧
      (own.before.world.connection c).handle = some db ∧
      own.after.world.trace.begun db =
        own.before.world.trace.begun db + 1 ∧
      P own since (y ++ d.before.world.trace) db

/- A list can only grow by the one element that it has more. -/
theorem eq_of_cons_suffix
    {α : Type}
    {a b : α}
    {l m : List α}
    (hCons : a :: m <:+ b :: l)
    (hSuffix : l <:+ m) :
    a = b ∧ m = l := by
  have hLength := hSuffix.length_le
  have hSame := hCons.eq_of_length_le (by simpa using hLength)
  cases hSame
  exact ⟨rfl, rfl⟩

/-
  A deed that ends a transaction carries out nothing else, and
  does so on the database of a guard that was active.
-/
theorem ending_of_event
    {d : Deed E}
    {call : GuardCall}
    {p : Place}
    {x y : Trace}
    {e : Event}
    {db : DatabaseHandle}
    (hAct : d.act = .guard call)
    (hEnding : call.EndsTransaction p)
    (hEvents : d.events = x ++ e :: y)
    (hEnds : Trace.ends (y ++ d.before.world.trace) db e =
      true) :
    (∃ g, d.before.world.active .transaction p = some g ∧
        d.before.world.handleOf g.connection = some db) ∧
      Trace.carried (y ++ d.before.world.trace) =
        d.before.carried := by
  have hCarries : d.before.CarriesEnd p d.after := by
    unfold Deed.after
    rw [hAct]
    exact GuardCall.ending_carries hEnding d.before
  rcases Trace.carried_of_ends hEnds with ⟨sql, hNow⟩
  have hAfter : (db, sql) ::
      Trace.carried (y ++ d.before.world.trace) <:+
        d.after.carried := by
    unfold Session.carried
    rw [d.trace_after, hEvents, List.append_assoc, ← hNow]
    exact Trace.carried_suffix x
      (e :: (y ++ d.before.world.trace))
  have hBefore : d.before.carried <:+
      Trace.carried (y ++ d.before.world.trace) :=
    Trace.carried_suffix y d.before.world.trace
  rcases hCarries with
    hSame | ⟨g, db', sql', hActive, hOpen, _, hOne⟩
  · rw [hSame] at hAfter
    have hLong := hAfter.length_le
    have hShort := hBefore.length_le
    simp only [List.length_cons] at hLong
    omega
  · rw [hOne] at hAfter
    rcases eq_of_cons_suffix hAfter hBefore with ⟨hIs, hSame⟩
    cases hIs
    exact ⟨⟨g, hActive, hOpen⟩, hSame⟩

/-
  The handle of a connection is still the one that it had
  when a transaction was begun on it.
-/
theorem same_handle
    {own : Deed E}
    {s : Session E}
    {since : List (Deed E)}
    {c : ConnectionId}
    {db db' : DatabaseHandle}
    (hMeasured : own.Measured)
    (hChained : Chained own.after since s)
    (hBegun :
      (own.before.world.connection c).handle = some db')
    (hOpen : (s.world.connection c).handle = some db) :
    db' = db := by
  have hKnown : c.number ≤
      own.before.world.issued.connections := by
    apply hMeasured.held.orderly.numbered
    rcases World.get?_of_connection_handle hBegun with
      ⟨conn, hFound, _⟩
    rw [World.mem_living, Table.contains, hFound]
    rfl
  have hChanges : Changes (fun _ => True) own.before s :=
    (own.act.perform_affects own.before).trans
      hChained.changes
  rcases hChanges.handle hKnown with hNone | hSame
  · rw [hOpen] at hNone
    cases hNone
  · rw [hOpen, hBegun] at hSame
    exact (Option.some.inj hSame).symm

/-
  The deed that has constructed a guard has begun one
  transaction of the database that the connection of the
  guard has open.
-/
theorem begun_of_founds
    {own : Deed E}
    {since journal : List (Deed E)}
    {s s' : Session E}
    {p : Place}
    {c : ConnectionId}
    {db : DatabaseHandle}
    (hFounds : own.Founds since journal p c)
    (hMeasured : own.Measured)
    (hChained : Chained s journal s')
    (hOpen : (s'.world.connection c).handle = some db) :
    Chained own.after since s' ∧
      (own.before.world.connection c).handle = some db ∧
      own.after.world.trace.begun db =
        own.before.world.trace.begun db + 1 := by
  rcases hFounds.constructs with ⟨q, type, hOwn⟩
  rcases hFounds.lineage with ⟨earliest, hSplit, _⟩
  have hSince : Chained own.after since s' :=
    (hSplit ▸ hChained).split.2
  have hDone : ((GuardCall.begin c q type).perform.run
      own.before).1 = .ok () := by
    rw [← hFounds.succeeds, Deed.result, hOwn]
    rfl
  rcases GuardCall.begin_carries hDone with
    ⟨db', hBegun, hFirst⟩
  cases same_handle hMeasured hSince hBegun hOpen
  have hAfter : own.after.carried =
      (db, Transaction.beginSql type) ::
        own.before.carried := by
    rw [← hFirst, Deed.after, hOwn]
    rfl
  refine ⟨hSince, hBegun, ?_⟩
  show List.countP _ own.after.carried = _
  rw [hAfter]
  exact List.countP_cons_of_pos
    (by simp [Transaction.begins_beginSql])

/-
  Along deeds that follow each other, a guard ends the
  transaction that was begun last.
-/
theorem guardsEnd_of_chained
    {s s' : Session E}
    {journal : List (Deed E)}
    {lost : Trace → DatabaseHandle → Bool}
    (hNone : ∀ k p, s.world.active k p = none)
    (hMeasured : ∀ d ∈ journal, d.Measured)
    (hChained : Chained s journal s')
    (hDocumented : Trace.Documented lost s'.world.trace) :
    GuardsEnd journal fun own since t db =>
      Trace.current lost t db = some (t.begun db) ∧
        (Trace.current lost t db =
            some (own.after.world.trace.begun db) ↔
          ∀ d ∈ since, ¬ d.Begins db) := by
  rintro later d earlier call p x e y db rfl hAct hEnding
    hEvents hEnds
  rcases hChained.split with ⟨hEarlier, hLater⟩
  rcases ending_of_event hAct hEnding hEvents hEnds with
    ⟨⟨g, hActive, hOpen⟩, hCarried⟩
  -- the guard was constructed on the same connection
  rcases Chained.founded hNone hEarlier hActive with
    ⟨c, own, since, hOn, hFounds⟩
  rcases hFounds.lineage with ⟨earliest, hSplit, _⟩
  rw [hOn] at hOpen
  rcases begun_of_founds hFounds
      (hMeasured own (by simp [hSplit])) hEarlier hOpen with
    ⟨hSince, hBegun, hNumber⟩
  -- what is ended is the last transaction that was begun
  rcases hLater.changes.trace_suffix with ⟨l, hTrace⟩
  rw [← hTrace, d.trace_after, hEvents, List.append_assoc,
    ← List.append_assoc] at hDocumented
  have hCurrent :
      Trace.current lost (y ++ d.before.world.trace) db =
        some (Trace.begun (y ++ d.before.world.trace) db) :=
    Trace.Documented.current_of_ends hDocumented hEnds
  -- no transaction is begun by a deed that ends one
  have hSame : Trace.begun (y ++ d.before.world.trace) db =
      d.before.world.trace.begun db :=
    congrArg (List.countP _) hCarried
  refine ⟨own, since, c, hFounds, hBegun, hNumber,
    hCurrent, ?_⟩
  rw [hCurrent, hSame, Option.some.injEq]
  exact (hSince.begun_eq_iff db).2

/-
  Let the engine answer as it is documented to do.  Whatever
  the operations are, a guard that ends a transaction ends
  the one that was begun last on its database, which is its
  own if and only if no other was begun there since.
-/
theorem guards_end_latest
    (engine : E.State)
    (patience : Nat)
    (log : Log)
    (ops : List Operation)
    (lost : Trace → DatabaseHandle → Bool)
    (hDocumented : Trace.Documented lost
      ((start engine patience log).runAll
        ops).2.dismantle.world.trace) :
    GuardsEnd ((start engine patience log).journal ops)
      fun own since t db =>
        Trace.current lost t db = some (t.begun db) ∧
          (Trace.current lost t db =
              some (own.after.world.trace.begun db) ↔
            ∀ d ∈ since, ¬ d.Begins db) := by
  have hAccounted := start_accounted engine patience log
  apply guardsEnd_of_chained ?_
    (journal_measured hAccounted ops).1
    (journal_chained (start engine patience log) ops)
    hDocumented
  rintro (_ | _) p <;> rfl

/-
  The engine gives a transaction up when a step fails.
-/
def lostByFailure
    (t : Trace)
    (db : DatabaseHandle) : Bool :=
  match t with
  | ⟨.step st, code⟩ :: _ =>
      st.database = db && code ≠ ResultCode.row &&
        code ≠ ResultCode.done
  | _ => false

/- An engine that knows one statement, which fails so. -/
def lossyEngine : Engine.scripted.State :=
  ({ script :=
      { programs :=
          [{ sql := Bytes.ascii "F"
             runs :=
              [{ outcomes :=
                  [{ ending := .failed { code := 13 }
                     autocommit := some true }] }] }] } }
    : Scripted.State)

/-
  Begin a transaction, which the engine gives up, begin
  another one, and drop the guard of the first.
-/
def lossyOps : List Operation :=
  [.openConnection 0 []
      { foreignKeys := false, strictQuoting := false },
    .begin 0 0 .deferred,
    .connection 0 (.execute (Bytes.ascii "F")),
    .begin 0 1 .deferred,
    .dropTransaction 0]

/- The engine has answered as documented there. -/
theorem lossy_documented :
    Trace.Documented lostByFailure
      ((start lossyEngine 10 {}).runAll
        lossyOps).2.dismantle.world.trace := by
  decide +kernel

/- The guard that is dropped ends the last transaction. -/
theorem guards_end_latest_lossy :
    Trace.Documented lostByFailure
        ((start lossyEngine 10 {}).runAll
          lossyOps).2.dismantle.world.trace ∧
      GuardsEnd ((start lossyEngine 10 {}).journal lossyOps)
        fun own since t db =>
          Trace.current lostByFailure t db =
              some (t.begun db) ∧
            (Trace.current lostByFailure t db =
                some (own.after.world.trace.begun db) ↔
              ∀ d ∈ since, ¬ d.Begins db) :=
  ⟨lossy_documented, guards_end_latest lossyEngine 10 {}
    lossyOps lostByFailure lossy_documented⟩

/-
  A guard does not always end its own transaction: the first
  guard ends that of the second.
-/
theorem guard_ends_another :
    ¬ ∀ (engine : Engine.scripted.State)
        (patience : Nat)
        (log : Log)
        (ops : List Operation)
        (lost : Trace → DatabaseHandle → Bool),
      Trace.Documented lost
          ((start engine patience log).runAll
            ops).2.dismantle.world.trace →
        GuardsEnd ((start engine patience log).journal ops)
          fun own _ t db =>
            Trace.current lost t db =
              some (own.after.world.trace.begun db) := by
  intro hAll
  have hEnds := hAll lossyEngine 10 {} lossyOps lostByFailure
    lossy_documented
  have hPlace : ((start lossyEngine 10 {}).journal
      lossyOps)[4]?.isSome := by decide +kernel
  have hCall : ((start lossyEngine 10 {}).journal
      lossyOps)[4]?.bind (·.act.guard?) =
        some (.destroy .transaction (.slot 0)) := by
    decide +kernel
  have hNumber : (((start lossyEngine 10 {}).journal
      lossyOps).drop 5).reverse[3]?.map
        (·.after.world.trace.begun ⟨1⟩) = some 1 := by
    decide +kernel
  have hLabel : lineages (((start lossyEngine 10 {}).journal
      lossyOps).drop 5) .transaction (.slot 0) = some 3 := by
    decide +kernel
  have hEvent : ((start lossyEngine 10 {}).journal
      lossyOps)[4]?.bind (fun d => d.events[3]?.map fun e =>
        (Trace.ends (d.events.drop 4 ++ d.before.world.trace)
            ⟨1⟩ e,
          Trace.current lostByFailure
            (d.events.drop 4 ++ d.before.world.trace) ⟨1⟩)) =
        some (true, some 2) := by
    decide +kernel
  revert hEnds hPlace hCall hNumber hLabel hEvent
  generalize (start lossyEngine 10 {}).journal lossyOps =
    journal
  intro hEnds hPlace hCall hNumber hLabel hEvent
  rcases Option.isSome_iff_exists.mp hPlace with ⟨d, hFound⟩
  rw [hFound] at hCall hEvent
  rcases Option.map_eq_some_iff.mp hEvent with
    ⟨e, hLatest, hTold⟩
  rcases hEnds _ d _ _ (.slot 0) _ e _ ⟨1⟩
      (split_of_getElem? hFound) (Act.eq_of_guard? hCall)
      (.inr rfl) (split_of_getElem? hLatest)
      (congrArg Prod.fst hTold) with
    ⟨own, since, c, hFounds, _, _, hOwn⟩
  rw [hFounds.own_eq hLabel] at hNumber
  have hFirst : own.after.world.trace.begun ⟨1⟩ = 1 :=
    Option.some.inj hNumber
  have hLast : Trace.current lostByFailure
      (d.events.drop 4 ++ d.before.world.trace) ⟨1⟩ =
        some 2 :=
    congrArg Prod.snd hTold
  rw [hFirst, hLast] at hOwn
  cases hOwn

end Session

end SqliteAccess
