import SqliteAccess.Proofs.Operation.Deeds
import SqliteAccess.Proofs.Operation.Run

/-
  The deeds of a session.

  Every operation is told as a plan.  Carried out, the plan
  leaves the session that the operation leaves, so that the
  deeds of the operations lead from the start of a session to
  its end.

  Key definitions include:
    * `Operation.plan`
    * `Session.dismantlePlan`
    * `Session.journal`

  The plans are characterized by:
    * `Operation.plan_last`
    * `Session.dismantlePlan_last`
    * `Session.journal_chained`
-/

namespace SqliteAccess

variable {E : Engine} {A : Effect → Prop}

open Quiet Attempt

------------------------------------------------------------
-- Plans of Operations
------------------------------------------------------------

namespace Operation

/- Go on if there is something in a slot. -/
def ifFound
    {α : Type}
    (found : Session E → Option α)
    (next : α → Plan E) : Plan E :=
  .look fun s =>
    match found s with
    | none => .done
    | some a => next a

/- Close and forget the connection in a slot. -/
def vacatePlan (c : Nat) : Plan E :=
  ifFound (·.world.plain.get? c) fun id =>
    .act (.connection (.vacate c id)) fun _ =>
      .only (.library .release)

/- Close and forget a serialized connection. -/
def vacateSerializedPlan (z : Nat) : Plan E :=
  ifFound (·.world.serialized.get? z) fun id =>
    .act (.connection (.vacateSerialized z id)) fun _ =>
      .only (.library .release)

/- Open a connection in a slot. -/
def openPlan
    (c : Nat)
    (path : Bytes)
    (options : ConnectionOptions) : Plan E :=
  (vacatePlan c).followedBy <|
    .andThen (.library .hold) <|
      .act (.connection (.establish c path options)) fun ok =>
        if ok then .done else .only (.library .release)

/- Do the things of a transaction body. -/
def bodyPlan
    (c : ConnectionId)
    (next : Bool → Plan E) :
    List TransactionItem → Plan E
  | [] => next true
  | .execute sql :: r =>
      .act
        (.other (Connection.execute c sql >>= fun _ => pure ())
          (Connection.execute_affects
            (A := (· = .compile)) c rfl sql).map)
        fun ok => if ok then bodyPlan c next r else next false
  | .raise _ :: _ => next false
  | .commit :: r =>
      .act (.guard (.complete .transaction .scratch)) fun ok =>
        if ok then bodyPlan c next r else next false
  | .rollback :: r =>
      .act (.guard (.rollback .transaction .scratch)) fun ok =>
        if ok then bodyPlan c next r else next false

/- Work inside a transaction. -/
def withinPlan
    (c : ConnectionId)
    (body : List TransactionItem) : Plan E :=
  .andThen (.guard (.begin c .scratch .deferred)) <|
    bodyPlan c (fun ok =>
      if ok then
        .act (.guard (.complete .transaction .scratch))
          fun _ => .only (.guard (.destroy .transaction .scratch))
      else
        .only (.guard (.destroy .transaction .scratch)))
      body

/- Move a guard to another slot. -/
def relocatePlan
    (k : GuardKind)
    (source target : Nat) : Plan E :=
  .look fun s =>
    if s.world.hasGuard k (.slot source) ∧ source ≠ target then
      .act (.guard (.destroy k (.slot target))) fun _ =>
        .only (.guard (.move k (.slot source) (.slot target)))
    else .done

/- Move a guard over another one. -/
def overwritePlan
    (k : GuardKind)
    (source target : Nat) : Plan E :=
  .look fun s =>
    if s.world.hasGuard k (.slot source) ∧
        s.world.hasGuard k (.slot target) then
      .only (.guard (.assign k (.slot source) (.slot target)))
    else .done

/- Make a call on a guard in a slot. -/
def onGuard
    (k : GuardKind)
    (n : Nat)
    (next : Plan E) : Plan E :=
  .look fun s =>
    if s.world.hasGuard k (.slot n) then next else .done

/-
  The plan of an operation that has to do with guards, with
  connections that come and go or with the use of the engine.
-/
def specialPlan : Operation → Plan E
  | library .start => .only (.library .start)
  | library .stop => .only (.library .stop)
  | openConnection c path options => openPlan c path options
  | dropConnection c => vacatePlan c
  | connection c (.withTransaction body _) =>
      ifFound (·.world.plain.get? c) fun id =>
        withinPlan id body
  | begin c t type =>
      ifFound (·.world.plain.get? c) fun id =>
        .act (.guard (.destroy .transaction (.slot t))) fun _ =>
          .only (.guard (.begin id (.slot t) type))
  | moveTransaction source target =>
      relocatePlan .transaction source target
  | assignTransaction source target =>
      overwritePlan .transaction source target
  | dropTransaction t =>
      onGuard .transaction t
        (.only (.guard (.destroy .transaction (.slot t))))
  | transaction t .commit =>
      onGuard .transaction t
        (.only (.guard (.complete .transaction (.slot t))))
  | transaction t .rollback =>
      onGuard .transaction t
        (.only (.guard (.rollback .transaction (.slot t))))
  | savepoint t p name =>
      onGuard .transaction t <|
        .act (.guard (.destroy .savepoint (.slot p))) fun _ =>
          .only (.guard (.nest (.slot t) (.slot p) name))
  | savepointOn c p name =>
      ifFound (·.world.plain.get? c) fun id =>
        .act (.guard (.destroy .savepoint (.slot p))) fun _ =>
          .only (.guard (.nestOn id (.slot p) name))
  | moveSavepoint source target =>
      relocatePlan .savepoint source target
  | assignSavepoint source target =>
      overwritePlan .savepoint source target
  | dropSavepoint p =>
      onGuard .savepoint p
        (.only (.guard (.destroy .savepoint (.slot p))))
  | askSavepoint p .release =>
      onGuard .savepoint p
        (.only (.guard (.complete .savepoint (.slot p))))
  | askSavepoint p .rollback =>
      onGuard .savepoint p
        (.only (.guard (.rollback .savepoint (.slot p))))
  | serialize z none => vacateSerializedPlan z
  | serialize z (some c) =>
      ifFound (·.world.plain.get? c) fun id =>
        (vacateSerializedPlan z).followedBy
          (.only (.connection (.serialize z c id)))
  | dropSerialized z => vacateSerializedPlan z
  | _ => .done

/- The plan of an operation. -/
def plan (op : Operation) : Plan E :=
  if hOrdinary : op.isOrdinary = true then
    .only (.other (op.perform >>= fun _ => pure ())
      (perform_affects (A := (· = .compile)) rfl
        hOrdinary).map)
  else
    op.specialPlan

------------------------------------------------------------
-- Plans Do What Operations Do
------------------------------------------------------------

/- What is done is what follows from what was found. -/
theorem last_of_found
    {α : Type}
    {found : Session E → Option α}
    {next : α → Plan E}
    {a : α}
    {s : Session E}
    (hFound : found s = some a) :
    (ifFound found next).last s = (next a).last s := by
  unfold ifFound
  simp only [Plan.last, hFound]

theorem vacatePlan_last
    (c : Nat)
    (s : Session E) :
    (vacatePlan c).last s = (vacateConnection c s).2 := by
  unfold vacatePlan ifFound vacateConnection
  simp only [Plan.last, Quiet.run_bind, Quiet.read]
  cases s.world.plain.get? c <;> rfl

theorem vacateSerializedPlan_last
    (z : Nat)
    (s : Session E) :
    (vacateSerializedPlan z).last s =
      (vacateSerialized z s).2 := by
  unfold vacateSerializedPlan ifFound vacateSerialized
  simp only [Plan.last, Quiet.run_bind, Quiet.read]
  cases s.world.serialized.get? z <;> rfl

/- Opening in a slot that has been emptied. -/
theorem openPlan_last
    (c : Nat)
    (path : Bytes)
    (options : ConnectionOptions)
    (s : Session E) :
    (openPlan c path options).last s =
      ((openIn c path options).run s).2 := by
  unfold openPlan openIn
  rw [Plan.last_followedBy, vacatePlan_last,
    run_bind_of_ok (run_lift _ s)]
  generalize (vacateConnection c s).2 = t
  unfold Connection.openAt
  obtain ⟨result, t', hHeld⟩ : ∃ result t',
      Library.hold.run t = (result, t') := ⟨_, _, rfl⟩
  cases result with
  | error e =>
      rw [run_bind_of_error (run_bind_of_error hHeld)]
      exact Plan.last_act_of_error hHeld
  | ok _ =>
      obtain ⟨opened, t'', hOpened⟩ : ∃ opened t'',
          (Connection.establish path options).run t' =
            (opened, t'') := ⟨_, _, rfl⟩
      have hDone := (run_onFailure
        (Connection.establish path options)
          Library.release t')
      rw [hOpened] at hDone
      unfold Plan.andThen
      rw [Plan.last_act_of_ok (a := .library .hold) hHeld]
      cases opened with
      | error e =>
          rw [run_bind_of_error
            ((run_bind_of_ok hHeld).trans hDone)]
          exact Plan.last_act_of_error
            (run_bind_of_error hOpened)
      | ok id =>
          rw [run_bind_of_ok
            ((run_bind_of_ok hHeld).trans hDone)]
          exact Plan.last_act_of_ok
            (run_bind_of_ok hOpened)

/-
  An act that fails and succeeds as the first half of an
  attempt does is followed by the rest if it succeeds.
-/
theorem act_last_of_bind
    {α β : Type}
    {a : Act E}
    {next : Bool → Plan E}
    {rest : Plan E}
    {x : Attempt E α}
    {k : α → Attempt E β}
    {s : Session E}
    (hError : ∀ e t, x.run s = (.error e, t) →
      a.perform.run s = (.error e, t))
    (hOk : ∀ b t, x.run s = (.ok b, t) →
      a.perform.run s = (.ok (), t))
    (hRest : ∀ b t, rest.last t =
      (next ((k b).run t).1.isOk).last ((k b).run t).2) :
    (Plan.act a fun ok =>
        if ok then rest else next false).last s =
      (next ((x >>= k).run s).1.isOk).last
        ((x >>= k).run s).2 := by
  rcases hRun : x.run s with ⟨result, t⟩
  cases result with
  | error e =>
      rw [run_bind_of_error hRun]
      exact Plan.last_act_of_error (hError e t hRun)
  | ok b =>
      rw [run_bind_of_ok hRun, ← hRest]
      exact Plan.last_act_of_ok (hOk b t hRun)

/- Doing what a transaction body says, and what follows. -/
theorem bodyPlan_last
    {next : Bool → Plan E}
    {c : ConnectionId}
    {s : Session E}
    (body : List TransactionItem)
    (last : Int) :
    (bodyPlan c next body).last s =
      (next ((TransactionItem.performAll c .scratch body
          last).run s).1.isOk).last
        ((TransactionItem.performAll c .scratch body
          last).run s).2 := by
  induction body generalizing last s with
  | nil => rfl
  | cons item r ih =>
      cases item with
      | raise message => rfl
      | execute sql =>
          exact act_last_of_bind
            (fun _ _ h => run_bind_of_error h)
            (fun _ _ h => run_bind_of_ok h)
            (fun n _ => ih n)
      | commit =>
          exact act_last_of_bind
            (x := Transaction.commit .scratch)
            (fun _ _ h => h) (fun _ _ h => h)
            (fun _ _ => ih last)
      | rollback =>
          exact act_last_of_bind
            (x := Transaction.rollback .scratch)
            (fun _ _ h => h) (fun _ _ h => h)
            (fun _ _ => ih last)

/- Working inside a transaction. -/
theorem withinPlan_last
    (c : ConnectionId)
    (body : List TransactionItem)
    (returns : Bool)
    (s : Session E) :
    (withinPlan c body).last s =
      (((ConnectionRequest.withTransaction body
        returns).perform c).run s).2 := by
  unfold withinPlan Plan.andThen ConnectionRequest.perform
    Transaction.within
  rw [run_map_snd]
  obtain ⟨result, t, hBegun⟩ : ∃ result t,
      (Transaction.start c .scratch .deferred).run s =
        (result, t) := ⟨_, _, rfl⟩
  cases result with
  | error e =>
      rw [run_bind_of_error hBegun]
      exact Plan.last_act_of_error hBegun
  | ok _ =>
      rw [Plan.last_act_of_ok
        (a := .guard (.begin c .scratch .deferred)) hBegun,
        run_bind_of_ok hBegun, run_ensuring, if_pos rfl,
        bodyPlan_last body 0]
      obtain ⟨worked, t', hWorked⟩ : ∃ worked t',
          (TransactionItem.performAll c .scratch body 0).run
            t = (worked, t') := ⟨_, _, rfl⟩
      cases worked with
      | error e =>
          rw [run_bind_of_error hWorked, hWorked]
          rfl
      | ok last =>
          rw [run_bind_of_ok hWorked, run_map_snd, hWorked]
          rfl

/- What is needed is missing. -/
theorem run_needed_of_none
    {α : Type}
    {f : World E → Option α}
    {s : Session E}
    (hMissing : f s.world = none) :
    (needed (Quiet.read f)).run s =
      (.error .noObject, s) := by
  unfold needed
  rw [run_read, hMissing]
  rfl

/- What is looked for is found, or nothing is done. -/
theorem ifFound_last
    {α β : Type}
    {f : World E → Option α}
    {next : α → Plan E}
    {k : α → Attempt E β}
    (hNext : ∀ a s, (next a).last s = ((k a).run s).2)
    (s : Session E) :
    (ifFound (fun s => f s.world) next).last s =
      ((needed (Quiet.read f) >>= k).run s).2 := by
  unfold ifFound
  simp only [Plan.last]
  cases hFound : f s.world with
  | none =>
      rw [run_bind_of_error (run_needed_of_none hFound)]
      rfl
  | some a =>
      rw [run_bind_of_ok (run_needed hFound)]
      exact hNext a s

/- A slot has a guard, or it is not found. -/
theorem run_occupied
    {α : Type}
    (table : World E → Table Place α)
    (n : Nat)
    (s : Session E) :
    (occupied table n).run s =
      (if (table s.world).contains (.slot n) then
        .ok (.slot n)
      else .error .noObject, s) := by
  unfold occupied Table.contains
  cases hFound : (table s.world).get? (.slot n) with
  | none =>
      exact run_bind_of_error
        (run_needed_of_none (f := fun w =>
          (table w).get? (.slot n)) hFound)
  | some a =>
      exact run_bind_of_ok
        (run_needed (f := fun w =>
          (table w).get? (.slot n)) hFound)

/- How a guard in a slot is looked for. -/
def guardIn (k : GuardKind) (n : Nat) : Attempt E Place :=
  match k with
  | .transaction => transactionIn n
  | .savepoint => savepointIn n

theorem run_guardIn
    (k : GuardKind)
    (n : Nat)
    (s : Session E) :
    (guardIn k n).run s =
      (if s.world.hasGuard k (.slot n) then .ok (.slot n)
      else .error .noObject, s) := by
  cases k with
  | transaction => exact run_occupied (·.transactions) n s
  | savepoint => exact run_occupied (·.savepoints) n s

/- A guard is found in its slot, or nothing is done. -/
theorem onGuard_last
    {β : Type}
    {k : GuardKind}
    {n : Nat}
    {next : Plan E}
    {x : Place → Attempt E β}
    (hNext : ∀ s, next.last s = ((x (.slot n)).run s).2)
    (s : Session E) :
    (onGuard k n next).last s =
      ((guardIn k n >>= x).run s).2 := by
  have hRun := run_guardIn k n s
  unfold onGuard
  simp only [Plan.last]
  split
  case isTrue hFound =>
    rw [if_pos hFound] at hRun
    rw [run_bind_of_ok hRun]
    exact hNext s
  case isFalse hMissing =>
    rw [if_neg hMissing] at hRun
    rw [run_bind_of_error hRun]
    rfl

/- Moving a guard to another slot. -/
theorem relocatePlan_last
    (k : GuardKind)
    (source target : Nat)
    (s : Session E) :
    (relocatePlan k source target).last s =
      ((relocate (guardIn k) k.destroy k.move source
        target).run s).2 := by
  have hRun := run_guardIn k source s
  unfold relocatePlan relocate
  simp only [Plan.last]
  cases hFound : s.world.hasGuard k (.slot source) with
  | false =>
      rw [hFound] at hRun
      rw [run_bind_of_error hRun]
      simp [Plan.last]
  | true =>
      rw [hFound] at hRun
      rw [run_bind_of_ok hRun]
      by_cases hSame : source = target
      · simp [hSame, Plan.last]
      · rw [if_pos ⟨rfl, hSame⟩, if_pos hSame]
        rfl

/- Moving a guard over another one. -/
theorem overwritePlan_last
    (k : GuardKind)
    (source target : Nat)
    (s : Session E) :
    (overwritePlan k source target).last s =
      ((overwrite (guardIn k) k.assign source
        target).run s).2 := by
  have hSource := run_guardIn k source s
  have hTarget := run_guardIn k target s
  unfold overwritePlan overwrite
  simp only [Plan.last]
  cases hOld : s.world.hasGuard k (.slot target) with
  | false =>
      rw [hOld] at hTarget
      rw [run_bind_of_error hTarget]
      simp [Plan.last]
  | true =>
      rw [hOld] at hTarget
      rw [run_bind_of_ok hTarget]
      cases hNew : s.world.hasGuard k (.slot source) with
      | false =>
          rw [hNew] at hSource
          rw [run_bind_of_error hSource]
          simp [Plan.last]
      | true =>
          rw [hNew] at hSource
          rw [run_bind_of_ok hSource]
          rfl

/- What is dropped is found, or nothing is done. -/
theorem dropped_run
    {α : Type}
    (f : World E → Option α)
    (x : Quiet E Unit)
    (hIdle : ∀ t : Session E, f t.world = none →
      (x t).2 = t)
    (s : Session E) :
    ((needed (Quiet.read f) >>= fun _ =>
      lift x >>= fun _ =>
        (pure Reply.nothing : Attempt E Reply)).run s).2 =
      (x s).2 := by
  cases hFound : f s.world with
  | none =>
      rw [run_bind_of_error (run_needed_of_none hFound),
        hIdle s hFound]
  | some a =>
      rw [run_bind_of_ok (run_needed hFound)]
      rfl

/- A special plan leaves what its operation leaves. -/
theorem specialPlan_last
    {op : Operation}
    (hSpecial : op.isOrdinary = false)
    (s : Session E) :
    op.specialPlan.last s = (s.run op).2 := by
  cases op with
  | library r =>
      cases r with
      | start =>
          exact (run_map_snd Library.start
            (fun _ => Reply.nothing) s).symm
      | stop => rfl
      | _ => cases hSpecial
  | openConnection c path options =>
      exact (openPlan_last c path options s).trans
        (run_map_snd _ (fun _ => Reply.nothing) s).symm
  | dropConnection c =>
      refine Eq.trans ?_ (dropped_run (·.plain.get? c)
        (vacateConnection c) ?_ s).symm
      · exact vacatePlan_last c s
      · intro t hMissing
        unfold vacateConnection
        rw [Quiet.run_bind]
        simp only [Quiet.read, hMissing]
        rfl
  | connection c r =>
      cases r with
      | withTransaction body returns =>
          exact ifFound_last (f := fun w => w.plain.get? c)
            (fun id t => withinPlan_last id body returns t) s
      | _ => cases hSpecial
  | begin c t type =>
      refine Eq.trans ?_
        (run_map_snd (beginIn c t type)
          (fun _ => Reply.nothing) s).symm
      exact ifFound_last (f := fun w => w.plain.get? c)
        (fun id t => rfl) s
  | moveTransaction source target =>
      exact relocatePlan_last .transaction source target s
  | assignTransaction source target =>
      exact overwritePlan_last .transaction source target s
  | dropTransaction t =>
      exact onGuard_last (k := .transaction)
        (fun t => rfl) s
  | transaction t r =>
      cases r with
      | commit =>
          refine onGuard_last (k := .transaction) ?_ s
          exact fun t =>
            (run_map_snd _ (fun _ => Reply.nothing) t).symm
      | rollback =>
          refine onGuard_last (k := .transaction) ?_ s
          exact fun t =>
            (run_map_snd _ (fun _ => Reply.nothing) t).symm
      | info => cases hSpecial
  | savepoint t p name =>
      refine Eq.trans ?_
        (run_map_snd (savepointInside t p name)
          (fun _ => Reply.nothing) s).symm
      exact onGuard_last (k := .transaction) (fun t => rfl) s
  | savepointOn c p name =>
      refine Eq.trans ?_
        (run_map_snd (savepointDirect c p name)
          (fun _ => Reply.nothing) s).symm
      exact ifFound_last (f := fun w => w.plain.get? c)
        (fun id t => rfl) s
  | moveSavepoint source target =>
      exact relocatePlan_last .savepoint source target s
  | assignSavepoint source target =>
      exact overwritePlan_last .savepoint source target s
  | dropSavepoint p =>
      exact onGuard_last (k := .savepoint) (fun t => rfl) s
  | askSavepoint p r =>
      cases r with
      | release =>
          refine onGuard_last (k := .savepoint) ?_ s
          exact fun t =>
            (run_map_snd _ (fun _ => Reply.nothing) t).symm
      | rollback =>
          refine onGuard_last (k := .savepoint) ?_ s
          exact fun t =>
            (run_map_snd _ (fun _ => Reply.nothing) t).symm
      | info => cases hSpecial
  | serialize z c =>
      refine Eq.trans ?_
        (run_map_snd (serializeIn z c)
          (fun _ => Reply.nothing) s).symm
      cases c with
      | none => exact vacateSerializedPlan_last z s
      | some c =>
          refine ifFound_last (f := fun w => w.plain.get? c)
            (fun id t => ?_) s
          rw [Plan.last_followedBy, vacateSerializedPlan_last]
          rfl
  | dropSerialized z =>
      refine Eq.trans ?_ (dropped_run (·.serialized.get? z)
        (vacateSerialized z) ?_ s).symm
      · exact vacateSerializedPlan_last z s
      · intro t hMissing
        unfold vacateSerialized
        rw [Quiet.run_bind]
        simp only [Quiet.read, hMissing]
        rfl
  | _ => cases hSpecial

/- The plan of an operation leaves what it leaves. -/
theorem plan_last
    (op : Operation)
    (s : Session E) :
    op.plan.last s = (s.run op).2 := by
  unfold plan
  split
  case isTrue hOrdinary =>
    exact run_map_snd op.perform (fun _ => ()) s
  case isFalse hSpecial =>
    exact specialPlan_last (Bool.eq_false_iff.mpr hSpecial) s

end Operation

------------------------------------------------------------
-- Whole Sessions
------------------------------------------------------------

namespace Session

/- Forget the rows, and destroy backups and statements. -/
def clear : Quiet E Unit := do
  update fun w => { w with rows := {} }
  each Backup.destroy (← read (places ·.backups))
  each Statement.destroy (← read (places ·.statements))

/- Guards are destroyed before everything else. -/
theorem destroyObjects_eq :
    destroyObjects (E := E) = (do
      each Savepoint.destroy (← read (places ·.savepoints))
      each Transaction.destroy
        (← read (places ·.transactions))
      clear) := rfl

theorem clear_affects :
    Quiet.Affects (E := E) A clear := by
  apply Quiet.Affects.bind
    (.edit fun w => .apart w _ _ _ _ rfl)
  intro _
  apply Quiet.Affects.bind (.read _)
  intro backups
  apply Quiet.Affects.bind
    (.each Backup.destroy_affects _)
  intro _
  apply Quiet.Affects.bind (.read _)
  intro statements
  exact .each Statement.destroy_affects _

/- Destroy the guards of a kind at certain places. -/
def guardsPlan
    (k : GuardKind)
    (found : World E → List Place) : Plan E :=
  .look fun s =>
    .each (fun p => .only (.guard (.destroy k p)))
      (found s.world)

theorem guardsPlan_last
    (k : GuardKind)
    (found : World E → List Place)
    (s : Session E) :
    (guardsPlan k found).last s =
      (each k.destroy (found s.world) s).2 := by
  unfold guardsPlan
  exact Plan.last_each (fun p t => rfl) _ s

/- The plan of destroying all but the connections. -/
def objectsPlan : Plan E :=
  (guardsPlan .savepoint (places ·.savepoints)).followedBy <|
    (guardsPlan .transaction
      (places ·.transactions)).followedBy <|
        .only (.other (lift clear)
          (.lift (clear_affects (A := (· = .compile)))))

theorem objectsPlan_last (s : Session E) :
    objectsPlan.last s = (destroyObjects s).2 := by
  have hCleared : ∀ t : Session E,
      (Plan.only (.other (lift clear)
        (.lift (clear_affects (A := (· = .compile)))))).last
          t = (clear t).2 := fun t => rfl
  have hTransactions :
      GuardKind.transaction.destroy (E := E) =
        Transaction.destroy := rfl
  have hSavepoints :
      GuardKind.savepoint.destroy (E := E) =
        Savepoint.destroy := rfl
  unfold objectsPlan
  simp only [Plan.last_followedBy, guardsPlan_last]
  rw [hCleared, hTransactions, hSavepoints, destroyObjects_eq]
  simp only [Quiet.run_bind, Quiet.read]

/- The plan of destroying every object that is left. -/
def dismantlePlan : Plan E :=
  objectsPlan.followedBy <|
    (Plan.look fun s =>
      .each Operation.vacateSerializedPlan
        (slots s.world.serialized)).followedBy <|
    .look fun s =>
      .each Operation.vacatePlan (slots s.world.plain)

theorem dismantlePlan_last (s : Session E) :
    dismantlePlan.last s = s.dismantle := by
  unfold dismantlePlan dismantle
  rw [dismantleAll_eq]
  simp only [Plan.last_followedBy, objectsPlan_last]
  simp only [Plan.last,
    Plan.last_each Operation.vacateSerializedPlan_last,
    Plan.last_each Operation.vacatePlan_last]
  simp only [StateT.run, Quiet.run_bind, Quiet.read]

/-
  The deeds of a session that carries out operations and then
  destroys every object that is left, the latest first.
-/
def journal (s : Session E) : List Operation → List (Deed E)
  | [] => dismantlePlan.deeds s
  | op :: r => journal (s.run op).2 r ++ op.plan.deeds s

/- The deeds of a session lead to its end. -/
theorem journal_chained
    (s : Session E)
    (ops : List Operation) :
    Chained s (s.journal ops)
      (s.runAll ops).2.dismantle := by
  induction ops generalizing s with
  | nil =>
      have hChained := dismantlePlan.chained s
      rw [dismantlePlan_last] at hChained
      exact hChained
  | cons op r ih =>
      have hFirst := op.plan.chained s
      rw [Operation.plan_last] at hFirst
      exact hFirst.append (ih _)

end Session

end SqliteAccess
