import SqliteAccess.Proofs.Operation.Effects
import SqliteAccess.Proofs.Transaction.Calls

/-
  What is done to guards, to connections and to the use of
  the engine, one thing after the other.

  A plan looks at the session and acts.  When it is carried
  out, its acts become deeds: each knows the session in which
  it was done.

  Key definitions include:
    * `Act`
    * `Deed`
    * `Chained`
    * `Plan`

  The deeds are characterized by:
    * `Deed.sent_after`
    * `Deed.keeps_guards`
    * `Plan.chained`
-/

namespace SqliteAccess

variable {E : Engine} {A : Effect → Prop}

open Quiet Attempt

------------------------------------------------------------
-- Acts
------------------------------------------------------------

/- A call on the library as a whole. -/
inductive LibraryCall where
  | start
  | stop
  | hold
  | release
  deriving DecidableEq

/- Carry out a call on the library. -/
def LibraryCall.perform : LibraryCall → Attempt E Unit
  | start => Library.start
  | stop => lift do
      let _ ← Library.stop
  | hold => Library.hold
  | release => lift Library.release

/-
  What is done to a connection but counting it: it is made in
  a slot, closed and forgotten with its slot, or taken to the
  slot of a serialized one.
-/
inductive ConnectionCall where
  | establish
      (c : Nat)
      (path : Bytes)
      (options : ConnectionOptions)
  | vacate (c : Nat) (id : ConnectionId)
  | vacateSerialized (z : Nat) (id : ConnectionId)
  | serialize (z c : Nat) (id : ConnectionId)
  deriving DecidableEq

/- Carry out a call on a connection. -/
def ConnectionCall.perform : ConnectionCall → Attempt E Unit
  | establish c path options => do
      let id ← Connection.establish path options
      lift <| update fun w =>
        { w with plain := w.plain.put c id }
  | vacate c id => lift do
      update fun w => { w with plain := w.plain.erase c }
      Connection.shut id
      update (Connection.forget id)
  | vacateSerialized z id => lift do
      update fun w =>
        { w with serialized := w.serialized.erase z }
      Connection.shut id
      update (Connection.forget id)
  | serialize z c id => lift <| update fun w =>
      { w with
        plain := w.plain.erase c
        serialized := w.serialized.put z id }

/-
  Something that is done in one piece: a call on a guard, on
  the library or on a connection, or anything else, which
  compiles texts at most.
-/
inductive Act (E : Engine) where
  | guard (call : GuardCall)
  | library (call : LibraryCall)
  | connection (call : ConnectionCall)
  | other
      (x : Attempt E Unit)
      (hOther : x.Affects (· = .compile))

/- The call of an act on a guard. -/
def Act.guard? : Act E → Option GuardCall
  | guard call => some call
  | _ => none

theorem Act.eq_of_guard?
    {a : Act E}
    {call : GuardCall}
    (hCall : a.guard? = some call) :
    a = .guard call := by
  cases a <;> cases hCall
  rfl

/- Carry out an act. -/
def Act.perform : Act E → Attempt E Unit
  | guard call => call.perform
  | library call => call.perform
  | connection call => call.perform
  | other x _ => x

------------------------------------------------------------
-- Effects of Acts
------------------------------------------------------------

theorem GuardCall.perform_affects
    (hCompile : A .compile)
    (hGuard : A .guard)
    (call : GuardCall) :
    Attempt.Affects (E := E) A call.perform := by
  cases call with
  | begin c p type =>
      exact Transaction.start_affects hCompile hGuard p c type
  | nest t p name =>
      exact Transaction.savepoint_affects hGuard hCompile t p
        name
  | nestOn c p name =>
      exact Savepoint.start_affects hCompile hGuard p c name
  | complete k p =>
      cases k with
      | transaction =>
          exact Transaction.commit_affects hCompile hGuard p
      | savepoint =>
          exact Savepoint.release_affects hCompile hGuard p
  | rollback k p =>
      cases k with
      | transaction =>
          exact Transaction.rollback_affects hCompile hGuard p
      | savepoint =>
          exact Savepoint.rollback_affects hCompile hGuard p
  | move k source target =>
      cases k with
      | transaction =>
          exact .lift (Transaction.move_affects hGuard _ _)
      | savepoint =>
          exact .lift (Savepoint.move_affects hGuard _ _)
  | assign k source target =>
      cases k with
      | transaction =>
          exact .lift
            (Transaction.assign_affects hCompile hGuard _ _)
      | savepoint =>
          exact .lift
            (Savepoint.assign_affects hCompile hGuard _ _)
  | destroy k p =>
      cases k with
      | transaction =>
          exact .lift
            (Transaction.destroy_affects hCompile hGuard p)
      | savepoint =>
          exact .lift
            (Savepoint.destroy_affects hCompile hGuard p)

section Library

variable (hPower : A .power)

include hPower

theorem Library.modify_affects (f : Library → Library) :
    Quiet.Affects (E := E) A
      (update (World.modifyLibrary f)) :=
  fun s => .single (.powered hPower (f s.world.library))

theorem Library.start_affects :
    Attempt.Affects (E := E) A start := by
  apply Attempt.Affects.bind
    (.lift (modify_affects hPower _))
  intro _
  apply Attempt.Affects.bind (.read _)
  intro started
  apply Attempt.Affects.ite
  case hElse => exact .pure ()
  apply Attempt.Affects.bind
  · apply Attempt.Affects.lift
    exact .invoke fun f hSome => by cases hSome; exact hPower
  intro code
  apply Attempt.Affects.ite
  · exact .failed
  · apply Attempt.Affects.bind
      (.lift (modify_affects hPower _))
    intro _
    apply Attempt.Affects.bind (.ask rfl)
    exact fun version => .lift (.note _ _ _)

theorem Library.stopNow_affects :
    Quiet.Affects (E := E) A stopNow := by
  apply Quiet.Affects.bind
  · exact .invoke fun f hSome => by cases hSome; exact hPower
  intro code
  apply Quiet.Affects.ite
  · exact .bind (.note _ _ _) fun _ => .pure _
  · apply Quiet.Affects.bind (modify_affects hPower _)
    intro _
    exact .bind (.note _ _ _) fun _ => .pure _

theorem Library.stop_affects :
    Quiet.Affects (E := E) A stop := by
  apply Quiet.Affects.bind (.read _)
  intro library
  apply Quiet.Affects.ite
  · exact .bind (modify_affects hPower _) fun _ => .pure _
  · apply Quiet.Affects.ite
    · exact .bind (modify_affects hPower _) fun _ => .pure _
    · exact stopNow_affects hPower

theorem Library.release_affects :
    Quiet.Affects (E := E) A release := by
  apply Quiet.Affects.bind (modify_affects hPower _)
  intro _
  apply Quiet.Affects.bind (.read _)
  intro library
  apply Quiet.Affects.ite
  · exact .bind (stop_affects hPower) fun _ => .pure _
  · exact .pure ()

theorem LibraryCall.perform_affects (call : LibraryCall) :
    Attempt.Affects (E := E) A call.perform := by
  cases call with
  | start => exact Library.start_affects hPower
  | stop =>
      apply Attempt.Affects.lift
      exact .bind (Library.stop_affects hPower) fun _ =>
        .pure ()
  | hold =>
      apply Attempt.Affects.bind (Library.start_affects hPower)
      exact fun _ => .lift (Library.modify_affects hPower _)
  | release => exact .lift (Library.release_affects hPower)

end Library

theorem ConnectionCall.perform_affects
    (hCompile : A .compile)
    (hConnect : A .connect)
    (call : ConnectionCall) :
    Attempt.Affects (E := E) A call.perform := by
  have hRehoused : ∀ {f : World E → World E},
      (∀ w, ∃ plain serialized,
        f w = { w with plain, serialized }) →
      Quiet.Affects A (update f) := by
    intro f hOnly s
    rcases hOnly s.world with ⟨plain, serialized, hSame⟩
    apply Relation.ReflTransGen.single
    unfold Quiet.update
    rw [hSame]
    exact .rehoused hConnect plain serialized
  have hGone : ∀ (f : World E → World E) (id : ConnectionId),
      Quiet.Affects A (update f) →
      Attempt.Affects A (lift
        (update f >>= fun _ => Connection.shut id >>= fun _ =>
          update (Connection.forget id))) := by
    intro f id hSlot
    apply Attempt.Affects.lift
    apply Quiet.Affects.bind hSlot
    intro _
    apply Quiet.Affects.bind (Connection.shut_affects id)
    exact fun _ s => .single (.forgotten hConnect id)
  cases call with
  | establish c path options =>
      apply Attempt.Affects.bind
      · exact Connection.establish_affects hCompile hConnect
          path options
      intro id
      exact .lift (hRehoused fun w => ⟨_, w.serialized, rfl⟩)
  | vacate c id =>
      exact hGone _ id
        (hRehoused fun w => ⟨_, w.serialized, rfl⟩)
  | vacateSerialized z id =>
      exact hGone _ id (hRehoused fun w => ⟨w.plain, _, rfl⟩)
  | serialize z c id =>
      exact .lift (hRehoused fun w => ⟨_, _, rfl⟩)

/- An act is kept from nothing. -/
theorem Act.perform_affects (act : Act E) :
    act.perform.Affects (fun _ => True) := by
  cases act with
  | guard call => exact call.perform_affects trivial trivial
  | library call => exact call.perform_affects trivial
  | connection call =>
      exact call.perform_affects trivial trivial
  | other x hOther =>
      exact hOther.mono fun _ _ => trivial

------------------------------------------------------------
-- Deeds
------------------------------------------------------------

/- An act and the session in which it was done. -/
structure Deed (E : Engine) where
  act : Act E
  before : Session E

namespace Deed

/- Whether a deed succeeded. -/
def result (d : Deed E) : Except Failure Unit :=
  (d.act.perform.run d.before).1

/- The session that a deed left. -/
def after (d : Deed E) : Session E :=
  (d.act.perform.run d.before).2

/- The calls of a deed, the latest first. -/
def events (d : Deed E) : Trace :=
  d.after.world.trace.take
    (d.after.world.trace.length - d.before.world.trace.length)

/- The texts that a deed sent, the latest first. -/
def sent (d : Deed E) : List Bytes :=
  d.events.sent

/- What a deed adds to the calls of a session. -/
theorem trace_after (d : Deed E) :
    d.after.world.trace =
      d.events ++ d.before.world.trace := by
  rcases (d.act.perform_affects d.before).trace_suffix with
    ⟨l, hTrace⟩
  have hAfter : d.after.world.trace =
      l ++ d.before.world.trace := hTrace.symm
  unfold events
  rw [hAfter]
  simp

/- What a deed adds to the texts that were sent. -/
theorem sent_after (d : Deed E) :
    d.after.sent = d.sent ++ d.before.sent := by
  unfold Session.sent
  rw [d.trace_after]
  exact List.filterMap_append

/- Only a call on a guard changes a guard. -/
theorem keeps_guards
    (d : Deed E)
    (hNoGuard : ∀ call, d.act ≠ .guard call) :
    d.after.world.active = d.before.world.active := by
  have hKept : ∀ {A : Effect → Prop}, ¬ A .guard →
      d.act.perform.Affects A →
      d.after.world.active = d.before.world.active := by
    intro A hGuard hAffects
    have hSame := (hAffects d.before).keeps_guards hGuard
    exact World.active_congr hSame.1 hSame.2
  rcases d with ⟨act, before⟩
  cases act with
  | guard call => exact absurd rfl (hNoGuard call)
  | library call =>
      exact hKept (by simp)
        (call.perform_affects (A := (· = .power)) rfl)
  | connection call =>
      exact hKept (by simp)
        (call.perform_affects
          (A := fun f => f = .compile ∨ f = .connect)
          (.inl rfl) (.inr rfl))
  | other x hOther =>
      exact hKept (by simp) hOther

end Deed

/- What stands before and after one place of a list. -/
theorem split_of_getElem?
    {α : Type}
    {l : List α}
    {a : α}
    {n : Nat}
    (hFound : l[n]? = some a) :
    l = l.take n ++ a :: l.drop (n + 1) := by
  rcases List.getElem?_eq_some_iff.mp hFound with
    ⟨hLess, rfl⟩
  rw [List.getElem_cons_drop, List.take_append_drop]

/-
  Whether deeds, the latest first, were done one after the
  other, from one session to another.
-/
def Chained (s : Session E) :
    List (Deed E) → Session E → Prop
  | [], s' => s = s'
  | d :: earlier, s' =>
      Chained s earlier d.before ∧ d.after = s'

namespace Chained

variable {s s' s'' : Session E} {l l' : List (Deed E)}

theorem append
    (hFirst : Chained s l s')
    (hSecond : Chained s' l' s'') :
    Chained s (l' ++ l) s'' := by
  induction l' generalizing s'' with
  | nil =>
      cases hSecond
      exact hFirst
  | cons d earlier ih => exact ⟨ih hSecond.1, hSecond.2⟩

/- What was done before and after a deed. -/
theorem split
    {d : Deed E}
    (hChained : Chained s (l' ++ d :: l) s') :
    Chained s l d.before ∧ Chained d.after l' s' := by
  induction l' generalizing s' with
  | nil => exact ⟨hChained.1, hChained.2⟩
  | cons d' earlier ih =>
      rcases ih hChained.1 with ⟨hBefore, hAfter⟩
      exact ⟨hBefore, hAfter, hChained.2⟩

end Chained

------------------------------------------------------------
-- Plans
------------------------------------------------------------

/-
  A plan ends, looks at the session, or acts and goes on
  according to whether that succeeded.
-/
inductive Plan (E : Engine) where
  | done
  | look (next : Session E → Plan E)
  | act (a : Act E) (next : Bool → Plan E)

namespace Plan

/-
  The deeds of a plan that is carried out in a session, the
  latest first.
-/
def deeds : Plan E → Session E → List (Deed E)
  | done, _ => []
  | look next, s => (next s).deeds s
  | act a next, s =>
      let d : Deed E := { act := a, before := s }
      (next d.result.isOk).deeds d.after ++ [d]

/- The session that a plan leaves. -/
def last : Plan E → Session E → Session E
  | done, s => s
  | look next, s => (next s).last s
  | act a next, s =>
      let d : Deed E := { act := a, before := s }
      (next d.result.isOk).last d.after

/- One plan after another. -/
def followedBy : Plan E → Plan E → Plan E
  | done, q => q
  | look next, q => look fun s => (next s).followedBy q
  | act a next, q => act a fun ok => (next ok).followedBy q

/- A single act, whatever its result. -/
def only (a : Act E) : Plan E :=
  act a fun _ => done

/- An act, and a plan that is carried out if it succeeds. -/
def andThen (a : Act E) (next : Plan E) : Plan E :=
  act a fun ok => if ok then next else done

/- A plan for each element of a list. -/
def each {α : Type} (f : α → Plan E) : List α → Plan E
  | [] => done
  | x :: r => (f x).followedBy (each f r)

/- A plan goes on after an act that succeeded. -/
theorem last_act_of_ok
    {a : Act E}
    {next : Bool → Plan E}
    {s s' : Session E}
    (hOk : a.perform.run s = (.ok (), s')) :
    (act a next).last s = (next true).last s' := by
  show (next (a.perform.run s).1.isOk).last
    (a.perform.run s).2 = _
  rw [hOk]
  rfl

/- A plan goes on after an act that failed. -/
theorem last_act_of_error
    {a : Act E}
    {next : Bool → Plan E}
    {s s' : Session E}
    {e : Failure}
    (hError : a.perform.run s = (.error e, s')) :
    (act a next).last s = (next false).last s' := by
  show (next (a.perform.run s).1.isOk).last
    (a.perform.run s).2 = _
  rw [hError]
  rfl

/- The deeds of a plan are done one after the other. -/
theorem chained
    (p : Plan E)
    (s : Session E) :
    Chained s (p.deeds s) (p.last s) := by
  induction p generalizing s with
  | done => rfl
  | look next ih => exact ih s s
  | act a next ih =>
      exact Chained.append ⟨rfl, rfl⟩ (ih _ _)

@[simp]
theorem last_followedBy
    (p q : Plan E)
    (s : Session E) :
    (p.followedBy q).last s = q.last (p.last s) := by
  induction p generalizing s with
  | done => rfl
  | look next ih => exact ih s s
  | act a next ih => exact ih _ _

@[simp]
theorem deeds_followedBy
    (p q : Plan E)
    (s : Session E) :
    (p.followedBy q).deeds s =
      q.deeds (p.last s) ++ p.deeds s := by
  induction p generalizing s with
  | done => exact (List.append_nil _).symm
  | look next ih => exact ih s s
  | act a next ih =>
      show _ ++ [_] = _ ++ (_ ++ [_])
      rw [ih, List.append_assoc]
      rfl

/- A plan for each element does what a loop does. -/
theorem last_each
    {α : Type}
    {f : α → Plan E}
    {x : α → Quiet E Unit}
    (hEach : ∀ a s, (f a).last s = (x a s).2)
    (l : List α)
    (s : Session E) :
    (each f l).last s = (Quiet.each x l s).2 := by
  induction l generalizing s with
  | nil => rfl
  | cons a r ih =>
      rw [each, last_followedBy, ih, hEach]
      rfl

end Plan

end SqliteAccess
