import Mathlib.Data.List.Infix
import SqliteAccess.Proofs.Statement.Finalized
import SqliteAccess.Proofs.Transaction.Current
import SqliteAccess.Proofs.Transaction.Within

/-
  The stack of savepoints, and what becomes of it when a new
  savepoint is moved over the guard of an older one.

  The new savepoint is made before the older one is released.
  As it stands above that one, or has the same name, it is
  released in its place or along with it, and its guard stays
  active without a savepoint of its own.

  Key definitions include:
    * `SavepointStack`
    * `SavepointStack.release?`
    * `SavepointStack.carry?`
    * `Session.Restacks`
    * `Session.Replaces`
    * `SavepointStack.Displaced`

  The stack is characterized by:
    * `StackCommand.ofSql?_startSql`
    * `SavepointStack.displaced_of_release_push`
    * `Session.Replaces.sent`
    * `Session.replaced_savepoint_displaced`
-/

namespace SqliteAccess

variable {E : Engine}

open Quiet Attempt

------------------------------------------------------------
-- Commands
------------------------------------------------------------

/- What a text does to the savepoints of a database. -/
inductive StackCommand where
  | push (name : Bytes)
  | release (name : Bytes)
  | rewind (name : Bytes)
  | clear
  deriving DecidableEq

namespace StackCommand

/- The command that a text is, if it is one. -/
def ofSql? (sql : Bytes) : Option StackCommand :=
  match sql.dropPrefix? (Savepoint.startSql []),
      sql.dropPrefix? (Savepoint.releaseSql []),
      sql.dropPrefix? (Savepoint.rollbackSql []) with
  | some name, _, _ => some (push name)
  | _, some name, _ => some (release name)
  | _, _, some name => some (rewind name)
  | _, _, _ => if Transaction.ends sql then some clear else none

variable (name : Bytes)

theorem ofSql?_startSql :
    ofSql? (Savepoint.startSql name) = some (push name) := by
  have hName : (Savepoint.startSql name).dropPrefix?
      (Savepoint.startSql []) = some name :=
    List.dropPrefix?_append_of_beq name (by decide +kernel)
  unfold ofSql?
  rw [hName]

theorem ofSql?_releaseSql :
    ofSql? (Savepoint.releaseSql name) =
      some (release name) := by
  have hOther : (Savepoint.releaseSql name).dropPrefix?
      (Savepoint.startSql []) = none := rfl
  have hName : (Savepoint.releaseSql name).dropPrefix?
      (Savepoint.releaseSql []) = some name :=
    List.dropPrefix?_append_of_beq name (by decide +kernel)
  unfold ofSql?
  rw [hOther, hName]

theorem ofSql?_rollbackSql :
    ofSql? (Savepoint.rollbackSql name) =
      some (rewind name) := by
  have hStart : (Savepoint.rollbackSql name).dropPrefix?
      (Savepoint.startSql []) = none := rfl
  have hRelease : (Savepoint.rollbackSql name).dropPrefix?
      (Savepoint.releaseSql []) = none := rfl
  have hName : (Savepoint.rollbackSql name).dropPrefix?
      (Savepoint.rollbackSql []) = some name :=
    List.dropPrefix?_append_of_beq name (by decide +kernel)
  unfold ofSql?
  rw [hStart, hRelease, hName]

end StackCommand

------------------------------------------------------------
-- Stacks
------------------------------------------------------------

/- A savepoint of a database, by its number and its name. -/
structure StackEntry where
  number : Nat
  name : Bytes
  deriving DecidableEq

/-
  The savepoints of a database, the latest first, and how many
  were made.  They are numbered in the order in which they
  were made.
-/
structure SavepointStack where
  entries : List StackEntry
  made : Nat
  numbered : ∀ e ∈ entries, e.number < made
  deriving DecidableEq

namespace SavepointStack

/- The stack with a new savepoint of a name. -/
def push
    (name : Bytes)
    (stack : SavepointStack) : SavepointStack where
  entries := ⟨stack.made, name⟩ :: stack.entries
  made := stack.made + 1
  numbered := by
    intro e hMember
    rcases List.mem_cons.mp hMember with rfl | hOld
    · exact Nat.lt_succ_self _
    · exact Nat.lt_succ_of_lt (stack.numbered e hOld)

/- The stack with some of its savepoints only. -/
def keep
    (stack : SavepointStack)
    (entries : List StackEntry)
    (hSub : entries.Sublist stack.entries) :
    SavepointStack where
  entries := entries
  made := stack.made
  numbered e hMember :=
    stack.numbered e (hSub.subset hMember)

/-
  The part of a stack from the latest savepoint of a name
  downwards, which is empty if there is none.
-/
def downFrom
    (name : Bytes)
    (stack : SavepointStack) : List StackEntry :=
  stack.entries.dropWhile (·.name ≠ name)

theorem downFrom_sublist
    (name : Bytes)
    (stack : SavepointStack) :
    (stack.downFrom name).Sublist stack.entries :=
  List.dropWhile_sublist _

/- The savepoint that a name stands for. -/
def target?
    (name : Bytes)
    (stack : SavepointStack) : Option StackEntry :=
  (stack.downFrom name).head?

/-
  Release the latest savepoint of a name and everything above
  it.  There has to be one.
-/
def release?
    (name : Bytes)
    (stack : SavepointStack) : Option SavepointStack :=
  if (stack.target? name).isSome then
    some (stack.keep (stack.downFrom name).tail
      ((List.tail_sublist _).trans
        (stack.downFrom_sublist name)))
  else none

/-
  Go back to the latest savepoint of a name, which stays.
  There has to be one.
-/
def rewind?
    (name : Bytes)
    (stack : SavepointStack) : Option SavepointStack :=
  if (stack.target? name).isSome then
    some (stack.keep (stack.downFrom name)
      (stack.downFrom_sublist name))
  else none

/-
  The stack once a text was carried out, if that is possible.
  Texts that are no commands leave it as it is.
-/
def carry?
    (sql : Bytes)
    (stack : SavepointStack) : Option SavepointStack :=
  match StackCommand.ofSql? sql with
  | none => some stack
  | some (.push name) => some (stack.push name)
  | some (.release name) => stack.release? name
  | some (.rewind name) => stack.rewind? name
  | some .clear => some (stack.keep [] (List.nil_sublist _))

/- The same for several texts, the latest first. -/
def carryAll? :
    List Bytes → SavepointStack → Option SavepointStack
  | [], stack => some stack
  | sql :: r, stack => (carryAll? r stack).bind (carry? sql)

/-
  What is left of a stack once a savepoint was made on it and
  an older name was released:

    * `gone`: the new savepoint is not there.
    * `astray`: its name does not stand for it.
    * `refused`: what a guard of its name would send cannot be
      carried out, unless the name stands for another one.
    * `doubled`: if it has the older name, all others are.
    * `dropped`: otherwise those are that would be left if it
      had not been made.
-/
structure Displaced
    (stack : SavepointStack)
    (name old : Bytes)
    (stack' : SavepointStack) : Prop where
  gone : ∀ e ∈ stack'.entries, e.number ≠ stack.made
  astray : ∀ e, stack'.target? name = some e →
    e.number ≠ stack.made
  refused : stack'.target? name = none →
    stack'.carry? (Savepoint.releaseSql name) = none ∧
      stack'.carry? (Savepoint.rollbackSql name) = none
  doubled : name = old → stack'.entries = stack.entries
  dropped : name ≠ old →
    (stack.release? old).map (·.entries) = some stack'.entries

variable {stack stack' : SavepointStack} {name old : Bytes}

/- A name that stands for nothing has nothing to end. -/
theorem carry?_of_no_target
    (hNone : stack.target? name = none) :
    stack.carry? (Savepoint.releaseSql name) = none ∧
      stack.carry? (Savepoint.rollbackSql name) = none := by
  unfold carry?
  rw [StackCommand.ofSql?_releaseSql,
    StackCommand.ofSql?_rollbackSql]
  simp [release?, rewind?, hNone]

/- A new savepoint is found first by its own name only. -/
theorem downFrom_push :
    (stack.push name).downFrom old =
      if name = old then (stack.push name).entries
      else stack.downFrom old := by
  unfold downFrom push
  rw [List.dropWhile_cons]
  split_ifs <;> simp_all

/- A savepoint is not left if it was made before a release. -/
theorem displaced_of_release_push
    (hReleased : (stack.push name).release? old =
      some stack') :
    stack.Displaced name old stack' := by
  unfold release? at hReleased
  split at hReleased
  case isFalse => cases hReleased
  case isTrue hFound =>
    cases hReleased
    have hOlder : ∀ l : List StackEntry,
        l.Sublist stack.entries →
          ∀ e ∈ l, e.number ≠ stack.made :=
      fun l hSub e hMember =>
        Nat.ne_of_lt (stack.numbered e (hSub.subset hMember))
    have hLeft : ((stack.push name).downFrom old).tail =
        if name = old then stack.entries
        else (stack.downFrom old).tail := by
      rw [downFrom_push]
      split <;> rfl
    have hSub : ((stack.push name).downFrom old).tail.Sublist
        stack.entries := by
      rw [hLeft]
      split
      · exact List.Sublist.refl _
      · exact (List.tail_sublist _).trans
          (stack.downFrom_sublist old)
    refine ⟨hOlder _ hSub, ?_, carry?_of_no_target, ?_, ?_⟩
    · intro e hTarget
      apply hOlder _ hSub
      exact (downFrom_sublist name _).subset
        (List.mem_of_mem_head? hTarget)
    · intro hSame
      exact hLeft.trans (if_pos hSame)
    · intro hOther
      unfold release? target? at *
      rw [downFrom_push, if_neg hOther] at hFound
      rw [if_pos hFound]
      exact congrArg some (hLeft.trans (if_neg hOther)).symm

end SavepointStack

------------------------------------------------------------
-- Stacks of Databases
------------------------------------------------------------

/-
  Whether everything that a session has sent was carried out
  on a database, and what that made of its savepoints.
-/
def Session.Restacks
    (db : DatabaseHandle)
    (stack stack' : SavepointStack)
    (s s' : Session E) : Prop :=
  ∃ l, s'.sent = l ++ s.sent ∧
    s'.carried = l.map (db, ·) ++ s.carried ∧
    stack.carryAll? l = some stack'

/- What was sent tells what became of the savepoints. -/
theorem Session.Restacks.carry
    {db : DatabaseHandle}
    {stack stack' : SavepointStack}
    {sql : Bytes}
    {s s' : Session E}
    (hRestacks : s.Restacks db stack stack' s')
    (hSent : s'.sent = sql :: s.sent) :
    stack.carry? sql = some stack' := by
  rcases hRestacks with ⟨l, hAll, _, hStack⟩
  have hOne : [sql] ++ s.sent = l ++ s.sent :=
    hSent.symm.trans hAll
  cases List.append_cancel_right hOne
  exact hStack

/-
  Whether the engine says that a transaction of a database is
  open if there are savepoints.
-/
def SavepointStack.Told
    (stack : SavepointStack)
    (db : DatabaseHandle)
    (s : Session E) : Prop :=
  stack.entries ≠ [] →
    (E.answer (.autocommit db) s.world.engine).1 = false

------------------------------------------------------------
-- Replacing Savepoints
------------------------------------------------------------

/- A call that does not fail has returned. -/
theorem Attempt.eq_ok_of_isOk
    {x : Attempt E Unit}
    {s : Session E}
    (hDone : (x.run s).1.isOk = true) :
    x.run s = (.ok (), (x.run s).2) := by
  rcases hRun : x.run s with ⟨result, t⟩
  rw [hRun] at hDone
  cases result with
  | ok => rfl
  | error e => cases hDone

/- The guard of a savepoint that was made. -/
def Savepoint.made
    (c : Option ConnectionId)
    (name : Bytes) : Guard :=
  Savepoint.guard { connection := c, name, active := true }

/- A savepoint that was made was sent and has a guard. -/
theorem Savepoint.start_done
    {c : ConnectionId}
    {p : Place}
    {name : Bytes}
    {s s' : Session E}
    (hRun : (start c p name).run s = (.ok (), s')) :
    s'.sent = startSql name :: s.sent ∧
      s'.world.hasGuard .savepoint p = true ∧
      ∀ k q, s'.world.active k q =
        if k = .savepoint ∧ q = p then
          some (made (some c) name)
        else s.world.active k q := by
  unfold start at hRun
  rcases run_bind_eq_ok.mp hRun with ⟨_, t, hValid, hNext⟩
  have hSame : t = s := by
    unfold require at hValid
    split at hValid
    · cases hValid
      rfl
    · cases hValid
  subst hSame
  rcases run_bind_eq_ok.mp hNext with ⟨n, t', hDone, hKept⟩
  cases hKept
  have hText := Connection.sendable_of_execute
    (startSql_not_blank name) hDone
  have hSent := Connection.execute_sent hText.text c t
  have hGuards := Connection.execute_guards c
    (startSql name) t
  rw [if_pos ⟨Connection.isOpen_of_execute hDone, hText.fits⟩]
    at hSent
  rw [hDone] at hSent hGuards
  refine ⟨hSent, by simp [World.hasGuard, Table.contains],
    fun k q => ?_⟩
  show World.active _ k q = _
  rw [World.active_putSavepoint rfl, hGuards]
  rfl

namespace Session

/-
  Whether a savepoint was made in a transaction and then
  moved over an active guard on the same connection, with no
  command that failed:

    * `older`, `active`, `connected`: the guard that is moved
      over, which belongs to the same connection.
    * `made`: the new savepoint is made somewhere else.
    * `pushed`, `told`: the engine has carried that out.
    * `assigned`: its guard is moved over the other one.
    * `fits`, `released`: the older name is not too long to be
      released, and the engine has carried that out as well.
-/
structure Replaces
    (t p q : Place)
    (name : Bytes)
    (old : Savepoint)
    (db : DatabaseHandle)
    (stack stack₁ stack₂ : SavepointStack)
    (s s₁ s₂ : Session E) : Prop where
  older : s.world.savepoints.get? p = some old
  active : old.active = true
  connected :
    (s.world.transactions.get? t).map (·.connection) =
      some old.connection
  apart : q ≠ p
  made : (Transaction.savepoint t q name).run s =
    (.ok (), s₁)
  reached : s₁.world.handleOf old.connection = some db
  pushed : s.Restacks db stack stack₁ s₁
  told : stack₁.Told db s₁
  assigned : (Savepoint.assign q p s₁).2 = s₂
  fits : (Savepoint.releaseSql old.name).length ≤
    Statement.longestText
  released : s₁.Restacks db stack₁ stack₂ s₂

namespace Replaces

variable {t p q : Place} {name : Bytes} {old : Savepoint}
variable {db : DatabaseHandle}
variable {stack stack₁ stack₂ : SavepointStack}
variable {s s₁ s₂ : Session E}
variable
  (hReplaces : s.Replaces t p q name old db stack stack₁
    stack₂ s₁ s₂)

include hReplaces

/- The new savepoint is made on the connection of the old. -/
theorem start :
    ∃ c, old.connection = some c ∧
      (Savepoint.start c q name).run s = (.ok (), s₁) := by
  rcases GuardCall.nest_cases t q name s with
    ⟨e, hRun⟩ | ⟨g, c, hActive, hOn, hRun⟩
  · rw [hReplaces.made] at hRun
    cases hRun
  · rcases World.active_transaction hActive with
      ⟨txn, hGuard, _, rfl⟩
    have hSame := hReplaces.connected
    rw [hGuard] at hSame
    refine ⟨c, ?_, hRun.symm.trans hReplaces.made⟩
    exact (Option.some.inj hSame).symm.trans hOn

/- The new savepoint is the latest one. -/
theorem pushed_eq :
    stack₁ = stack.push name := by
  rcases hReplaces.start with ⟨c, _, hRun⟩
  have hCarried := hReplaces.pushed.carry
    (Savepoint.start_done hRun).1
  unfold SavepointStack.carry? at hCarried
  rw [StackCommand.ofSql?_startSql] at hCarried
  exact (Option.some.inj hCarried).symm

/- The older guard is active until it is moved over. -/
theorem still :
    s₁.world.active .savepoint p = some old.guard := by
  rcases hReplaces.start with ⟨c, _, hRun⟩
  rw [(Savepoint.start_done hRun).2.2,
    if_neg fun h => hReplaces.apart h.2.symm]
  exact World.active_of_savepoint hReplaces.older
    hReplaces.active

/- The engine says that a transaction is open. -/
theorem busy :
    s₁.world.inTransaction old.connection = true := by
  have hTold := hReplaces.told
  rw [hReplaces.pushed_eq] at hTold
  simp [World.inTransaction, hReplaces.reached,
    hTold (List.cons_ne_nil _ _)]

/- The name of the older savepoint is released. -/
theorem sent :
    s₂.sent = Savepoint.releaseSql old.name :: s₁.sent := by
  have hLeaves := GuardKind.abandon_leaves hReplaces.still
  have hSent := hLeaves.sent_of_busy
    (GuardKind.farewell_not_blank hReplaces.still)
    hReplaces.busy
  have hRun := GuardKind.assign_run (k := .savepoint)
    (s := s₁) hReplaces.apart
  have hAssigned : (GuardKind.savepoint.assign q p
      s₁).2 = s₂ :=
    hReplaces.assigned
  have hMoved : s₂.sent =
      (GuardKind.savepoint.abandon p s₁).2.sent := by
    rw [← hAssigned, hRun]
    exact congrArg Trace.sent World.trace_moveGuard
  exact hMoved.trans (hSent.trans (if_pos hReplaces.fits))

/- The guard has the new name where it was moved to. -/
theorem guards :
    s₂.world.active .savepoint p =
        some (Savepoint.made old.connection name) ∧
      s₂.world.active .savepoint q = none := by
  rcases hReplaces.start with ⟨c, hConnection, hRun⟩
  rcases Savepoint.start_done hRun with
    ⟨_, hPlaced, hActive⟩
  have hAfter := GuardKind.savepoint.abandon_guards p s₁
  have hSource : (GuardKind.savepoint.abandon p
      s₁).2.world.hasGuard .savepoint q = true := by
    rw [hAfter.2]
    exact hPlaced
  have hAssigned : (GuardKind.savepoint.assign q p
      s₁).2 = s₂ :=
    hReplaces.assigned
  rw [← hAssigned, GuardKind.assign_run hReplaces.apart,
    World.active_moveGuard hSource,
    World.active_moveGuard hSource, hAfter.1,
    World.active_endGuard, hActive, hConnection]
  have hApart := hReplaces.apart
  simp [hApart, hApart.symm]

end Replaces

/-
  A new savepoint that is moved over an active guard does not
  survive that, whatever savepoints there are and whatever it
  is called.  Its guard stays active all the same.
-/
theorem replaced_savepoint_displaced
    {t p q : Place}
    {name : Bytes}
    {old : Savepoint}
    {db : DatabaseHandle}
    {stack stack₁ stack₂ : SavepointStack}
    {s s₁ s₂ : Session E}
    (hReplaces : s.Replaces t p q name old db stack stack₁
      stack₂ s₁ s₂) :
    stack₁.entries = ⟨stack.made, name⟩ :: stack.entries ∧
      stack.Displaced name old.name stack₂ ∧
      s₂.world.active .savepoint p =
        some (Savepoint.made old.connection name) ∧
      s₂.world.active .savepoint q = none := by
  refine ⟨?_, ?_, hReplaces.guards⟩
  · rw [hReplaces.pushed_eq]
    rfl
  · have hCarried := hReplaces.released.carry hReplaces.sent
    unfold SavepointStack.carry? at hCarried
    rw [StackCommand.ofSql?_releaseSql,
      hReplaces.pushed_eq] at hCarried
    exact SavepointStack.displaced_of_release_push hCarried

/- Open a connection and make a savepoint in a transaction. -/
def stackedOps : List Operation :=
  [.openConnection 0 []
      { foreignKeys := false, strictQuoting := false },
    .begin 0 0 .deferred,
    .savepoint 0 0 (Bytes.ascii "a")]

/- A session with a savepoint in a transaction. -/
def stacked : Session Engine.scripted :=
  ((start idleEngine 10 {}).runAll stackedOps).2

/- The same with another savepoint in another place. -/
def stackedTwice : Session Engine.scripted :=
  ((Transaction.savepoint (.slot 0) (.slot 1)
    (Bytes.ascii "b")).run stacked).2

/- The same once it was moved over the first. -/
def stackedOver : Session Engine.scripted :=
  (Savepoint.assign (.slot 1) (.slot 0) stackedTwice).2

/- The stack with the first savepoint. -/
def oneSavepoint : SavepointStack where
  entries := [⟨0, Bytes.ascii "a"⟩]
  made := 1
  numbered := by simp

/- The stack with none. -/
def noSavepoint (made : Nat) : SavepointStack where
  entries := []
  made := made
  numbered := nofun

/- The second savepoint replaces the first. -/
theorem stacked_replaces :
    stacked.Replaces (.slot 0) (.slot 0) (.slot 1)
      (Bytes.ascii "b")
      { connection := some ⟨1⟩, name := Bytes.ascii "a"
        active := true }
      ⟨1⟩ oneSavepoint
      (oneSavepoint.push (Bytes.ascii "b")) (noSavepoint 2)
      stackedTwice stackedOver where
  older := by decide +kernel
  active := rfl
  connected := by decide +kernel
  apart := by decide
  made := by
    have hDone : ((Transaction.savepoint (.slot 0) (.slot 1)
        (Bytes.ascii "b")).run stacked).1.isOk = true := by
      decide +kernel
    exact Attempt.eq_ok_of_isOk hDone
  reached := by decide +kernel
  pushed := ⟨[Savepoint.startSql (Bytes.ascii "b")],
    by decide +kernel, by decide +kernel, by decide +kernel⟩
  told := fun _ => by decide +kernel
  assigned := rfl
  fits := by decide +kernel
  released := ⟨[Savepoint.releaseSql (Bytes.ascii "a")],
    by decide +kernel, by decide +kernel, by decide +kernel⟩

/- The second savepoint went with the first. -/
theorem stacked_savepoint_displaced :
    (oneSavepoint.push (Bytes.ascii "b")).entries =
        ⟨1, Bytes.ascii "b"⟩ :: oneSavepoint.entries ∧
      oneSavepoint.Displaced (Bytes.ascii "b")
        (Bytes.ascii "a") (noSavepoint 2) ∧
      stackedOver.world.active .savepoint (.slot 0) =
        some (Savepoint.made (some ⟨1⟩) (Bytes.ascii "b")) ∧
      stackedOver.world.active .savepoint (.slot 1) = none :=
  replaced_savepoint_displaced stacked_replaces

/- A savepoint that replaces another is not always kept. -/
theorem replaced_savepoint_lost :
    ¬ ∀ (engine : Engine.scripted.State)
        (patience : Nat)
        (log : Log)
        (ops : List Operation)
        (t p q : Place)
        (name : Bytes)
        (old : Savepoint)
        (db : DatabaseHandle)
        (stack stack₁ stack₂ : SavepointStack)
        (s₁ s₂ : Session Engine.scripted),
      ((start engine patience log).runAll ops).2.Replaces t p
          q name old db stack stack₁ stack₂ s₁ s₂ →
        stack₂.target? name = some ⟨stack.made, name⟩ := by
  intro hAll
  have hKept := hAll idleEngine 10 {} stackedOps _ _ _ _ _ _ _
    _ _ _ _ stacked_replaces
  exact absurd hKept (by decide +kernel)

end Session

end SqliteAccess
