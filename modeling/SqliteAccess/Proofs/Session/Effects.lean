import Mathlib.Logic.Relation
import SqliteAccess.Operation.Run
import SqliteAccess.Proofs.Session.Changes

/-
  What programs are kept from doing.

  Whatever the library does is made of small changes of the
  session.  Most of them are of no concern to guards and to
  the use of the engine; those that are have one of a few
  effects.  A program is kept from the effects that none of
  its changes has.

  Key definitions include:
    * `Effect`
    * `Change`
    * `Changes`
    * `Quiet.Affects`
    * `Attempt.Affects`

  The changes are characterized by:
    * `Changes.heard`
    * `Changes.keeps_guards`
    * `Changes.keeps_library`
    * `Changes.keeps_connections`
    * `Changes.handle`
    * `Attempt.Affects.bind`
    * `Attempt.Affects.ensuring`
-/

namespace SqliteAccess

variable {E : Engine} {α β : Type}

------------------------------------------------------------
-- Effects
------------------------------------------------------------

/-
  What a program may do beyond working with statements, rows
  and backups:

    * `compile`: hand a text to the engine
    * `power`: start or stop the engine, or count its holders
    * `guard`: change a guard
    * `connect`: make, keep or forget a connection
-/
inductive Effect where
  | compile
  | power
  | guard
  | connect
  deriving DecidableEq

/- The effect that a call has, if it has one. -/
def Call.effect? : Call → Option Effect
  | startup => some .power
  | shutdown => some .power
  | prepare .. => some .compile
  | _ => none

/-
  Whether two worlds differ in statements, rows and backups
  only, and in what their connections keep.  A connection may
  have lost its handle.
-/
structure World.Edited (w w' : World E) : Prop where
  trace : w'.trace = w.trace
  library : w'.library = w.library
  transactions : w'.transactions = w.transactions
  savepoints : w'.savepoints = w.savepoints
  plain : w'.plain = w.plain
  serialized : w'.serialized = w.serialized
  issued : w'.issued.connections = w.issued.connections
  present : ∀ c,
    w'.connections.contains c = w.connections.contains c
  handle : ∀ c, (w'.connection c).handle = none ∨
    (w'.connection c).handle = (w.connection c).handle

/-
  The changes of a session that have certain effects only.  A
  connection that is made has a new identity.
-/
inductive Change (A : Effect → Prop) :
    Session E → Session E → Prop
  | logged {s}
      (log : Log) :
      Change A s { s with log }
  | asked {s e}
      (hEffect : ∀ f, e.call.effect? = some f → A f)
      (engine : E.State) :
      Change A s
        { s with world := s.world.heard e engine }
  | edited {s w}
      (hEdited : s.world.Edited w) :
      Change A s { s with world := w }
  | powered {s}
      (hEffect : A .power)
      (library : Library) :
      Change A s
        { s with world := { s.world with library } }
  | guarded {s}
      (hEffect : A .guard)
      (transactions : Table Place Transaction)
      (savepoints : Table Place Savepoint) :
      Change A s
        { s with
          world :=
            { s.world with transactions, savepoints } }
  | connected {s c}
      (hEffect : A .connect)
      (hNew : c.number = s.world.issued.connections + 1)
      (conn : Connection) :
      Change A s
        { s with
          world :=
            { s.world with
              issued.connections := c.number
              connections :=
                s.world.connections.put c conn } }
  | forgotten {s}
      (hEffect : A .connect)
      (c : ConnectionId) :
      Change A s
        { s with
          world := Connection.forget c s.world }
  | rehoused {s}
      (hEffect : A .connect)
      (plain serialized : Table Nat ConnectionId) :
      Change A s
        { s with
          world := { s.world with plain, serialized } }

/- Any number of changes. -/
def Changes (A : Effect → Prop) :
    Session E → Session E → Prop :=
  Relation.ReflTransGen (Change A)

------------------------------------------------------------
-- Edits
------------------------------------------------------------

namespace World.Edited

variable {w w' w'' : World E}

theorem refl (w : World E) : w.Edited w :=
  ⟨rfl, rfl, rfl, rfl, rfl, rfl, rfl, fun _ => rfl,
    fun _ => .inr rfl⟩

theorem trans
    (hFirst : w.Edited w')
    (hSecond : w'.Edited w'') :
    w.Edited w'' where
  trace := hSecond.trace.trans hFirst.trace
  library := hSecond.library.trans hFirst.library
  transactions :=
    hSecond.transactions.trans hFirst.transactions
  savepoints := hSecond.savepoints.trans hFirst.savepoints
  plain := hSecond.plain.trans hFirst.plain
  serialized := hSecond.serialized.trans hFirst.serialized
  issued := hSecond.issued.trans hFirst.issued
  present c := (hSecond.present c).trans (hFirst.present c)
  handle c := by
    rcases hSecond.handle c with hNone | hSame
    · exact .inl hNone
    · rcases hFirst.handle c with hNone | hSame'
      · exact .inl (hSame.trans hNone)
      · exact .inr (hSame.trans hSame')

/- A change of what connections do not keep. -/
theorem apart
    (w : World E)
    (statements : Table Place Statement)
    (anchors : Table Anchor Place)
    (rows : Table Nat Row)
    (backups : Table Place Backup)
    {issued : Issued}
    (hIssued : issued.connections = w.issued.connections) :
    w.Edited
      { w with statements, anchors, rows, backups, issued } :=
  ⟨rfl, rfl, rfl, rfl, rfl, rfl, hIssued, fun _ => rfl,
    fun _ => .inr rfl⟩

/- A change of a connection that gives it no handle. -/
theorem connection
    (w : World E)
    (c : ConnectionId)
    {f : Connection → Connection}
    (hHandle : ∀ conn, (f conn).handle = none ∨
      (f conn).handle = conn.handle) :
    w.Edited (w.modifyConnection c f) := by
  rw [World.modifyConnection_eq]
  refine ⟨rfl, rfl, rfl, rfl, rfl, rfl, rfl, ?_, ?_⟩
  · intro c'
    by_cases hSame : c' = c
    · subst hSame
      simp [Table.contains]
    · simp [Table.contains, hSame]
  · intro c'
    by_cases hSame : c' = c
    · subst hSame
      cases hConn : w.connections.get? c' with
      | none => simp [World.connection, hConn]
      | some conn =>
          simpa [World.connection, hConn] using hHandle conn
    · simp [World.connection, hSame]

/- The same of a connection that may not be given. -/
theorem linked
    (w : World E)
    (c : Option ConnectionId)
    {f : Connection → Connection}
    (hHandle : ∀ conn, (f conn).handle = conn.handle) :
    w.Edited (w.modifyLinked c f) := by
  cases c with
  | none => exact refl w
  | some c =>
      exact connection w c fun conn => .inr (hHandle conn)

theorem statement
    (w : World E)
    (p : Place)
    (f : Statement → Statement) :
    w.Edited (w.modifyStatement p f) := by
  rw [World.modifyStatement_eq]
  exact apart w _ _ _ _ rfl

theorem backup
    (w : World E)
    (p : Place)
    (f : Backup → Backup) :
    w.Edited (w.modifyBackup p f) := by
  rw [World.modifyBackup_eq]
  exact apart w _ _ _ _ rfl

end World.Edited

------------------------------------------------------------
-- Single Changes
------------------------------------------------------------

variable {A B : Effect → Prop} {s s' : Session E}

namespace Change

/- Changes that may have more effects. -/
theorem mono
    (hMore : ∀ f, A f → B f)
    (hChange : Change A s s') :
    Change B s s' := by
  cases hChange with
  | logged log => exact .logged log
  | asked hEffect engine =>
      exact .asked (fun f hSome => hMore f (hEffect f hSome))
        engine
  | edited hEdited => exact .edited hEdited
  | powered hEffect library =>
      exact .powered (hMore _ hEffect) library
  | guarded hEffect transactions savepoints =>
      exact .guarded (hMore _ hEffect) transactions
        savepoints
  | connected hEffect hNew conn =>
      exact .connected (hMore _ hEffect) hNew conn
  | forgotten hEffect c =>
      exact .forgotten (hMore _ hEffect) c
  | rehoused hEffect plain serialized =>
      exact .rehoused (hMore _ hEffect) plain serialized

/- What a change adds to the trace. -/
theorem heard
    (hChange : Change A s s') :
    ∃ l, s'.world.trace = l ++ s.world.trace ∧
      ∀ e ∈ l, ∀ f, e.call.effect? = some f → A f := by
  cases hChange with
  | @asked e hEffect engine =>
      exact ⟨[e], rfl, by simpa using hEffect⟩
  | edited hEdited =>
      exact ⟨[], hEdited.trace, by simp⟩
  | _ => exact ⟨[], rfl, by simp⟩

theorem keeps_guards
    (hGuard : ¬ A .guard)
    (hChange : Change A s s') :
    s'.world.transactions = s.world.transactions ∧
      s'.world.savepoints = s.world.savepoints := by
  cases hChange with
  | edited hEdited =>
      exact ⟨hEdited.transactions, hEdited.savepoints⟩
  | guarded hEffect => exact absurd hEffect hGuard
  | _ => exact ⟨rfl, rfl⟩

theorem keeps_library
    (hPower : ¬ A .power)
    (hChange : Change A s s') :
    s'.world.library = s.world.library := by
  cases hChange with
  | edited hEdited => exact hEdited.library
  | powered hEffect => exact absurd hEffect hPower
  | _ => rfl

/- A change that is not kept from making connections. -/
theorem issued_le
    (hChange : Change A s s') :
    s.world.issued.connections ≤
      s'.world.issued.connections := by
  cases hChange with
  | edited hEdited => exact Nat.le_of_eq hEdited.issued.symm
  | connected _ hNew =>
      exact Nat.le_of_lt (hNew ▸ Nat.lt_succ_self _)
  | _ => exact Nat.le_refl _

/- A connection loses its handle or keeps it. -/
theorem handle
    {c : ConnectionId}
    (hOld : c.number ≤ s.world.issued.connections)
    (hChange : Change A s s') :
    (s'.world.connection c).handle = none ∨
      (s'.world.connection c).handle =
        (s.world.connection c).handle := by
  cases hChange with
  | edited hEdited => exact hEdited.handle c
  | @connected c' _ hNew conn =>
      have hOther : c ≠ c' := by
        rintro rfl
        omega
      exact .inr (by simp [World.connection, hOther])
  | forgotten _ c' =>
      by_cases hSame : c = c'
      · simp [Connection.forget, World.connection, hSame,
          Connection.vacant]
      · simp [Connection.forget, World.connection, hSame]
  | _ => exact .inr rfl

end Change

------------------------------------------------------------
-- Many Changes
------------------------------------------------------------

/-
  Whether two sessions have the same connections, in the same
  slots.
-/
structure Session.SameConnections (s s' : Session E) :
    Prop where
  plain : s'.world.plain = s.world.plain
  serialized : s'.world.serialized = s.world.serialized
  issued :
    s'.world.issued.connections =
      s.world.issued.connections
  present : ∀ c,
    s'.world.connections.contains c =
      s.world.connections.contains c

namespace Changes

theorem mono
    (hMore : ∀ f, A f → B f)
    (hChanges : Changes A s s') :
    Changes B s s' := by
  induction hChanges with
  | refl => exact .refl
  | tail _ hChange ih => exact .tail ih (hChange.mono hMore)

/- What changes add to the trace. -/
theorem heard
    (hChanges : Changes A s s') :
    ∃ l, s'.world.trace = l ++ s.world.trace ∧
      ∀ e ∈ l, ∀ f, e.call.effect? = some f → A f := by
  induction hChanges with
  | refl => exact ⟨[], rfl, by simp⟩
  | tail _ hChange ih =>
      rcases ih with ⟨l, hTrace, hAll⟩
      rcases hChange.heard with ⟨l', hTrace', hAll'⟩
      refine ⟨l' ++ l, ?_, ?_⟩
      · rw [hTrace', hTrace, List.append_assoc]
      · intro e hMem
        rcases List.mem_append.1 hMem with hNew | hOld
        · exact hAll' e hNew
        · exact hAll e hOld

theorem trace_suffix
    (hChanges : Changes A s s') :
    s.world.trace <:+ s'.world.trace := by
  rcases hChanges.heard with ⟨l, hTrace, _⟩
  exact ⟨l, hTrace.symm⟩

/- What is kept from guards keeps them all. -/
theorem keeps_guards
    (hGuard : ¬ A .guard)
    (hChanges : Changes A s s') :
    s'.world.transactions = s.world.transactions ∧
      s'.world.savepoints = s.world.savepoints := by
  induction hChanges with
  | refl => exact ⟨rfl, rfl⟩
  | tail _ hChange ih =>
      rcases hChange.keeps_guards hGuard with
        ⟨hTransactions, hSavepoints⟩
      exact ⟨hTransactions.trans ih.1, hSavepoints.trans ih.2⟩

theorem keeps_library
    (hPower : ¬ A .power)
    (hChanges : Changes A s s') :
    s'.world.library = s.world.library := by
  induction hChanges with
  | refl => rfl
  | tail _ hChange ih =>
      exact (hChange.keeps_library hPower).trans ih

theorem keeps_connections
    (hConnect : ¬ A .connect)
    (hChanges : Changes A s s') :
    s.SameConnections s' := by
  induction hChanges with
  | refl => exact ⟨rfl, rfl, rfl, fun _ => rfl⟩
  | tail _ hChange ih =>
      cases hChange with
      | edited hEdited =>
          exact
            { plain := hEdited.plain.trans ih.plain
              serialized :=
                hEdited.serialized.trans ih.serialized
              issued := hEdited.issued.trans ih.issued
              present := fun c =>
                (hEdited.present c).trans (ih.present c) }
      | connected hEffect => exact absurd hEffect hConnect
      | forgotten hEffect => exact absurd hEffect hConnect
      | rehoused hEffect => exact absurd hEffect hConnect
      | _ => exact { ih with }

theorem issued_le
    (hChanges : Changes A s s') :
    s.world.issued.connections ≤
      s'.world.issued.connections := by
  induction hChanges with
  | refl => exact Nat.le_refl _
  | tail _ hChange ih =>
      exact Nat.le_trans ih hChange.issued_le

/- A connection loses its handle or keeps it. -/
theorem handle
    {c : ConnectionId}
    (hOld : c.number ≤ s.world.issued.connections)
    (hChanges : Changes A s s') :
    (s'.world.connection c).handle = none ∨
      (s'.world.connection c).handle =
        (s.world.connection c).handle := by
  induction hChanges with
  | refl => exact .inr rfl
  | tail hBefore hChange ih =>
      have hKnown := Nat.le_trans hOld (issued_le hBefore)
      rcases hChange.handle hKnown with hNone | hSame
      · exact .inl hNone
      · exact ih.imp hSame.trans hSame.trans

end Changes

------------------------------------------------------------
-- Quiet Steps
------------------------------------------------------------

/- Whether a quiet step has certain effects only. -/
def Quiet.Affects
    (A : Effect → Prop)
    (x : Quiet E α) : Prop :=
  ∀ s, Changes A s (x s).2

namespace Quiet.Affects

variable {x : Quiet E α} {k : α → Quiet E β}

theorem mono
    (hMore : ∀ f, A f → B f)
    (h : Affects A x) :
    Affects B x :=
  fun s => (h s).mono hMore

theorem pure (a : α) :
    Affects A (pure a : Quiet E α) :=
  fun _ => .refl

theorem bind
    (h : Affects A x)
    (hNext : ∀ a, Affects A (k a)) :
    Affects A (x >>= k) :=
  fun s => (h s).trans (hNext _ _)

theorem read (f : World E → α) :
    Affects A (Quiet.read f) :=
  fun _ => .refl

theorem relog (f : Log → Log) :
    Affects (E := E) A (Quiet.relog f) :=
  fun _ => .single (.logged _)

theorem note
    (level : LogLevel)
    (message : String)
    (fields : List LogField) :
    Affects (E := E) A (Quiet.note level message fields) :=
  relog _

/- A call that has an effect, if at all, of those allowed. -/
theorem invoke
    {c : Call}
    (hEffect : ∀ f, c.effect? = some f → A f) :
    Affects (E := E) A (Quiet.invoke c) :=
  fun _ => .single (.asked (e := ⟨c, _⟩) hEffect _)

/- A call without an effect. -/
theorem ask
    {c : Call}
    (hNone : c.effect? = none) :
    Affects (E := E) A (Quiet.invoke c) := by
  apply invoke
  intro f hSome
  rw [hNone] at hSome
  cases hSome

theorem edit
    {f : World E → World E}
    (hEdited : ∀ w : World E, w.Edited (f w)) :
    Affects A (Quiet.update f) :=
  fun s => .single (.edited (hEdited s.world))

theorem statement
    (p : Place)
    (f : Statement → Statement) :
    Affects (E := E) A
      (Quiet.update (World.modifyStatement p f)) :=
  edit fun w => .statement w p f

theorem backup
    (p : Place)
    (f : Backup → Backup) :
    Affects (E := E) A
      (Quiet.update (World.modifyBackup p f)) :=
  edit fun w => .backup w p f

theorem ite
    {c : Prop}
    [Decidable c]
    {x y : Quiet E α}
    (hThen : Affects A x)
    (hElse : Affects A y) :
    Affects A (if c then x else y) := by
  split
  case isTrue => exact hThen
  case isFalse => exact hElse

theorem each
    {f : α → Quiet E Unit}
    (h : ∀ a, Affects A (f a))
    (l : List α) :
    Affects A (Quiet.each f l) := by
  induction l with
  | nil => exact pure ()
  | cons a l ih => exact bind (h a) fun _ => ih

end Quiet.Affects

------------------------------------------------------------
-- Attempts
------------------------------------------------------------

/- Whether an attempt has certain effects only. -/
def Attempt.Affects
    (A : Effect → Prop)
    (x : Attempt E α) : Prop :=
  Quiet.Affects A x.run

namespace Attempt.Affects

variable {x : Attempt E α} {k : α → Attempt E β}

theorem mono
    (hMore : ∀ f, A f → B f)
    (h : Affects A x) :
    Affects B x :=
  Quiet.Affects.mono hMore h

theorem pure (a : α) :
    Affects A (pure a : Attempt E α) :=
  fun _ => .refl

theorem bind
    (h : Affects A x)
    (hNext : ∀ a, Affects A (k a)) :
    Affects A (x >>= k) := by
  apply Quiet.Affects.bind (x := x.run)
    (k := ExceptT.bindCont k) h
  intro result
  cases result with
  | ok a => exact hNext a
  | error e => exact Quiet.Affects.pure _

/- An attempt that turns the result of another into its own. -/
theorem map
    {f : α → β}
    (h : Affects A x) :
    Affects A (x >>= fun a => Pure.pure (f a)) :=
  h.bind fun a => pure (f a)

theorem lift
    {x : Quiet E α}
    (h : Quiet.Affects A x) :
    Affects A (Attempt.lift x) :=
  Quiet.Affects.bind h fun _ => .pure _

theorem read (f : World E → α) :
    Affects A (Attempt.lift (Quiet.read f)) :=
  lift (.read f)

/- A call without an effect. -/
theorem ask
    {c : Call}
    (hNone : c.effect? = none) :
    Affects (E := E) A (Attempt.lift (Quiet.invoke c)) :=
  lift (.ask hNone)

theorem throw (e : Failure) :
    Affects A (MonadExcept.throw e : Attempt E α) :=
  fun _ => .refl

theorem fail (e : DatabaseError) :
    Affects A (Attempt.fail e : Attempt E α) :=
  throw _

theorem refuse (r : Refusal) :
    Affects A (Attempt.refuse r : Attempt E α) :=
  throw _

theorem require
    (c : Bool)
    (r : Refusal) :
    Affects (E := E) A (Attempt.require c r) := by
  cases c with
  | true => exact pure ()
  | false => exact refuse r

theorem accept
    (check : Except Refusal α) :
    Affects (E := E) A (Attempt.accept check) := by
  cases check with
  | ok a => exact pure a
  | error r => exact refuse r

theorem ite
    {c : Prop}
    [Decidable c]
    {x y : Attempt E α}
    (hThen : Affects A x)
    (hElse : Affects A y) :
    Affects A (if c then x else y) := by
  split
  case isTrue => exact hThen
  case isFalse => exact hElse

/- Something that is done before the rest, if at all. -/
theorem optional
    {c : Prop}
    [Decidable c]
    {x y : Attempt E α}
    (hRest : Affects A y)
    (hFirst : Affects A y → Affects A x) :
    Affects A (if c then x else y) :=
  ite (hFirst hRest) hRest

/- A failure leaves the rest undone. -/
theorem failed
    {e : DatabaseError}
    {k : α → Attempt E β} :
    Affects A (Attempt.fail e >>= k) :=
  fun _ => .refl

------------------------------------------------------------
-- Cleaning Up
------------------------------------------------------------

theorem ensuring
    {body : Attempt E α}
    {cleanup : Quiet E Unit}
    (hBody : Affects A body)
    (hCleanup : Quiet.Affects A cleanup) :
    Affects A (Attempt.ensuring body cleanup) := by
  apply Quiet.Affects.bind (x := body.run) hBody
  intro result
  apply Quiet.Affects.bind hCleanup
  exact fun _ => .pure _

theorem onFailure
    {body : Attempt E α}
    {cleanup : Quiet E Unit}
    (hBody : Affects A body)
    (hCleanup : Quiet.Affects A cleanup) :
    Affects A (Attempt.onFailure body cleanup) := by
  apply Quiet.Affects.bind (x := body.run) hBody
  intro result
  cases result with
  | ok a => exact Quiet.Affects.pure _
  | error e =>
      apply Quiet.Affects.bind hCleanup
      exact fun _ => .pure _

theorem tolerate
    {body : Attempt E Unit}
    {handler : DatabaseError → Quiet E Unit}
    (hBody : Affects A body)
    (hHandler : ∀ e, Quiet.Affects A (handler e)) :
    Quiet.Affects A (Attempt.tolerate body handler) := by
  apply Quiet.Affects.bind (x := body.run) hBody
  intro result
  cases result with
  | ok a => exact .pure _
  | error failure =>
      cases failure with
      | database e => exact hHandler e
      | _ => exact .pure _

end Attempt.Affects

------------------------------------------------------------
-- Errors of Handles
------------------------------------------------------------

namespace Attempt

/- Reading the error of a handle has no effect. -/
theorem handleError_affects
    (db : DatabaseHandle)
    (code : ResultCode)
    (phase : Phase)
    (sql : Bytes) :
    Quiet.Affects (E := E) A
      (handleError db code phase sql) := by
  apply Quiet.Affects.bind (.ask rfl)
  intro full
  apply Quiet.Affects.bind (.ask rfl)
  intro message
  apply Quiet.Affects.ite
  · apply Quiet.Affects.bind (.ask rfl)
    exact fun _ => .pure _
  · exact .pure _

/- Checking a result has no effect. -/
theorem check_affects
    (db : DatabaseHandle)
    (code : ResultCode)
    (phase : Phase)
    (sql : Bytes) :
    Affects (E := E) A (check db code phase sql) := by
  apply Affects.ite
  · apply Affects.bind
    · exact .lift (handleError_affects db code phase sql)
    · exact fun e => .fail e
  · exact .pure ()

end Attempt

end SqliteAccess
