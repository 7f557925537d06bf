import SqliteAccess.Proofs.Statement.Arguments
import SqliteAccess.Proofs.Statement.Named

/-
  Binding something and binding the value of it.

  A caller can bind an argument as it is, or convert it and
  bind the value.  Both ways come to the same, in whatever
  order the argument, the statement and the index are at
  fault.

  Key definitions include:
    * `Statement.objection?`
    * `Session.BindsConverted`

  Binding is characterized by:
    * `Statement.bindOptional_eq`
    * `Statement.bindPayload_of_objection`
    * `Session.binds_converted`
-/

namespace SqliteAccess

variable {E : Engine}

open Attempt

------------------------------------------------------------
-- Objections
------------------------------------------------------------

namespace Statement

/-
  What a statement first objects to when something is bound:
  that it is finalized, that it has a row, or that it has no
  such parameter.
-/
def objection?
    (s : Statement)
    (operation : String)
    (index : Int) : Option Refusal :=
  if s.handle = none then
    some (.statementFinalized operation s.sql)
  else if s.state = .row then
    some (.activeRow operation s.sql)
  else if 1 ≤ index ∧ index ≤ (s.parameterCount : Int) then
    none
  else
    some (.parameterIndex index s.parameterCount s.sql)

variable {p : Place} {index : Int} {s : Session E}
variable {operation : String}

/- A statement that objects to nothing takes a binding. -/
theorem takes_of_objection_none
    {r : Statement}
    (hNone : r.objection? operation index = none) :
    r.Takes index := by
  unfold objection? at hNone
  split at hNone
  · cases hNone
  next hLive =>
    split at hNone
    · cases hNone
    next hNoRow =>
      split at hNone
      next hInside =>
        exact ⟨hLive, hNoRow, hInside.1, hInside.2⟩
      · cases hNone

/- What a statement first objects to is what is raised. -/
theorem bindPayload_of_objection
    {r : Refusal}
    (hObjects : (s.world.statement p).objection? operation
      index = some r)
    (payload : Binding) :
    (bindPayload p index operation payload).run s =
      (.error (.database r.error), s) := by
  unfold objection? at hObjects
  rw [bindPayload_eq]
  cases hHandle : (s.world.statement p).handle with
  | none =>
      rw [if_pos hHandle] at hObjects
      cases hObjects
      exact run_bind_of_error
        (requireHandle_of_none hHandle operation)
  | some st =>
      rw [if_neg (by simp [hHandle])] at hObjects
      rw [run_bind_of_ok (requireHandle_of_some hHandle _)]
      by_cases hRow : (s.world.statement p).state = .row
      · rw [if_pos hRow] at hObjects
        cases hObjects
        exact run_bind_of_error
          ((requireNoRow_run operation s).trans
            (run_require_of_false (by simp [hRow]) _ s))
      · rw [if_neg hRow] at hObjects
        rw [run_bind_of_ok ((requireNoRow_run operation
          s).trans (run_require_of_true (by simp [hRow]) _ s))]
        split at hObjects
        · cases hObjects
        next hOutside =>
          cases hObjects
          exact run_bind_of_error
            ((requireParameter_run index s).trans
              (run_require_of_false
                (by simpa [Bool.eq_false_iff] using hOutside)
                _ s))

------------------------------------------------------------
-- Overloads
------------------------------------------------------------

/- Arguments that have a value are bound as it is. -/
theorem bindArgument_eq_bindValue
    (p : Place)
    (index : Int)
    (a : Argument)
    (hConvertible : a.IsConvertible) :
    bindArgument (E := E) p index a =
      accept (a.toValue hConvertible) >>=
        bindValue p index := by
  rw [bindArgument_eq]
  unfold Argument.checked Argument.bound
  rw [dif_pos hConvertible]
  cases a.toValue hConvertible with
  | error r => rfl
  | ok v =>
      rw [accept_ok_bind, bindValue_eq]
      rfl

/- So are optionals, whatever they hold. -/
theorem bindOptional_eq
    (p : Place)
    (index : Int)
    (x : OptionalArgument)
    (hConvertible : x.IsConvertible) :
    bindOptional (E := E) p index x =
      accept (x.toValue hConvertible) >>=
        bindValue p index := by
  induction x with
  | plain a =>
      exact bindArgument_eq_bindValue p index a hConvertible
  | empty => rfl
  | holding o ih => exact ih hConvertible

end Statement

------------------------------------------------------------
-- Both Ways
------------------------------------------------------------

/-
  Whether binding something that has a value, or is refused
  one, is converting it and binding the value, and what comes
  first of what can be at fault:

    * `same`: both ways end alike, in the same session, which
      holds every statement and every call that was made
    * `unconverted`: nothing is done with something that has
      no value
    * `invalid`: nor with a value that is a text but not UTF-8
    * `refused`: nor with a value that the statement objects
      to
    * `handed`: any other value is handed to the engine, when
      a statement that is done has been reset
-/
structure Session.BindsConverted
    (s : Session E)
    (p : Place)
    (index : Int)
    (x : OptionalArgument)
    (hConvertible : x.IsConvertible) : Prop where
  same :
    (Statement.bindOptional p index x).run s =
      (do
        let v ← accept (x.toValue hConvertible)
        Statement.bindValue p index v).run s
  unconverted : ∀ {r}, x.toValue hConvertible = .error r →
    (Statement.bindOptional p index x).run s =
      (.error (.database r.error), s)
  invalid : ∀ {t}, x.toValue hConvertible = .ok (.text t) →
    Utf8.isValid t = false →
      (Statement.bindOptional p index x).run s =
        (.error (.database Refusal.invalidUtf8.error), s)
  refused : ∀ {v r}, x.toValue hConvertible = .ok v →
    v.checked = .ok v →
    (s.world.statement p).objection? v.bindingName index =
        some r →
      (Statement.bindOptional p index x).run s =
        (.error (.database r.error), s)
  handed : ∀ {v st}, x.toValue hConvertible = .ok v →
    v.checked = .ok v →
    (s.world.statement p).objection? v.bindingName index =
        none →
      (s.world.statement p).handle = some st →
        (Statement.bindOptional p index x).run s =
          (do
            Statement.rewindIfDone p st
            Statement.hand p st index v.payload).run s

/- Whatever can be converted is, and its value is bound. -/
theorem Session.binds_converted
    (s : Session E)
    (p : Place)
    (index : Int)
    (x : OptionalArgument)
    (hConvertible : x.IsConvertible) :
    s.BindsConverted p index x hConvertible := by
  have hSame := Statement.bindOptional_eq (E := E) p index x
    hConvertible
  have hChecked : ∀ {v}, x.toValue hConvertible = .ok v →
      v.checked = .ok v →
        Statement.bindOptional (E := E) p index x =
          Statement.bindChecked p index v := by
    intro v hValue hValid
    rw [hSame, hValue, accept_ok_bind, Statement.bindValue_eq,
      hValid, accept_ok_bind]
  constructor
  case same => rw [hSame]
  case unconverted =>
    intro r hValue
    rw [hSame, hValue, accept_error_bind]
    exact run_refuse r s
  case invalid =>
    intro t hValue hInvalid
    rw [hSame, hValue, accept_ok_bind, Statement.bindValue_eq]
    show (accept (Value.ofText t) >>= _).run s = _
    rw [Value.ofText_of_invalid hInvalid, accept_error_bind]
    exact run_refuse _ s
  case refused =>
    intro v r hValue hValid hObjects
    rw [hChecked hValue hValid]
    exact Statement.bindPayload_of_objection hObjects v.payload
  case handed =>
    intro v st hValue hValid hNone hHandle
    rw [hChecked hValue hValid]
    exact Statement.bindPayload_of_takes
      (Statement.takes_of_objection_none hNone) hHandle
      v.bindingName v.payload

/- An optional that holds a view without data. -/
def OptionalArgument.emptyView : OptionalArgument :=
  .holding (.plain (.view none))

/- A number that no value can be. -/
def OptionalArgument.tooLarge : OptionalArgument :=
  .plain (.typed (.integer .uint64)
    ⟨9223372036854775808, by decide⟩)

/- A value whose text is not UTF-8. -/
def OptionalArgument.broken : OptionalArgument :=
  .plain (.typed .value (.text [255]))

namespace Session

open OptionalArgument

/- The session in which a statement has one parameter. -/
def oneParameter : Session Engine.scripted :=
  namingSession [":a"]

/-
  There a view without data is bound as an empty text.  What
  is no value is refused for that, and only then an index
  that no parameter has.
-/
theorem binds_converted_oneParameter :
    (Statement.bindOptional (.slot 0) 1 emptyView).run
        oneParameter =
      (do
        Statement.rewindIfDone (.slot 0) firstStatement
        Statement.hand (.slot 0) firstStatement 1
          (.text (some []))).run oneParameter ∧
    (Statement.bindOptional (.slot 0) 2 tooLarge).run
        oneParameter =
      (.error (.database (Refusal.outOfRange
        (Bytes.ascii "9223372036854775808") "int64").error),
        oneParameter) ∧
    (Statement.bindOptional (.slot 0) 2 broken).run
        oneParameter =
      (.error (.database Refusal.invalidUtf8.error),
        oneParameter) ∧
    (Statement.bindOptional (.slot 0) 2 emptyView).run
        oneParameter =
      (.error (.database (Refusal.parameterIndex 2 1
        (Bytes.ascii "S")).error), oneParameter) := by
  have hHandle :
      (oneParameter.world.statement (.slot 0)).handle =
        some firstStatement := by
    decide +kernel
  have hInside : (oneParameter.world.statement
      (.slot 0)).objection? "bind text" 1 = none := by
    decide +kernel
  have hOutside : (oneParameter.world.statement
      (.slot 0)).objection? "bind text" 2 =
        some (.parameterIndex 2 1 (Bytes.ascii "S")) := by
    decide +kernel
  have hEmpty : emptyView.toValue trivial =
      .ok (.text []) := by
    decide +kernel
  have hValid : (Value.text []).checked =
      .ok (.text []) := by
    decide +kernel
  have hLarge : tooLarge.toValue trivial = .error (.outOfRange
      (Bytes.ascii "9223372036854775808") "int64") := by
    decide +kernel
  have hBroken : Utf8.isValid [255] = false := by
    decide +kernel
  revert hHandle hInside hOutside
  generalize oneParameter = s
  intro hHandle hInside hOutside
  have hView := fun index =>
    binds_converted s (.slot 0) index emptyView trivial
  have hNumber :=
    binds_converted s (.slot 0) 2 tooLarge trivial
  have hText :=
    binds_converted s (.slot 0) 2 broken trivial
  have hBound :=
    (hView 1).handed hEmpty hValid hInside hHandle
  have hOutOfRange := hNumber.unconverted hLarge
  have hInvalid := hText.invalid rfl hBroken
  have hNoParameter :=
    (hView 2).refused hEmpty hValid hOutside
  exact ⟨hBound, hOutOfRange, hInvalid, hNoParameter⟩

end Session

end SqliteAccess
