import SqliteAccess.Proofs.Session.Consulting
import SqliteAccess.Proofs.Connection.Carrying

/-
  What becomes of an argument that is bound.

  An argument is checked first: it must fit a 64-bit integer
  if it is a number of an integer type, and be UTF-8 if it is
  a text.  The statement is checked next, and changes only
  after that.

  Key definitions include:
    * `Value.payload`
    * `Argument.bound`
    * `Argument.checked`
    * `Statement.Takes`
    * `Statement.hand`

  Binding is characterized by:
    * `Statement.bindArgument_eq`
    * `Statement.bindPayload_of_not_takes`
    * `Statement.bindPayload_of_takes`
-/

namespace SqliteAccess

variable {E : Engine} {α β : Type}

------------------------------------------------------------
-- Checks
------------------------------------------------------------

namespace Value

/- What is handed to the engine for a value. -/
def payload : Value → Binding
  | null => .null
  | integer n => .integer n
  | real x => .real x
  | text t => .text (some t)
  | blob b => Statement.blobPayload b

/- What binding a value is called. -/
def bindingName : Value → String
  | null => "bind null"
  | integer _ => "bind int64"
  | real _ => "bind double"
  | text _ => "bind text"
  | blob _ => "bind blob"

/- A text that is UTF-8 is accepted. -/
theorem ofText_of_valid
    {t : Bytes}
    (hValid : Utf8.isValid t = true) :
    ofText t = .ok (.text t) := by
  unfold ofText requireUtf8
  rw [if_pos hValid]
  rfl

/- A text that is not UTF-8 is refused. -/
theorem ofText_of_invalid
    {t : Bytes}
    (hInvalid : Utf8.isValid t = false) :
    ofText t = .error .invalidUtf8 := by
  unfold ofText requireUtf8
  rw [hInvalid]
  rfl

/- A value, unless it is a text that is not UTF-8. -/
def checked : Value → Except Refusal Value
  | text t => ofText t
  | v => .ok v

/- Only a text that is not UTF-8 is refused. -/
theorem kind_of_checked
    {v : Value}
    {r : Refusal}
    (hRefused : v.checked = .error r) :
    r.error.kind = .conversion := by
  cases v with
  | text t =>
      cases hValid : Utf8.isValid t with
      | false =>
          cases (ofText_of_invalid hValid).symm.trans hRefused
          rfl
      | true =>
          cases (ofText_of_valid hValid).symm.trans hRefused
  | _ => cases hRefused

end Value

/-
  The value that is bound for an argument: a null where there
  is nothing to convert.
-/
def Argument.bound (a : Argument) : Except Refusal Value :=
  if h : a.IsConvertible then a.toValue h else .ok .null

/- The same value, unless it is a text that is not UTF-8. -/
def Argument.checked
    (a : Argument) : Except Refusal Value := do
  (← a.bound).checked

/- What cannot be represented is refused as that. -/
theorem Value.kind_of_ofHost
    {t : HostType}
    {x : t.Carrier}
    {r : Refusal}
    (hRefused : ofHost t x = .error r) :
    r.error.kind = .conversion := by
  induction t with
  | integer k =>
      unfold ofHost ofInteger at hRefused
      split at hRefused
      · cases hRefused
      · cases hRefused
        rfl
  | text => exact kind_of_checked (v := .text x) hRefused
  | optional t ih =>
      cases x with
      | none => cases hRefused
      | some x => exact ih hRefused
  | _ => cases hRefused

/- An argument is refused because it does not convert. -/
theorem Argument.kind_of_checked
    {a : Argument}
    {r : Refusal}
    (hRefused : a.checked = .error r) :
    r.error.kind = .conversion := by
  unfold checked at hRefused
  cases hValue : a.bound with
  | ok v =>
      rw [hValue] at hRefused
      exact Value.kind_of_checked (v := v) hRefused
  | error r' =>
      rw [hValue] at hRefused
      cases hRefused
      have hText : ∀ {t}, Value.ofText t = .error r →
          r.error.kind = .conversion := fun {t} hBad =>
        Value.kind_of_checked (v := .text t) hBad
      cases a with
      | null => cases hValue
      | typed t x => exact Value.kind_of_ofHost hValue
      | view data => exact hText hValue
      | terminated data =>
          cases data with
          | none => cases hValue
          | some t => exact hText hValue

namespace Statement

open Attempt

------------------------------------------------------------
-- From Arguments to Payloads
------------------------------------------------------------

/- Bind a value that has been checked. -/
def bindChecked
    (p : Place)
    (index : Int)
    (v : Value) : Attempt E Unit :=
  bindPayload p index v.bindingName v.payload

theorem bindValue_eq
    (p : Place)
    (index : Int)
    (v : Value) :
    bindValue (E := E) p index v =
      accept v.checked >>= bindChecked p index := by
  cases v with
  | text t =>
      show accept (Value.requireUtf8 t) >>= _ =
        accept (Value.ofText t) >>= _
      unfold Value.requireUtf8
      cases hValid : Utf8.isValid t with
      | false => rw [Value.ofText_of_invalid hValid]; rfl
      | true => rw [Value.ofText_of_valid hValid]; rfl
  | _ => rfl

/- A text is checked once or twice, to the same effect. -/
theorem bindText_eq
    (p : Place)
    (index : Int)
    (t : Bytes) :
    bindText (E := E) p index t =
      accept (do (← Value.ofText t).checked) >>=
        bindChecked p index := by
  show bindValue p index (.text t) = _
  rw [bindValue_eq]
  show accept (Value.ofText t) >>= _ = _
  cases hValid : Utf8.isValid t with
  | false =>
      rw [Value.ofText_of_invalid hValid]
      rfl
  | true =>
      rw [Value.ofText_of_valid hValid]
      show _ = accept (Value.ofText t) >>= _
      rw [Value.ofText_of_valid hValid]

theorem bindHost_eq
    (p : Place)
    (index : Int)
    (t : HostType)
    (x : t.Carrier) :
    bindHost (E := E) p index t x =
      accept (do (← Value.ofHost t x).checked) >>=
        bindChecked p index := by
  induction t with
  | value => exact bindValue_eq p index x
  | integer k =>
      unfold bindHost Value.ofHost
      cases Value.ofInteger k x with
      | ok n => rfl
      | error r => rfl
  | text => exact bindText_eq p index x
  | optional t ih =>
      cases x with
      | none => rfl
      | some x => exact ih x
  | _ => rfl

/- A view without data is bound as the empty text. -/
theorem bindView_eq
    (p : Place)
    (index : Int)
    (data : Option Bytes) :
    bindView (E := E) p index data =
      bindText p index (data.getD []) := by
  cases data <;> rfl

/- Every argument is checked, and its value bound. -/
theorem bindArgument_eq
    (p : Place)
    (index : Int)
    (a : Argument) :
    bindArgument (E := E) p index a =
      accept a.checked >>= bindChecked p index := by
  cases a with
  | null => rfl
  | typed t x => exact bindHost_eq p index t x
  | view data =>
      show bindView p index data = _
      rw [bindView_eq]
      exact bindText_eq p index (data.getD [])
  | terminated data =>
      cases data with
      | none => rfl
      | some t => exact bindText_eq p index (Bytes.untilNul t)

------------------------------------------------------------
-- From Payloads to the Engine
------------------------------------------------------------

/-
  Whether a parameter of a statement can be bound: there is
  such a parameter, and the statement neither is finalized
  nor has a row.
-/
structure Takes
    (s : Statement)
    (index : Int) : Prop where
  live : s.handle ≠ none
  noRow : s.state ≠ .row
  first : 1 ≤ index
  last : index ≤ (s.parameterCount : Int)

/- A statement without a handle is refused. -/
theorem requireHandle_of_none
    {p : Place}
    {s : Session E}
    (hNone : (s.world.statement p).handle = none)
    (operation : String) :
    (requireHandle p operation).run s =
      (.error (.database (Refusal.statementFinalized operation
        (s.world.statement p).sql).error), s) := by
  unfold requireHandle lookup
  rw [run_read, hNone]
  rfl

/- Hand a payload to the engine. -/
def hand
    (p : Place)
    (st : StatementHandle)
    (index : Int)
    (payload : Binding) : Attempt E Unit := do
  let s ← lift (lookup p)
  let code : ResultCode ←
    lift (Quiet.invoke (.bind st index payload))
  check st.database code .binding s.sql

variable {p : Place} {index : Int} {s : Session E}
variable {st : StatementHandle}

theorem bindPayload_eq
    (p : Place)
    (index : Int)
    (operation : String)
    (payload : Binding) :
    bindPayload (E := E) p index operation payload =
      (requireHandle p operation >>= fun st =>
        requireNoRow p operation >>= fun _ =>
          requireParameter p index >>= fun _ =>
            rewindIfDone p st >>= fun _ =>
              hand p st index payload) := rfl

theorem requireNoRow_run
    (operation : String)
    (s : Session E) :
    (requireNoRow p operation).run s =
      (require ((s.world.statement p).state ≠ .row)
        (.activeRow operation
          (s.world.statement p).sql)).run s := rfl

theorem requireParameter_run
    (index : Int)
    (s : Session E) :
    (requireParameter p index).run s =
      (require
        (1 ≤ index &&
          index ≤ ((s.world.statement p).parameterCount : Int))
        (.parameterIndex index
          (s.world.statement p).parameterCount
          (s.world.statement p).sql)).run s := rfl

/-
  What cannot be bound is refused before the statement is
  reset.
-/
theorem bindPayload_of_not_takes
    (hNot : ¬ (s.world.statement p).Takes index)
    (operation : String)
    (payload : Binding) :
    ∃ r : Refusal,
      (bindPayload p index operation payload).run s =
        (.error (.database r.error), s) := by
  rw [bindPayload_eq]
  cases hHandle : (s.world.statement p).handle with
  | none =>
      exact ⟨_, run_bind_of_error
        (requireHandle_of_none hHandle operation)⟩
  | some st =>
      rw [run_bind_of_ok (requireHandle_of_some hHandle _)]
      by_cases hRow : (s.world.statement p).state = .row
      · have hRefused := (requireNoRow_run (p := p) operation
          s).trans (run_require_of_false (by simp [hRow]) _ s)
        exact ⟨_, run_bind_of_error hRefused⟩
      · have hFree := (requireNoRow_run (p := p) operation
          s).trans (run_require_of_true (by simp [hRow]) _ s)
        have hOutside : ¬ (1 ≤ index ∧
            index ≤ ((s.world.statement p).parameterCount :
              Int)) := fun hInside =>
          hNot ⟨by simp [hHandle], hRow, hInside.1, hInside.2⟩
        have hRefused := (requireParameter_run (p := p) index
          s).trans (run_require_of_false
            (by rw [Bool.eq_false_iff]; simpa using hOutside)
              _ s)
        rw [run_bind_of_ok hFree]
        exact ⟨_, run_bind_of_error hRefused⟩

/- What can be bound is handed over, after a reset if due. -/
theorem bindPayload_of_takes
    (hTakes : (s.world.statement p).Takes index)
    (hHandle : (s.world.statement p).handle = some st)
    (operation : String)
    (payload : Binding) :
    (bindPayload p index operation payload).run s =
      (rewindIfDone p st >>= fun _ =>
        hand p st index payload).run s := by
  have hFree := (requireNoRow_run (p := p) operation s).trans
    (run_require_of_true (by simp [hTakes.noRow]) _ s)
  have hIndex := (requireParameter_run (p := p) index s).trans
    (run_require_of_true
      (by simp [hTakes.first, hTakes.last]) _ s)
  rw [bindPayload_eq,
    run_bind_of_ok (requireHandle_of_some hHandle _),
    run_bind_of_ok hFree, run_bind_of_ok hIndex]

end Statement

end SqliteAccess
