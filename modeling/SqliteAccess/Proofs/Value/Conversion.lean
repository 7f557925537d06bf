import SqliteAccess.Value.Conversion

/-
  Values are extracted exactly as they were made.

  The two directions meet in what a thing of a host type
  denotes: a value of one class, the same number, and the
  same bytes.  A value is made from a thing if and only if
  the thing is extracted from it, so that no conversion wraps
  or loses anything, and whatever is not extracted is refused.

  Key definitions include:
    * `HostType.IsExact`
    * `HostType.Denotes`
    * `Value.IsUtf8`
    * `Value.ConvertsExactly`

  Correctness is proven by:
    * `Value.toHost_eq_ok_iff`
    * `Value.ofHost_eq_ok_iff`
    * `Value.kind_of_toHost`
    * `Value.converts_exactly`
-/

namespace SqliteAccess

------------------------------------------------------------
-- Host Types
------------------------------------------------------------

namespace HostType

/-
  The host types that hold things of one storage class, with
  nothing left out of what they hold.
-/
inductive IsExact : HostType → Prop where
  | bool : IsExact .bool
  | integer (k : IntegerType) : IsExact (.integer k)
  | double : IsExact .double
  | text : IsExact .text
  | blob : IsExact .blob

/-
  Whether something of a host type is what a value stands
  for: a truth value is the number zero or one.
-/
def Denotes :
    (t : HostType) → t.Carrier → Value → Prop
  | bool, b, .integer n => n.toInt = if b then 1 else 0
  | integer _, x, .integer n => n.toInt = x.1
  | double, x, .real y => x = y
  | text, x, .text y => x = y
  | blob, x, .blob y => x = y
  | _, _, _ => False

end HostType

namespace Value

variable {k : IntegerType} {n : Int64} {v : Value}

/- Whether a value is a proper text, if it is a text. -/
def IsUtf8 : Value → Prop
  | text t => Utf8.isValid t = true
  | _ => True

------------------------------------------------------------
-- Integers
------------------------------------------------------------

/- An integer of 64 bits is known by its number. -/
theorem ofInt_eq_iff
    {m : Int}
    (hHolds : IntegerType.int64.Holds m) :
    Int64.ofInt m = n ↔ n.toInt = m := by
  have hNumber : (Int64.ofInt m).toInt = m :=
    Int64.toInt_ofInt_of_le hHolds.1
      (Int.lt_add_one_of_le hHolds.2)
  constructor
  · rintro rfl
    exact hNumber
  · rintro rfl
    exact Int64.ofInt_toInt n

/- Every integer of 64 bits is in their range. -/
theorem int64_holds (n : Int64) :
    IntegerType.int64.Holds n.toInt :=
  ⟨n.le_toInt, n.toInt_le⟩

/- An integer is made from a number that it is. -/
theorem ofInteger_eq_ok_iff
    {x : k.Carrier} :
    ofInteger k x = .ok n ↔ n.toInt = x.1 := by
  unfold ofInteger
  split
  case isTrue hHolds =>
    rw [Except.ok.injEq, ofInt_eq_iff hHolds]
  case isFalse hNot =>
    constructor
    · exact nofun
    · intro hSame
      exact absurd (hSame ▸ int64_holds n) hNot

/- A number is extracted from the integer that it is. -/
theorem toInteger_eq_ok_iff
    {x : k.Carrier} :
    toInteger k n = .ok x ↔ n.toInt = x.1 := by
  unfold toInteger
  split
  case isTrue hHolds =>
    rw [Except.ok.injEq, Subtype.ext_iff]
  case isFalse hNot =>
    constructor
    · exact nofun
    · intro hSame
      exact absurd (hSame ▸ x.2) hNot

/- The integer of a truth value is zero or one. -/
theorem ofBool_eq_iff
    {b : Bool} :
    ofBool b = n ↔ n.toInt = if b then 1 else 0 := by
  unfold ofBool
  rw [eq_comm, ← Int64.toInt_inj]
  cases b <;> rfl

/- A truth value is extracted from zero or one. -/
theorem toBool_eq_ok_iff
    {b : Bool} :
    toBool n = .ok b ↔ n.toInt = if b then 1 else 0 := by
  rw [← ofBool_eq_iff]
  unfold toBool ofBool
  by_cases hZero : n = 0
  · subst hZero
    cases b <;> simp
  by_cases hOne : n = 1
  · subst hOne
    cases b <;> simp
  rw [if_neg hZero, if_neg hOne]
  cases b
  · simpa using Ne.symm hZero
  · simpa using Ne.symm hOne

------------------------------------------------------------
-- Both Directions
------------------------------------------------------------

variable {t : HostType} {x : t.Carrier} {r : Refusal}

/- A thing is extracted from a value that it denotes. -/
theorem toHost_eq_ok_iff
    (hExact : t.IsExact) :
    toHost t v = .ok x ↔ t.Denotes x v := by
  have hMismatch : ∀ {α : Type} {requested : String} {y : α},
      mismatch v requested = .ok y → False := nofun
  cases hExact with
  | bool =>
      cases v with
      | integer n => exact toBool_eq_ok_iff
      | _ => exact ⟨hMismatch, False.elim⟩
  | integer k =>
      cases v with
      | integer n => exact toInteger_eq_ok_iff
      | _ => exact ⟨hMismatch, False.elim⟩
  | double =>
      cases v with
      | real y =>
          exact (Except.ok.injEq ..).to_iff.trans eq_comm
      | _ => exact ⟨hMismatch, False.elim⟩
  | text =>
      cases v with
      | text y =>
          exact (Except.ok.injEq ..).to_iff.trans eq_comm
      | _ => exact ⟨hMismatch, False.elim⟩
  | blob =>
      cases v with
      | blob y =>
          exact (Except.ok.injEq ..).to_iff.trans eq_comm
      | _ => exact ⟨hMismatch, False.elim⟩

/- An integer is made from a thing of an integer type. -/
theorem ofHost_integer_eq_ok_iff
    {x : k.Carrier} :
    ofHost (.integer k) x = .ok v ↔
      ∃ n, v = .integer n ∧ n.toInt = x.1 := by
  unfold ofHost
  cases hMade : ofInteger k x with
  | error r =>
      constructor
      · exact nofun
      · rintro ⟨n, _, hSame⟩
        cases hMade.symm.trans (ofInteger_eq_ok_iff.mpr hSame)
  | ok m =>
      have hNumber := ofInteger_eq_ok_iff.mp hMade
      constructor
      · rintro ⟨⟩
        exact ⟨m, rfl, hNumber⟩
      · rintro ⟨n, rfl, hSame⟩
        rw [Int64.toInt_inj.mp (hNumber.trans hSame.symm)]
        rfl

/- A text is made from its bytes if they are UTF-8. -/
theorem ofText_eq_ok_iff
    {b : Bytes} :
    ofText b = .ok v ↔
      Utf8.isValid b = true ∧ v = .text b := by
  unfold ofText requireUtf8
  split
  case isTrue hValid =>
    rw [and_iff_right hValid, eq_comm (a := v)]
    exact (Except.ok.injEq ..).to_iff
  case isFalse hNot =>
    constructor
    · exact nofun
    · exact fun hBoth => absurd hBoth.1 hNot

/- A value is made from a thing that denotes it. -/
theorem ofHost_eq_ok_iff
    (hExact : t.IsExact)
    (hUtf8 : v.IsUtf8) :
    ofHost t x = .ok v ↔ t.Denotes x v := by
  cases hExact with
  | bool =>
      cases v with
      | integer n =>
          rw [ofHost, Except.ok.injEq, Value.integer.injEq]
          exact ofBool_eq_iff
      | _ => exact ⟨nofun, False.elim⟩
  | integer k =>
      rw [ofHost_integer_eq_ok_iff]
      cases v with
      | integer n =>
          constructor
          · rintro ⟨_, ⟨⟩, hSame⟩
            exact hSame
          · exact fun hSame => ⟨n, rfl, hSame⟩
      | _ => exact ⟨nofun, False.elim⟩
  | double =>
      cases v with
      | real y =>
          rw [ofHost, Except.ok.injEq, Value.real.injEq]
          exact Iff.rfl
      | _ => exact ⟨nofun, False.elim⟩
  | text =>
      rw [ofHost, ofText_eq_ok_iff]
      cases v with
      | text y =>
          constructor
          · rintro ⟨_, ⟨⟩⟩
            rfl
          · rintro ⟨⟩
            exact ⟨hUtf8, rfl⟩
      | _ => exact ⟨nofun, False.elim⟩
  | blob =>
      cases v with
      | blob y =>
          rw [ofHost, Except.ok.injEq, Value.blob.injEq]
          exact Iff.rfl
      | _ => exact ⟨nofun, False.elim⟩

------------------------------------------------------------
-- Refusals and Options
------------------------------------------------------------

/- A value that is no null is extracted as it would be. -/
theorem toHost_optional
    (hNull : v ≠ .null) :
    toHost (.optional t) v = some <$> toHost t v := by
  cases v with
  | null => exact absurd rfl hNull
  | _ => rfl

/- What cannot be extracted is refused as that. -/
theorem kind_of_toHost
    (hRefused : toHost t v = .error r) :
    r.error.kind = .conversion := by
  have hMismatch : ∀ {α : Type} {requested : String},
      mismatch (α := α) v requested = .error r →
        r.error.kind = .conversion := by
    rintro α requested ⟨⟩
    rfl
  induction t with
  | value => cases hRefused
  | bool =>
      cases v with
      | integer n =>
          unfold toHost toBool at hRefused
          split at hRefused
          · cases hRefused
          split at hRefused
          · cases hRefused
          · cases hRefused
            rfl
      | _ => exact hMismatch hRefused
  | integer k =>
      cases v with
      | integer n =>
          unfold toHost toInteger at hRefused
          split at hRefused
          · cases hRefused
          · cases hRefused
            rfl
      | _ => exact hMismatch hRefused
  | single =>
      cases v with
      | real y =>
          unfold toHost toSingle at hRefused
          split at hRefused
          · cases hRefused
          · cases hRefused
            rfl
      | _ => exact hMismatch hRefused
  | double =>
      cases v with
      | real y => cases hRefused
      | _ => exact hMismatch hRefused
  | text =>
      cases v with
      | text y => cases hRefused
      | _ => exact hMismatch hRefused
  | blob =>
      cases v with
      | blob y => cases hRefused
      | _ => exact hMismatch hRefused
  | optional t ih =>
      by_cases hNull : v = .null
      · subst hNull
        cases hRefused
      · rw [toHost_optional hNull] at hRefused
        cases hResult : toHost t v with
        | ok x =>
            rw [hResult] at hRefused
            cases hRefused
        | error r' =>
            rw [hResult] at hRefused
            cases hRefused
            exact ih hResult

------------------------------------------------------------
-- Exact Conversion
------------------------------------------------------------

/-
  Whether a value is extracted exactly as a host type:

    * `inverse`: a thing is extracted if and only if the value
      is made from it
    * `denotes`: the thing then is what the value stands for
    * `refused`: a value that is made from no such thing is
      refused as one that does not convert
    * `absent`, `present`: as an option, null is nothing, and
      every other value is extracted as without the option
-/
structure ConvertsExactly
    (t : HostType)
    (v : Value) : Prop where
  inverse : ∀ x, toHost t v = .ok x ↔ ofHost t x = .ok v
  denotes : ∀ x, toHost t v = .ok x ↔ t.Denotes x v
  refused : (∀ x, ofHost t x ≠ .ok v) →
    ∃ r, toHost t v = .error r ∧ r.error.kind = .conversion
  absent : toHost (.optional t) v = .ok none ↔ v = .null
  present : v ≠ .null →
    toHost (.optional t) v = some <$> toHost t v

/-
  Every proper value is extracted exactly as a type that holds
  things of one storage class.
-/
theorem converts_exactly
    (hExact : t.IsExact)
    (hUtf8 : v.IsUtf8) :
    v.ConvertsExactly t where
  inverse x := by
    rw [toHost_eq_ok_iff hExact, ofHost_eq_ok_iff hExact hUtf8]
  denotes x := toHost_eq_ok_iff hExact
  refused := by
    intro hNone
    cases hResult : toHost t v with
    | ok x =>
        have hMade := (ofHost_eq_ok_iff hExact hUtf8).mpr
          ((toHost_eq_ok_iff hExact).mp hResult)
        exact absurd hMade (hNone x)
    | error r => exact ⟨r, rfl, kind_of_toHost hResult⟩
  absent := by
    by_cases hNull : v = .null
    · subst hNull
      exact ⟨fun _ => rfl, fun _ => rfl⟩
    · rw [toHost_optional hNull]
      refine ⟨?_, fun hIs => absurd hIs hNull⟩
      cases toHost t v <;> exact nofun
  present := toHost_optional

/- The euro sign is a text of three bytes. -/
theorem converts_exactly_euro :
    HostType.IsExact .text ∧
      Value.IsUtf8 (.text [0xE2, 0x82, 0xAC]) ∧
        ConvertsExactly .text (.text [0xE2, 0x82, 0xAC]) := by
  have hUtf8 : Value.IsUtf8 (.text [0xE2, 0x82, 0xAC]) := by
    show Utf8.isValid _ = true
    decide +kernel
  exact ⟨.text, hUtf8, converts_exactly .text hUtf8⟩

end Value

end SqliteAccess
