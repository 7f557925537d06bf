import SqliteAccess.Number.Decimal
import SqliteAccess.Proofs.Text.Identifier

/-
  What decimal numbers look like.

  Integers and floating-point numbers are written in the same
  grammar: digits with a sign, a fraction and an exponent
  where they are needed.

  Key definitions include:
    * `Bytes.IsDigits`
    * `Bytes.IsNumber`

  The numbers are characterized by:
    * `Bytes.IsNumber.isHarmless`
    * `Bytes.ofInt_isNumber`
    * `Double.toSignificant_isNumber`
-/

namespace SqliteAccess

variable {t u digits : Bytes} {b : UInt8}

namespace Bytes

------------------------------------------------------------
-- Grammar
------------------------------------------------------------

/- One digit or more. -/
def IsDigits (t : Bytes) : Prop :=
  t ≠ [] ∧ ∀ b ∈ t, isDigit b = true

/- A point and digits, or nothing. -/
def IsFraction (t : Bytes) : Prop :=
  t = [] ∨ ∃ digits, IsDigits digits ∧ t = byte '.' :: digits

/- The letter `e`, a sign and digits, or nothing. -/
def IsExponent (t : Bytes) : Prop :=
  t = [] ∨ ∃ sign digits, sign ∈ [byte '+', byte '-'] ∧
    IsDigits digits ∧ t = byte 'e' :: sign :: digits

/- Digits, a fraction and an exponent. -/
def IsMagnitude (t : Bytes) : Prop :=
  ∃ whole fraction exponent,
    IsDigits whole ∧ IsFraction fraction ∧
      IsExponent exponent ∧
        t = whole ++ fraction ++ exponent

/- A magnitude, perhaps with a minus sign. -/
def IsNumber (t : Bytes) : Prop :=
  ∃ sign magnitude,
    sign ∈ [[], [byte '-']] ∧ IsMagnitude magnitude ∧
      t = sign ++ magnitude

/- Digits alone are a magnitude. -/
theorem IsDigits.isMagnitude
    (hDigits : IsDigits t) :
    IsMagnitude t :=
  ⟨t, [], [], hDigits, .inl rfl, .inl rfl, by simp⟩

/- A magnitude is a number. -/
theorem IsMagnitude.isNumber
    (hMagnitude : IsMagnitude t) :
    IsNumber t :=
  ⟨[], t, List.mem_cons_self, hMagnitude, rfl⟩

/- So is one with a minus sign. -/
theorem IsMagnitude.isNumber_neg
    (hMagnitude : IsMagnitude t) :
    IsNumber (byte '-' :: t) :=
  ⟨[byte '-'], t, by simp, hMagnitude, rfl⟩

------------------------------------------------------------
-- Numbers Are Harmless
------------------------------------------------------------

/- A byte of a number. -/
def isNumberByte (b : UInt8) : Bool :=
  isDigit b || [byte '+', byte '-', byte '.', byte 'e'].contains b

theorem isSpace_of_isNumberByte
    (hNumber : isNumberByte b = true) :
    isSpace b = false := by
  simp only [isNumberByte, isDigit,
    isSpace, byte, Bool.or_eq_true, Bool.and_eq_true,
    Bool.or_eq_false_iff, Bool.and_eq_false_iff,
    decide_eq_true_eq, decide_eq_false_iff_not,
    beq_eq_false_iff_ne, ne_eq, UInt8.le_iff_toNat_le,
    List.contains_iff_mem, List.mem_cons, List.not_mem_nil,
    or_false, ← UInt8.toNat_inj] at hNumber ⊢
  simp at hNumber ⊢
  omega

/- The bytes of each part are bytes of a number. -/
theorem IsDigits.isNumberByte
    (hDigits : IsDigits t)
    (hMem : b ∈ t) :
    isNumberByte b = true := by
  simp [Bytes.isNumberByte, hDigits.2 b hMem]

theorem IsFraction.isNumberByte
    (hFraction : IsFraction t)
    (hMem : b ∈ t) :
    isNumberByte b = true := by
  rcases hFraction with rfl | ⟨digits, hDigits, rfl⟩
  · cases hMem
  · rcases List.mem_cons.mp hMem with rfl | hLater
    · rfl
    · exact hDigits.isNumberByte hLater

theorem IsExponent.isNumberByte
    (hExponent : IsExponent t)
    (hMem : b ∈ t) :
    isNumberByte b = true := by
  rcases hExponent with
    rfl | ⟨sign, digits, hSign, hDigits, rfl⟩
  · cases hMem
  · rcases List.mem_cons.mp hMem with rfl | hLater
    · rfl
    rcases List.mem_cons.mp hLater with rfl | hLast
    · simp only [List.mem_cons, List.not_mem_nil, or_false]
        at hSign
      rcases hSign with rfl | rfl <;> rfl
    · exact hDigits.isNumberByte hLast

theorem IsMagnitude.isNumberByte
    (hMagnitude : IsMagnitude t)
    (hMem : b ∈ t) :
    isNumberByte b = true := by
  rcases hMagnitude with
    ⟨whole, fraction, exponent, hWhole, hFraction, hExponent,
      rfl⟩
  simp only [List.mem_append] at hMem
  rcases hMem with (hMem | hMem) | hMem
  · exact hWhole.isNumberByte hMem
  · exact hFraction.isNumberByte hMem
  · exact hExponent.isNumberByte hMem

theorem IsNumber.isNumberByte
    (hNumber : IsNumber t)
    (hMem : b ∈ t) :
    isNumberByte b = true := by
  rcases hNumber with ⟨sign, magnitude, hSign, hRest, rfl⟩
  rcases List.mem_append.mp hMem with hFirst | hLater
  · simp only [List.mem_cons, List.not_mem_nil, or_false]
      at hSign
    rcases hSign with rfl | rfl
    · cases hFirst
    · rw [List.mem_singleton.mp hFirst]
      rfl
  · exact hRest.isNumberByte hLater

/- The characters that numbers are written with. -/
theorem IsNumber.characters
    (hNumber : IsNumber t) :
    ∀ b ∈ t, b ∈ ascii "0123456789+-.e" := by
  intro b hMem
  have hByte := hNumber.isNumberByte hMem
  have hText : ascii "0123456789+-.e" =
      [48, 49, 50, 51, 52, 53, 54, 55, 56, 57, 43, 45, 46,
        101] := by decide +kernel
  rw [hText]
  simp only [Bytes.isNumberByte, isDigit, byte,
    Bool.or_eq_true, Bool.and_eq_true, decide_eq_true_eq,
    UInt8.le_iff_toNat_le, List.contains_iff_mem,
    List.mem_cons, List.not_mem_nil, or_false,
    ← UInt8.toNat_inj] at hByte ⊢
  simp at hByte ⊢
  omega

/- Another byte does not make two minus signs of one. -/
theorem no_dashes_cons
    (hOther : b ≠ byte '-' ∨ t.head? ≠ some (byte '-'))
    (hRest : ¬ ascii "--" <:+: t) :
    ¬ ascii "--" <:+: b :: t := by
  intro hInfix
  rcases List.infix_cons_iff.mp hInfix with hPrefix | hLater
  · have hBoth := List.cons_prefix_cons.mp hPrefix
    rcases hOther with hFirst | hNext
    · exact hFirst hBoth.1.symm
    · rcases hBoth.2 with ⟨r, rfl⟩
      exact hNext rfl
  · exact hRest hLater

/- Bytes that are no minus signs do neither. -/
theorem no_dashes_append
    (hOther : ∀ b ∈ t, b ≠ byte '-')
    (hRest : ¬ ascii "--" <:+: u) :
    ¬ ascii "--" <:+: t ++ u := by
  induction t with
  | nil => exact hRest
  | cons b r ih =>
      have hBoth := List.forall_mem_cons.mp hOther
      exact no_dashes_cons (.inl hBoth.1) (ih hBoth.2)

/- A digit is no minus sign. -/
theorem IsDigits.ne_dash
    (hDigits : IsDigits t) :
    ∀ b ∈ t, b ≠ byte '-' := by
  rintro b hMem rfl
  cases hDigits.2 _ hMem

/- There are no two minus signs in an exponent. -/
theorem IsExponent.no_dashes
    (hExponent : IsExponent t) :
    ¬ ascii "--" <:+: t := by
  have hNone : ¬ ascii "--" <:+: [] := by
    rw [List.infix_nil]
    decide
  rcases hExponent with
    rfl | ⟨sign, digits, hSign, hDigits, rfl⟩
  · exact hNone
  have hRest : ¬ ascii "--" <:+: digits := by
    rw [← List.append_nil digits]
    exact no_dashes_append hDigits.ne_dash hNone
  have hHead : digits.head? ≠ some (byte '-') :=
    fun hFirst => hDigits.ne_dash _
      (List.mem_of_mem_head? hFirst) rfl
  exact no_dashes_cons (.inl (by decide))
    (no_dashes_cons (.inr hHead) hRest)

/- There are none in a magnitude. -/
theorem IsMagnitude.no_dashes
    (hMagnitude : IsMagnitude t) :
    ¬ ascii "--" <:+: t := by
  rcases hMagnitude with
    ⟨whole, fraction, exponent, hWhole, hFraction, hExponent,
      rfl⟩
  rw [List.append_assoc]
  apply no_dashes_append hWhole.ne_dash
  apply no_dashes_append _ hExponent.no_dashes
  rcases hFraction with rfl | ⟨digits, hDigits, rfl⟩
  · nofun
  · exact List.forall_mem_cons.mpr
      ⟨by decide, hDigits.ne_dash⟩

/- A magnitude starts with a digit. -/
theorem IsMagnitude.head_ne_dash
    (hMagnitude : IsMagnitude t) :
    t.head? ≠ some (byte '-') := by
  rcases hMagnitude with ⟨whole, _, _, hWhole, _, _, rfl⟩
  cases whole with
  | nil => exact absurd rfl hWhole.1
  | cons b r =>
      intro hFirst
      exact hWhole.ne_dash b List.mem_cons_self
        (Option.some.inj hFirst)

/- A number is harmless. -/
theorem IsNumber.isHarmless
    (hNumber : IsNumber t) :
    IsHarmless t := by
  apply IsHarmless.of_forall fun b => hNumber.isNumberByte
  · exact fun b => isSpace_of_isNumberByte
  · decide +kernel
  · rcases hNumber with ⟨sign, magnitude, hSign, hRest, rfl⟩
    simp only [List.mem_cons, List.not_mem_nil, or_false]
      at hSign
    rcases hSign with rfl | rfl
    · exact hRest.no_dashes
    · exact no_dashes_cons (.inr hRest.head_ne_dash)
        hRest.no_dashes

------------------------------------------------------------
-- Integers
------------------------------------------------------------

/- The byte of a digit is a digit. -/
theorem isDigit_byte
    {c : Char}
    (hDigit : c.isDigit = true) :
    isDigit (byte c) = true := by
  simp only [Char.isDigit, Bool.and_eq_true,
    decide_eq_true_eq, ge_iff_le,
    UInt32.le_iff_toNat_le] at hDigit
  have hLow : 48 ≤ c.toNat := hDigit.1
  have hHigh : c.toNat ≤ 57 := hDigit.2
  have hByte : (byte c).toNat = c.toNat := by
    apply UInt8.toNat_ofNat_of_lt'
    show c.toNat < 256
    omega
  simp only [isDigit, Bool.and_eq_true, decide_eq_true_eq,
    UInt8.le_iff_toNat_le, hByte]
  exact ⟨hLow, hHigh⟩

/- A natural number is written in digits. -/
theorem ofNat_isDigits (n : Nat) : IsDigits (ofNat n) := by
  constructor
  · intro hNone
    exact Nat.toDigits_ne_nil (List.map_eq_nil_iff.mp hNone)
  · intro b hMem
    rcases List.mem_map.mp hMem with ⟨c, hChar, rfl⟩
    exact isDigit_byte
      (Nat.isDigit_of_mem_toDigits (by decide) (by decide)
        hChar)

/- With zeros before them they are digits as well. -/
theorem ofNatPadded_isDigits (w n : Nat) :
    IsDigits (ofNatPadded w n) := by
  have hDigits := ofNat_isDigits n
  constructor
  · intro hNone
    exact hDigits.1 (List.append_eq_nil_iff.mp hNone).2
  · intro b hMem
    rcases List.mem_append.mp hMem with hZero | hDigit
    · rw [List.eq_of_mem_replicate hZero]
      rfl
    · exact hDigits.2 b hDigit

/- A zero is a digit. -/
theorem zero_isDigits : IsDigits (ascii "0") :=
  ⟨nofun, List.all_eq_true.mp (by decide +kernel)⟩

/- An integer is written as a number. -/
theorem ofInt_isNumber (n : Int) : IsNumber (ofInt n) := by
  cases n with
  | ofNat n => exact (ofNat_isDigits n).isMagnitude.isNumber
  | negSucc n =>
      exact (ofNat_isDigits (n + 1)).isMagnitude.isNumber_neg

end Bytes

------------------------------------------------------------
-- Floating-Point Numbers
------------------------------------------------------------

namespace Double

open Bytes

/- Some of the digits, but not none of them, are digits. -/
theorem isDigits_take
    {n : Nat}
    (hDigits : IsDigits digits) :
    IsDigits (digits.take (n + 1)) := by
  constructor
  · intro hNone
    rcases List.take_eq_nil_iff.mp hNone with hZero | hEmpty
    · cases hZero
    · exact hDigits.1 hEmpty
  · exact fun b hMem =>
      hDigits.2 b (List.mem_of_mem_take hMem)

/- What is left of digits without zeros was there before. -/
theorem mem_of_mem_withoutFinalZeros
    (hMem : b ∈ withoutFinalZeros t) :
    b ∈ t := by
  unfold withoutFinalZeros at hMem
  rw [List.mem_reverse] at hMem
  exact List.mem_reverse.mp
    ((List.dropWhile_sublist _).subset hMem)

/- Digits after a point are a fraction, if there are any. -/
theorem afterPoint_isFraction
    (hDigits : ∀ b ∈ t, isDigit b = true) :
    IsFraction (afterPoint t) := by
  cases t with
  | nil => exact .inl rfl
  | cons b r => exact .inr ⟨b :: r, ⟨nofun, hDigits⟩, rfl⟩

/- An exponent is written as one. -/
theorem exponentText_isExponent (k : Int) :
    IsExponent (exponentText k) := by
  have hDigits := ofNatPadded_isDigits 2 k.natAbs
  unfold exponentText
  split
  · exact .inr ⟨byte '-', _, by simp, hDigits, rfl⟩
  · exact .inr ⟨byte '+', _, by simp, hDigits, rfl⟩

/- Digits without zeros at the end are digits. -/
theorem isDigit_of_mem_withoutFinalZeros
    (hDigits : ∀ b ∈ t, isDigit b = true) :
    ∀ b ∈ withoutFinalZeros t, isDigit b = true :=
  fun b hMem => hDigits b (mem_of_mem_withoutFinalZeros hMem)

/-
  A number with a count of significant digits is written in
  one of three ways, each of which is a number.
-/
theorem toSignificant_isNumber
    (count : Nat)
    (x : Double) :
    IsNumber (x.toSignificant count) := by
  have hSigned : ∀ magnitude, IsMagnitude magnitude →
      IsNumber (x.signText ++ magnitude) := by
    intro magnitude hMagnitude
    unfold signText
    split
    · exact hMagnitude.isNumber_neg
    · exact hMagnitude.isNumber
  unfold toSignificant
  rcases x.fraction with ⟨n, d⟩
  apply hSigned
  by_cases hZero : n = 0
  case pos =>
    rw [if_pos hZero]
    exact zero_isDigits.isMagnitude
  rw [if_neg hZero]
  rcases leadingDigits count n d with ⟨number, k⟩
  have hDigits := ofNat_isDigits number
  have hDropped : ∀ m, ∀ b ∈ withoutFinalZeros
      ((ofNat number).drop m), isDigit b = true := fun m =>
    isDigit_of_mem_withoutFinalZeros fun b hMem =>
      hDigits.2 b (List.mem_of_mem_drop hMem)
  simp only
  split
  case isTrue =>
    -- scientific notation
    exact ⟨_, _, _, isDigits_take hDigits,
      afterPoint_isFraction (hDropped 1),
      exponentText_isExponent k, rfl⟩
  split
  case isTrue =>
    -- zeros between the point and the first digit
    refine ⟨ascii "0", _, [], zero_isDigits,
      afterPoint_isFraction ?_, .inl rfl,
      (List.append_nil _).symm⟩
    intro b hMem
    rcases List.mem_append.mp hMem with hFill | hDigit
    · rw [List.eq_of_mem_replicate hFill]
      rfl
    · exact isDigit_of_mem_withoutFinalZeros hDigits.2 b
        hDigit
  case isFalse =>
    exact ⟨_, _, [], isDigits_take hDigits,
      afterPoint_isFraction (hDropped _), .inl rfl,
      (List.append_nil _).symm⟩

end Double

end SqliteAccess
