import Mathlib.Data.List.TakeWhile
import SqliteAccess.Connection.Pragma
import SqliteAccess.Transaction.Nested

/-
  What passes for a name in generated SQL.

  Three checks decide it: one for identifiers, one for the
  names of pragmas and one for the names of savepoints.  Each
  accepts the texts of a grammar, and no other.

  Key definitions include:
    * `Bytes.IsIdentifier`
    * `Bytes.IsPragmaName`
    * `Bytes.IsHarmless`

  The names are characterized by:
    * `Bytes.IsPragmaName.isHarmless`
    * `Identifier.isValid_iff`
    * `Identifier.isQualified_iff`
    * `Savepoint.acceptsName_eq`
-/

namespace SqliteAccess

variable {t schema name : Bytes} {b : UInt8}

------------------------------------------------------------
-- Grammar
------------------------------------------------------------

namespace Bytes

/- A byte that an identifier may start with. -/
def IsInitial (b : UInt8) : Prop :=
  isLetter b = true ∨ b = byte '_'

/-
  A letter or an underscore, followed by letters, digits and
  underscores.
-/
def IsIdentifier (t : Bytes) : Prop :=
  ∃ b r, t = b :: r ∧ IsInitial b ∧
    ∀ x ∈ r, isWordByte x = true

/- An identifier, or two of them with a dot between them. -/
def IsPragmaName (t : Bytes) : Prop :=
  IsIdentifier t ∨
    ∃ schema name, IsIdentifier schema ∧
      IsIdentifier name ∧ t = schema ++ byte '.' :: name

/- What an identifier starts with may also follow. -/
theorem IsInitial.isWordByte
    (hInitial : IsInitial b) :
    isWordByte b = true := by
  rcases hInitial with hLetter | rfl
  · simp [Bytes.isWordByte, hLetter]
  · rfl

/- All bytes of an identifier are alike. -/
theorem IsIdentifier.isWordByte
    (hName : IsIdentifier t)
    (hMem : b ∈ t) :
    isWordByte b = true := by
  rcases hName with ⟨x, r, rfl, hInitial, hRest⟩
  rcases List.mem_cons.mp hMem with rfl | hLater
  · exact hInitial.isWordByte
  · exact hRest b hLater

/- There is no dot in an identifier. -/
theorem IsIdentifier.ne_dot
    (hName : IsIdentifier t)
    (hMem : b ∈ t) :
    b ≠ byte '.' := by
  rintro rfl
  cases hName.isWordByte hMem

end Bytes

------------------------------------------------------------
-- Harmless Texts
------------------------------------------------------------

namespace Bytes

/-
  NUL, the two quotation marks, the semicolon, the brackets
  and the backquote.
-/
def marks : List UInt8 :=
  [0, 34, 39, 59, 91, 93, 96]

/-
  Whether a text that becomes part of a statement cannot end
  a word, the statement or the whole text, and cannot start
  anything that runs on:

    * `unspaced`: it holds no white space
    * `unmarked`: it holds none of the marks
    * `uncommented`: no comment starts in it
-/
structure IsHarmless (t : Bytes) : Prop where
  unspaced : ∀ b ∈ t, isSpace b = false
  unmarked : ∀ b ∈ t, b ∉ marks
  uncommented : ¬ ascii "--" <:+: t ∧ ¬ ascii "/*" <:+: t

/- A byte that is not in a text is not in a part of it. -/
theorem not_infix_of_not_mem
    {u : Bytes}
    (hMem : b ∈ u)
    (hNone : b ∉ t) :
    ¬ u <:+: t :=
  fun hInfix => hNone (hInfix.subset hMem)

/- Bytes of a harmless sort make a harmless text. -/
theorem IsHarmless.of_forall
    {p : UInt8 → Bool}
    (hAll : ∀ b ∈ t, p b = true)
    (hSpaces : ∀ b, p b = true → isSpace b = false)
    (hMarks : (byte '/' :: marks).all (! p ·) = true)
    (hLines : ¬ ascii "--" <:+: t) :
    IsHarmless t := by
  have hOther : ∀ b ∈ byte '/' :: marks, b ∉ t := by
    intro b hMark hMem
    have hNot := List.all_eq_true.mp hMarks b hMark
    rw [hAll b hMem] at hNot
    cases hNot
  constructor
  case unspaced => exact fun b hMem => hSpaces b (hAll b hMem)
  case unmarked =>
    exact fun b hMem hMark =>
      hOther b (List.mem_cons_of_mem _ hMark) hMem
  case uncommented =>
    refine ⟨hLines, not_infix_of_not_mem (b := byte '/')
      (by decide) (hOther _ List.mem_cons_self)⟩

/- A byte of an identifier, or a dot. -/
def isNameByte (b : UInt8) : Bool :=
  isWordByte b || b == byte '.'

theorem isSpace_of_isNameByte
    (hName : isNameByte b = true) :
    isSpace b = false := by
  simp only [isNameByte, isWordByte, isLetter, isDigit,
    isSpace, byte, Bool.or_eq_true, Bool.and_eq_true,
    Bool.or_eq_false_iff, Bool.and_eq_false_iff,
    decide_eq_true_eq, decide_eq_false_iff_not, beq_iff_eq,
    beq_eq_false_iff_ne, ne_eq, UInt8.le_iff_toNat_le,
    ← UInt8.toNat_inj] at hName ⊢
  simp at hName ⊢
  omega

/- A text of such bytes is harmless. -/
theorem isHarmless_of_isNameByte
    (hAll : ∀ b ∈ t, isNameByte b = true) :
    IsHarmless t := by
  apply IsHarmless.of_forall hAll
  · exact fun b => isSpace_of_isNameByte
  · decide +kernel
  · apply not_infix_of_not_mem (b := byte '-') (by decide)
    exact fun hDash => nomatch hAll _ hDash

/- An identifier is harmless. -/
theorem IsIdentifier.isHarmless
    (hName : IsIdentifier t) :
    IsHarmless t := by
  apply isHarmless_of_isNameByte
  intro b hMem
  simp [isNameByte, hName.isWordByte hMem]

/- So is the name of a pragma. -/
theorem IsPragmaName.isHarmless
    (hName : IsPragmaName t) :
    IsHarmless t := by
  rcases hName with hName | ⟨schema, name, hSchema, hName, rfl⟩
  · exact hName.isHarmless
  apply isHarmless_of_isNameByte
  intro b hMem
  unfold isNameByte
  rcases List.mem_append.mp hMem with hBefore | hAfter
  · rw [hSchema.isWordByte hBefore, Bool.true_or]
  rcases List.mem_cons.mp hAfter with rfl | hAfter
  · rfl
  · rw [hName.isWordByte hAfter, Bool.true_or]

end Bytes

------------------------------------------------------------
-- Checks
------------------------------------------------------------

namespace Identifier

open Bytes

/- The check for identifiers accepts these. -/
theorem isValid_iff :
    isValid t = true ↔ IsIdentifier t := by
  cases t with
  | nil =>
      constructor
      · nofun
      · rintro ⟨b, r, hText, _⟩
        cases hText
  | cons b r =>
      simp only [isValid, Bool.and_eq_true, Bool.or_eq_true,
        beq_iff_eq, List.all_eq_true]
      constructor
      · rintro ⟨hInitial, hRest⟩
        exact ⟨b, r, rfl, hInitial, hRest⟩
      · rintro ⟨b', r', hText, hInitial, hRest⟩
        cases hText
        exact ⟨hInitial, hRest⟩

/- A text without a dot is the name of no schema. -/
theorem isQualified_of_no_dot
    (hNone : ∀ b ∈ t, b ≠ byte '.') :
    isQualified t = isValid t := by
  have hAll : t.dropWhile (! · == byte '.') = [] := by
    apply List.dropWhile_eq_nil_iff.mpr
    intro b hMem
    simpa using hNone b hMem
  simp only [isQualified, hAll]

/- What stands on both sides of the first dot is checked. -/
theorem isQualified_append
    (hNone : ∀ b ∈ schema, b ≠ byte '.') :
    isQualified (schema ++ byte '.' :: name) =
      (isValid schema && isValid name) := by
  have hSchema : ∀ b ∈ schema,
      (! b == byte '.') = true := by
    intro b hMem
    simpa using hNone b hMem
  have hBefore : (schema ++ byte '.' :: name).takeWhile
      (! · == byte '.') = schema := by
    rw [List.takeWhile_append_of_pos hSchema]
    simp
  have hAfter : (schema ++ byte '.' :: name).dropWhile
      (! · == byte '.') = byte '.' :: name := by
    rw [List.dropWhile_append_of_pos hSchema]
    simp
  simp only [isQualified, hBefore, hAfter]

/- Any text has no dot, or is split by its first one. -/
theorem split_at_dot (t : Bytes) :
    (∀ b ∈ t, b ≠ byte '.') ∨
      ∃ schema name, (∀ b ∈ schema, b ≠ byte '.') ∧
        t = schema ++ byte '.' :: name := by
  induction t with
  | nil => exact .inl nofun
  | cons x r ih =>
      by_cases hDot : x = byte '.'
      · exact .inr ⟨[], r, nofun, by rw [hDot]; rfl⟩
      rcases ih with hNone | ⟨schema, name, hNone, rfl⟩
      · exact .inl (List.forall_mem_cons.mpr ⟨hDot, hNone⟩)
      · exact .inr ⟨x :: schema, name,
          List.forall_mem_cons.mpr ⟨hDot, hNone⟩, rfl⟩

/- The check for the names of pragmas accepts these. -/
theorem isQualified_iff :
    isQualified t = true ↔ IsPragmaName t := by
  constructor
  · intro hAccepted
    rcases split_at_dot t with
      hNone | ⟨schema, name, hNone, rfl⟩
    · rw [isQualified_of_no_dot hNone] at hAccepted
      exact .inl (isValid_iff.mp hAccepted)
    · rw [isQualified_append hNone, Bool.and_eq_true]
        at hAccepted
      exact .inr ⟨schema, name, isValid_iff.mp hAccepted.1,
        isValid_iff.mp hAccepted.2, rfl⟩
  · rintro (hName | ⟨schema, name, hSchema, hName, rfl⟩)
    · rw [isQualified_of_no_dot fun b => hName.ne_dot]
      exact isValid_iff.mpr hName
    · rw [isQualified_append fun b => hSchema.ne_dot]
      rw [isValid_iff.mpr hSchema, isValid_iff.mpr hName]
      rfl

/- A second statement is not taken for part of a name. -/
example : isQualified
    (ascii "main.user_version; DROP TABLE t") = false := by
  decide +kernel

end Identifier

namespace Savepoint

/- A scan that goes on after a failure finds the same. -/
theorem foldl_and_eq_all
    (p : UInt8 → Bool)
    (valid : Bool)
    (t : Bytes) :
    t.foldl (fun valid b => valid && p b) valid =
      (valid && t.all p) := by
  induction t generalizing valid with
  | nil => exact (Bool.and_true valid).symm
  | cons b r ih =>
      rw [List.foldl_cons, ih, List.all_cons, Bool.and_assoc]

/- The names of savepoints are the identifiers. -/
theorem acceptsName_eq (name : Bytes) :
    acceptsName name = Identifier.isValid name := by
  unfold acceptsName
  rw [foldl_and_eq_all]
  cases name with
  | nil => rfl
  | cons b r =>
      -- the first byte is looked at twice
      cases hInitial : Bytes.isLetter b || b == Bytes.byte '_'
      case false =>
        simp [Identifier.isValid, hInitial]
      case true =>
        have hWord : Bytes.isWordByte b = true := by
          apply Bytes.IsInitial.isWordByte
          simpa [Bytes.IsInitial] using hInitial
        simp [Identifier.isValid, hInitial, hWord]

end Savepoint

end SqliteAccess
