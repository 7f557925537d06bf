import SqliteAccess.Text.Blank

/-
  The blank that a text starts with.

  A scan ends with the text or before the first byte that is
  not blank, so what it leaves starts with no blank.

  The blank is characterized by:
    * `Blank.length_le`
    * `Blank.length_rest`
    * `Blank.isBlank_iff`
    * `Blank.isBlank_eq_false`
    * `Blank.isBlank_rest`
    * `Blank.rest_drop`
-/

namespace SqliteAccess

namespace Blank

variable {t : Bytes}

------------------------------------------------------------
-- Scans
------------------------------------------------------------

/- A scan does not leave its text. -/
theorem lengthFrom_le
    (position : Position)
    (t : Bytes) :
    lengthFrom position t ≤ t.length := by
  fun_induction lengthFrom position t with
  | case1 => exact Nat.le_refl 0
  | _ => grind

/- Where a scan has ended, another one ends at once. -/
theorem lengthFrom_drop
    (position : Position)
    (t : Bytes) :
    lengthFrom .between (t.drop (lengthFrom position t)) =
      0 := by
  fun_induction lengthFrom position t with
  | case1 position => rfl
  -- a byte of blank, and the scan of what follows it
  | case2 b r hBlank ih => exact ih
  | case4 b hOther c r hOpens ih => exact ih
  | case5 b hOther c r hLine hOpens ih => exact ih
  | case7 b r hEnds ih => exact ih
  | case8 b r hStays ih => exact ih
  | case10 b c r hCloses ih => exact ih
  | case11 b c r hStays ih => exact ih
  -- a byte that is not blank, or the last one of a comment
  | case3 b hOther => simp [lengthFrom, hOther]
  | case6 b hOther c r hLine hBlock =>
      simp [lengthFrom, hOther, hLine, hBlock]
  | case9 b => rfl

------------------------------------------------------------
-- Texts
------------------------------------------------------------

/- The blank is part of the text. -/
theorem length_le (t : Bytes) :
    length t ≤ t.length :=
  lengthFrom_le .between t

/- What follows the blank does not start with any. -/
theorem length_rest (t : Bytes) :
    length (rest t) = 0 :=
  lengthFrom_drop .between t

/- Only of a blank text nothing is left. -/
theorem isBlank_iff :
    isBlank t = true ↔ rest t = [] := by
  unfold isBlank rest
  rw [beq_iff_eq, List.drop_eq_nil_iff]
  have hBound := length_le t
  omega

/- A text that starts with no blank is left as it is. -/
theorem rest_eq_self
    (hStart : length t = 0) :
    rest t = t := by
  rw [rest, hStart, List.drop_zero]

/- It is not blank unless it is empty. -/
theorem isBlank_eq_false
    (hAny : t ≠ [])
    (hStart : length t = 0) :
    isBlank t = false := by
  rw [Bool.eq_false_iff, Ne, isBlank_iff, rest_eq_self hStart]
  exact hAny

/- What is left of a text that is not blank is not either. -/
theorem isBlank_rest
    (hText : isBlank t = false) :
    isBlank (rest t) = false := by
  apply isBlank_eq_false _ (length_rest t)
  intro hNone
  rw [isBlank_iff.mpr hNone] at hText
  cases hText

/- The blank of what follows an offset moves the offset. -/
theorem rest_drop
    (i : Nat) :
    rest (t.drop i) = t.drop (i + length (t.drop i)) :=
  List.drop_drop

end Blank

end SqliteAccess
