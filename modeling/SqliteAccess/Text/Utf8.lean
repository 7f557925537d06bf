import SqliteAccess.Text.Bytes

/-
  UTF-8: the scan for well-formed texts, and their reader.

  `Utf8.scan` goes through a text by the indices of its bytes.
  It refuses overlong forms, surrogates, values above
  0x10FFFF, stray continuation bytes and cut sequences, and
  would tell if it had read a byte past the end of the text.
  `Utf8.decode` reads a text as a list of scalar values.

  Key definitions include:
    * `Utf8.IsScalar`
    * `Utf8.Verdict`
    * `Utf8.scan`
    * `Utf8.isValid`
    * `Utf8.decode`
-/

namespace SqliteAccess

namespace Utf8

------------------------------------------------------------
-- Scalar Values
------------------------------------------------------------

/- A code point that is no surrogate. -/
def IsScalar (n : Nat) : Prop :=
  n < 0xD800 ∨ 0xDFFF < n ∧ n ≤ 0x10FFFF

instance (n : Nat) : Decidable (IsScalar n) := by
  unfold IsScalar
  infer_instance

------------------------------------------------------------
-- Sequences
------------------------------------------------------------

/- A byte that continues a sequence: 10xxxxxx. -/
def isContinuation (b : UInt8) : Bool :=
  0x80 ≤ b && b < 0xC0

/- The six bits that a continuation byte carries. -/
def payload (b : UInt8) : Nat :=
  b.toNat % 64

/-
  How a sequence of several bytes is written: how many bytes
  continue it, the bits that its first byte carries, and the
  first value that needs this form.
-/
structure Form where
  more : Nat
  lead : Nat
  least : Nat

/-
  The form that a first byte announces: 110xxxxx, 1110xxxx or
  11110xxx.
-/
def form? (a : UInt8) : Option Form :=
  if a < 0xC0 then
    none
  else if a < 0xE0 then
    some { more := 1, lead := a.toNat % 32, least := 0x80 }
  else if a < 0xF0 then
    some { more := 2, lead := a.toNat % 16, least := 0x800 }
  else if a < 0xF8 then
    some { more := 3, lead := a.toNat % 8, least := 0x10000 }
  else
    none

------------------------------------------------------------
-- Scanning
------------------------------------------------------------

/-
  How the scan of a text ends.  An overrun is a scan that has
  read past the end of the text.
-/
inductive Verdict where
  | wellFormed
  | malformed
  | overrun
  deriving DecidableEq

/-
  The value of a sequence that `n` bytes continue, from an
  index on, and that has spelled a value so far.
-/
def continued
    (t : Bytes) : (n i value : Nat) → Except Verdict Nat
  | 0, _, value => .ok value
  | n + 1, i, value =>
      match t[i]? with
      | none => .error .overrun
      | some b =>
          if isContinuation b then
            continued t n (i + 1) (value * 64 + payload b)
          else
            .error .malformed

/- Scan a text from an index on. -/
def scan
    (t : Bytes)
    (i : Nat) : Verdict :=
  if i < t.length then
    match t[i]? with
    | none => .overrun
    | some a =>
        if a < 0x80 then
          scan t (i + 1)
        else
          match form? a with
          | none => .malformed
          | some f =>
              if t.length - i < f.more + 1 then
                .malformed
              else
                match continued t f.more (i + 1) f.lead with
                | .error verdict => verdict
                | .ok n =>
                    if f.least ≤ n ∧ IsScalar n then
                      scan t (i + 1 + f.more)
                    else
                      .malformed
  else
    .wellFormed
termination_by t.length - i

/- Whether a text is well-formed UTF-8. -/
def isValid (t : Bytes) : Bool :=
  scan t 0 = .wellFormed

@[simp]
theorem isValid_nil : isValid [] = true := by
  unfold isValid scan
  rfl

------------------------------------------------------------
-- Decoding
------------------------------------------------------------

/-
  Put a scalar value in front of what follows it.  The value
  must need the form it was written in: `least` is the first
  one that does.
-/
def prepend
    (least n : Nat)
    (rest : Option (List Nat)) :
    Option (List Nat) :=
  if least ≤ n ∧ IsScalar n then rest.map (n :: ·) else none

/-
  The scalar values that a text spells, if it is UTF-8.  The
  first byte of a sequence tells its length: 0xxxxxxx,
  110xxxxx, 1110xxxx or 11110xxx.
-/
def decode : Bytes → Option (List Nat)
  | [] => some []
  | a :: r =>
      if a < 0x80 then
        prepend 0 a.toNat (decode r)
      else if a < 0xC0 then
        none
      else if a < 0xE0 then
        match r with
        | b :: r =>
            if isContinuation b then
              prepend 0x80
                (a.toNat % 32 * 64 + payload b)
                (decode r)
            else none
        | [] => none
      else if a < 0xF0 then
        match r with
        | b :: c :: r =>
            if isContinuation b && isContinuation c then
              prepend 0x800
                ((a.toNat % 16 * 64 + payload b) * 64
                  + payload c)
                (decode r)
            else none
        | _ => none
      else if a < 0xF8 then
        match r with
        | b :: c :: d :: r =>
            if isContinuation b && isContinuation c
                && isContinuation d then
              prepend 0x10000
                (((a.toNat % 8 * 64 + payload b) * 64
                  + payload c) * 64 + payload d)
                (decode r)
            else none
        | _ => none
      else
        none

end Utf8

end SqliteAccess
