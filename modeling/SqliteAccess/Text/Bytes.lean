/-
  Texts are lists of bytes.  SQL, messages, names and column
  contents reach this library from outside, so a text need
  not be valid UTF-8, and lengths and offsets count bytes.

  Key definitions include:
    * `Bytes`
    * `Bytes.ascii`
    * `Bytes.untilNul`
    * `Bytes.ofNat`
    * `Bytes.ofInt`
    * `Bytes.hex`
    * `Bytes.occursIn`
-/

namespace SqliteAccess

/- A text, or the contents of a blob. -/
abbrev Bytes :=
  List UInt8

namespace Bytes

------------------------------------------------------------
-- Writing Texts
------------------------------------------------------------

/-
  The bytes of an ASCII literal.  Every literal of this
  library is ASCII, where a character is one byte.
-/
def ascii (s : String) : Bytes :=
  s.toList.map fun c => UInt8.ofNat c.toNat

/- The byte of an ASCII character. -/
def byte (c : Char) : UInt8 :=
  UInt8.ofNat c.toNat

/- A natural number in decimal. -/
def ofNat (n : Nat) : Bytes :=
  (Nat.toDigits 10 n).map byte

/- An integer in decimal, with a minus sign if negative. -/
def ofInt : Int → Bytes
  | .ofNat n => ofNat n
  | .negSucc n => byte '-' :: ofNat (n + 1)

/- A natural number in decimal, with at least `w` digits. -/
def ofNatPadded
    (w n : Nat) : Bytes :=
  let digits := ofNat n
  List.replicate (w - digits.length) (byte '0') ++ digits

/- One hexadecimal digit, in lower case. -/
def hexDigit (n : UInt8) : UInt8 :=
  if n < 10 then byte '0' + n else byte 'a' + (n - 10)

/- Two lower-case hexadecimal digits for each byte. -/
def hex : Bytes → Bytes
  | [] => []
  | b :: r => hexDigit (b / 16) :: hexDigit (b % 16) :: hex r

/- `true` or `false`. -/
def ofBool (b : Bool) : Bytes :=
  if b then ascii "true" else ascii "false"

/- Put a separator between neighbouring texts. -/
def joined (separator : Bytes) : List Bytes → Bytes
  | [] => []
  | [t] => t
  | t :: r => t ++ separator ++ joined separator r

------------------------------------------------------------
-- Reading Texts
------------------------------------------------------------

/-
  The part of a text that a reader of NUL-terminated strings
  sees: everything before the first NUL.
-/
def untilNul (t : Bytes) : Bytes :=
  t.takeWhile (· ≠ 0)

/- Whether `pattern` stands somewhere in a text. -/
def occursIn (pattern : Bytes) : Bytes → Bool
  | [] => pattern.isEmpty
  | b :: r =>
      pattern.isPrefixOf (b :: r) || occursIn pattern r

/- An ASCII letter. -/
def isLetter (b : UInt8) : Bool :=
  (byte 'a' ≤ b && b ≤ byte 'z') ||
    (byte 'A' ≤ b && b ≤ byte 'Z')

/- An ASCII digit. -/
def isDigit (b : UInt8) : Bool :=
  byte '0' ≤ b && b ≤ byte '9'

/- An ASCII letter or digit, or an underscore. -/
def isWordByte (b : UInt8) : Bool :=
  isLetter b || isDigit b || b == byte '_'

/- A space or one of the control bytes 9 to 13. -/
def isSpace (b : UInt8) : Bool :=
  b == 32 || (9 ≤ b && b ≤ 13)

end Bytes

end SqliteAccess
