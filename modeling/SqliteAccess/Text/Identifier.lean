import SqliteAccess.Text.Bytes

/-
  Names that may stand in generated SQL without quotes.

  Key definitions include:
    * `Identifier.isValid`
    * `Identifier.isQualified`
-/

namespace SqliteAccess

namespace Identifier

/-
  A letter or an underscore, followed by letters, digits and
  underscores.
-/
def isValid : Bytes → Bool
  | [] => false
  | b :: r =>
      (Bytes.isLetter b || b == Bytes.byte '_') &&
        r.all Bytes.isWordByte

/-
  An identifier, optionally after the name of its schema and
  a dot.
-/
def isQualified (name : Bytes) : Bool :=
  let isDot := fun b : UInt8 => b == Bytes.byte '.'
  match name.dropWhile (! isDot ·) with
  | [] => isValid name
  | _ :: after =>
      isValid (name.takeWhile (! isDot ·)) && isValid after

end Identifier

end SqliteAccess
