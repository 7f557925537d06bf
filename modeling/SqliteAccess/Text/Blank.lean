import SqliteAccess.Text.Bytes

/-
  The blank parts of SQL text: white space, semicolons and
  comments.  A text that is blank as a whole holds no
  statement.

  Key definitions include:
    * `Blank.length`
    * `Blank.isBlank`
    * `Blank.rest`
-/

namespace SqliteAccess

namespace Blank

------------------------------------------------------------
-- Scanning
------------------------------------------------------------

/- Where a scan of the leading blank stands. -/
inductive Position where
  | between
  | lineComment
  | blockComment
  deriving DecidableEq

/-
  The number of blank bytes that a text starts with, from a
  position.  A line comment ends after its newline, a block
  comment after the first star and slash that follow its
  opening; both also end with the text.
-/
def lengthFrom : Position → Bytes → Nat
  | _, [] => 0
  | .between, b :: r =>
      if Bytes.isSpace b || b == Bytes.byte ';' then
        lengthFrom .between r + 1
      else
        match r with
        | [] => 0
        | c :: r =>
            if b == Bytes.byte '-' && c == Bytes.byte '-' then
              lengthFrom .lineComment r + 2
            else if
                b == Bytes.byte '/' && c == Bytes.byte '*' then
              lengthFrom .blockComment r + 2
            else
              0
  | .lineComment, b :: r =>
      if b == Bytes.byte '\n' then
        lengthFrom .between r + 1
      else
        lengthFrom .lineComment r + 1
  | .blockComment, b :: r =>
      match r with
      | [] => 1
      | c :: r' =>
          if b == Bytes.byte '*' && c == Bytes.byte '/' then
            lengthFrom .between r' + 2
          else
            lengthFrom .blockComment (c :: r') + 1

/- The length of the blank that a text starts with. -/
def length (t : Bytes) : Nat :=
  lengthFrom .between t

/- Whether a text is blank as a whole. -/
def isBlank (t : Bytes) : Bool :=
  length t == t.length

/- A text without the blank that it starts with. -/
def rest (t : Bytes) : Bytes :=
  t.drop (length t)

end Blank

end SqliteAccess
