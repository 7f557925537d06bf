import Mathlib.Data.List.Infix
import SqliteAccess.Proofs.Text.Blank

/-
  The blank that a text starts with, token by token.

  A token of blank is a space, a semicolon or a comment.  A
  comment that nothing ends runs to the end of the text, so
  whether a text is a token depends on what follows it.

  Key definitions include:
    * `Blank.spaces`
    * `Blank.Token`
    * `Blank.Tokens`
    * `Blank.Starts`
    * `Blank.Measures`

  The tokens are characterized by:
    * `Blank.Token.unique`
    * `Blank.Token.length_append`
    * `Blank.starts_of_length_ne_zero`
    * `Blank.exists_tokens`
    * `Blank.length_measures`
-/

namespace SqliteAccess

namespace Blank

open Bytes

------------------------------------------------------------
-- Tokens
------------------------------------------------------------

/- The bytes that are white space. -/
def spaces : Bytes :=
  ascii " \t\n\x0b\x0c\r"

/- The two bytes that end a block comment. -/
def closing : Bytes :=
  [byte '*', byte '/']

/-
  Whether a text is a token of blank, with what follows it in
  the text it is part of:

    * `space`: a byte of white space
    * `semicolon`: a semicolon
    * `line`: a line comment with the newline that ends it
    * `lastLine`: a line comment that nothing follows
    * `block`: a block comment with the first two bytes that
      can end it, which do not overlap its opening
    * `lastBlock`: a block comment that is never ended, which
      nothing follows
-/
inductive Token : Bytes → Bytes → Prop where
  | space {b : UInt8} {r : Bytes}
      (hSpace : b ∈ spaces) :
      Token [b] r
  | semicolon {r : Bytes} :
      Token [byte ';'] r
  | line {body r : Bytes}
      (hBody : byte '\n' ∉ body) :
      Token (byte '-' :: byte '-' :: body ++ [byte '\n']) r
  | lastLine {body : Bytes}
      (hBody : byte '\n' ∉ body) :
      Token (byte '-' :: byte '-' :: body) []
  | block {body r : Bytes}
      (hBody : ¬ closing <:+: body) :
      Token (byte '/' :: byte '*' :: body ++ closing) r
  | lastBlock {body : Bytes}
      (hBody : ¬ closing <:+: body) :
      Token (byte '/' :: byte '*' :: body) []

/-
  Whether texts are tokens that stand one after the other,
  with what follows the last one.
-/
inductive Tokens (r : Bytes) : List Bytes → Prop where
  | nil : Tokens r []
  | cons {t : Bytes} {tokens : List Bytes}
      (hToken : Token t (tokens.flatten ++ r))
      (hTokens : Tokens r tokens) :
      Tokens r (t :: tokens)

/- Whether a text starts with a token. -/
def Starts (s : Bytes) : Prop :=
  ∃ t r, Token t r ∧ s = t ++ r

variable {b : UInt8} {s t r t' r' body body' : Bytes}
variable {tokens tokens' : List Bytes}

/- A byte is white space if it is one of six. -/
theorem isSpace_iff :
    isSpace b = true ↔ b ∈ spaces := by
  have hAll : ∀ n : Fin 256,
      isSpace ⟨⟨n⟩⟩ = true ↔ ⟨⟨n⟩⟩ ∈ spaces := by
    decide +kernel
  exact hAll b.toBitVec.toFin

/- A token has at least one byte. -/
theorem Token.ne_nil
    (hToken : Token t r) :
    t ≠ [] := by
  cases hToken <;> exact List.cons_ne_nil _ _

------------------------------------------------------------
-- Scanning a Token
------------------------------------------------------------

/- A line comment is scanned up to its newline. -/
theorem lengthFrom_line
    (hBody : byte '\n' ∉ body)
    (r : Bytes) :
    lengthFrom .lineComment (body ++ byte '\n' :: r) =
      body.length + 1 + length r := by
  induction body with
  | nil => simp [lengthFrom, length, Nat.add_comm]
  | cons b body ih =>
      rw [List.mem_cons, not_or] at hBody
      have hStays : (b == byte '\n') = false :=
        beq_eq_false_iff_ne.mpr (Ne.symm hBody.1)
      simp only [List.cons_append, lengthFrom, hStays,
        Bool.false_eq_true, if_false, List.length_cons,
        ih hBody.2]
      omega

/- Without a newline, it is scanned to the end. -/
theorem lengthFrom_lastLine
    (hBody : byte '\n' ∉ body) :
    lengthFrom .lineComment body = body.length := by
  induction body with
  | nil => rfl
  | cons b body ih =>
      rw [List.mem_cons, not_or] at hBody
      have hStays : (b == byte '\n') = false :=
        beq_eq_false_iff_ne.mpr (Ne.symm hBody.1)
      simp only [lengthFrom, hStays, Bool.false_eq_true,
        if_false, ih hBody.2, List.length_cons]

/- A byte that does not end a block comment is skipped. -/
theorem lengthFrom_block_cons
    {c : UInt8}
    (hStays : ¬ (b = byte '*' ∧ c = byte '/')) :
    lengthFrom .blockComment (b :: c :: r) =
      lengthFrom .blockComment (c :: r) + 1 := by
  have hTest : (b == byte '*' && c == byte '/') = false := by
    rw [Bool.eq_false_iff]
    simpa using hStays
  rw [lengthFrom]
  simp only [hTest, Bool.false_eq_true, if_false]

/- What cannot end a block comment does not start with an end. -/
theorem not_closing_of_cons
    {c : UInt8}
    (hBody : ¬ closing <:+: b :: c :: body) :
    ¬ (b = byte '*' ∧ c = byte '/') := by
  rintro ⟨rfl, rfl⟩
  exact hBody ⟨[], body, rfl⟩

/- A block comment is scanned up to its end. -/
theorem lengthFrom_block
    (hBody : ¬ closing <:+: body)
    (r : Bytes) :
    lengthFrom .blockComment (body ++ closing ++ r) =
      body.length + 2 + length r := by
  induction body with
  | nil => simp [lengthFrom, closing, length, Nat.add_comm]
  | cons b body ih =>
      have hRest : ¬ closing <:+: body := fun hFound =>
        hBody (List.infix_cons hFound)
      have hScan := ih hRest
      cases body with
      | nil =>
          have hStays : ¬ (b = byte '*' ∧
              byte '*' = byte '/') := by
            rintro ⟨_, hSame⟩
            exact absurd hSame (by decide)
          simp only [closing, List.cons_append,
            List.nil_append, List.length_cons] at hScan ⊢
          rw [lengthFrom_block_cons hStays, hScan]
          omega
      | cons c body =>
          simp only [List.cons_append, List.length_cons]
            at hScan ⊢
          rw [lengthFrom_block_cons
            (not_closing_of_cons hBody), hScan]
          omega

/- Without an end, it is scanned to the end of the text. -/
theorem lengthFrom_lastBlock
    (hBody : ¬ closing <:+: body) :
    lengthFrom .blockComment body = body.length := by
  induction body with
  | nil => rfl
  | cons b body ih =>
      have hScan := ih fun hFound =>
        hBody (List.infix_cons hFound)
      cases body with
      | nil => rfl
      | cons c body =>
          rw [lengthFrom_block_cons
            (not_closing_of_cons hBody), hScan]
          rfl

/- A single byte of blank is scanned as itself. -/
theorem length_cons_of_blank
    (hBlank : isSpace b = true ∨ b = byte ';')
    (r : Bytes) :
    length (b :: r) = length r + 1 := by
  have hTest : (isSpace b || b == byte ';') = true := by
    simpa using hBlank
  unfold length
  rw [lengthFrom.eq_def]
  simp only [hTest, if_true]

/- The two bytes that open a comment are no other token. -/
theorem length_line (r : Bytes) :
    length (byte '-' :: byte '-' :: r) =
      lengthFrom .lineComment r + 2 := by
  rfl

theorem length_block (r : Bytes) :
    length (byte '/' :: byte '*' :: r) =
      lengthFrom .blockComment r + 2 := by
  rfl

/- A token is scanned as a whole, and then what follows it. -/
theorem Token.length_append
    (hToken : Token t r) :
    length (t ++ r) = t.length + length r := by
  cases hToken with
  | space hSpace =>
      have hScan := length_cons_of_blank
        (.inl (isSpace_iff.mpr hSpace)) r
      exact hScan.trans (Nat.add_comm _ _)
  | semicolon =>
      have hScan := length_cons_of_blank (.inr rfl) r
      exact hScan.trans (Nat.add_comm _ _)
  | @line body r hBody =>
      simp only [List.cons_append, List.append_assoc,
        List.nil_append, length_line, lengthFrom_line hBody,
        List.length_cons, List.length_append, List.length_nil]
      omega
  | @lastLine body hBody =>
      rw [List.append_nil, length_line,
        lengthFrom_lastLine hBody]
      rfl
  | @block body r hBody =>
      have hScan := lengthFrom_block hBody r
      simp only [List.cons_append, length_block, hScan,
        List.length_cons, List.length_append]
      simp only [closing, List.length_cons, List.length_nil]
      omega
  | @lastBlock body hBody =>
      rw [List.append_nil, length_block,
        lengthFrom_lastBlock hBody]
      rfl

/- The same of tokens that stand one after the other. -/
theorem Tokens.length_append
    (hTokens : Tokens r tokens) :
    length (tokens.flatten ++ r) =
      tokens.flatten.length + length r := by
  induction hTokens with
  | nil => simp
  | cons hToken _ ih =>
      rw [List.flatten_cons, List.append_assoc,
        hToken.length_append, ih, List.length_append]
      omega

------------------------------------------------------------
-- Finding a Token
------------------------------------------------------------

/- A text that can end a block comment does so a first time. -/
theorem exists_closing
    (hFound : closing <:+: t) :
    ∃ body r, t = body ++ closing ++ r ∧
      ¬ closing <:+: body := by
  induction t with
  | nil => exact absurd hFound (by decide)
  | cons b t ih =>
      rcases List.infix_cons_iff.mp hFound with
        ⟨r, hHere⟩ | hLater
      · exact ⟨[], r, hHere.symm, by decide⟩
      · rcases ih hLater with ⟨body, r, rfl, hBody⟩
        by_cases hNow : closing <+: b :: body
        · rcases hNow with ⟨r', hHere⟩
          refine ⟨[], r' ++ closing ++ r, ?_, by decide⟩
          rw [List.nil_append, ← List.append_assoc,
            ← List.append_assoc, hHere]
          rfl
        · refine ⟨b :: body, r, rfl, ?_⟩
          rw [List.infix_cons_iff, not_or]
          exact ⟨hNow, hBody⟩

/- A line comment that a text starts with is a token. -/
theorem starts_line (r : Bytes) :
    Starts (byte '-' :: byte '-' :: r) := by
  by_cases hEnds : byte '\n' ∈ r
  · rcases List.eq_append_cons_of_mem hEnds with
      ⟨body, r, rfl, hBody⟩
    exact ⟨_, r, .line hBody, by simp⟩
  · exact ⟨_, [], .lastLine hEnds, by simp⟩

/- So is a block comment. -/
theorem starts_block (r : Bytes) :
    Starts (byte '/' :: byte '*' :: r) := by
  by_cases hEnds : closing <:+: r
  · rcases exists_closing hEnds with ⟨body, r, rfl, hBody⟩
    exact ⟨_, r, .block hBody, by simp⟩
  · exact ⟨_, [], .lastBlock hEnds, by simp⟩

/- What a scan does not stop at starts with a token. -/
theorem starts_of_length_ne_zero
    (hSome : length t ≠ 0) :
    Starts t := by
  cases t with
  | nil => exact absurd rfl hSome
  | cons b r =>
      by_cases hBlank : isSpace b = true ∨ b = byte ';'
      · rcases hBlank with hSpace | rfl
        · exact ⟨[b], r, .space (isSpace_iff.mp hSpace), rfl⟩
        · exact ⟨[byte ';'], r, .semicolon, rfl⟩
      · have hOther : (isSpace b || b == byte ';') = false := by
          rw [Bool.eq_false_iff]
          simpa using hBlank
        unfold length at hSome
        rw [lengthFrom.eq_def] at hSome
        simp only [hOther, Bool.false_eq_true, if_false]
          at hSome
        cases r with
        | nil => exact absurd rfl hSome
        | cons c r =>
            simp only at hSome
            split at hSome
            case isTrue hLine =>
              simp only [Bool.and_eq_true, beq_iff_eq]
                at hLine
              rcases hLine with ⟨rfl, rfl⟩
              exact starts_line r
            case isFalse =>
              split at hSome
              case isTrue hBlock =>
                simp only [Bool.and_eq_true, beq_iff_eq]
                  at hBlock
                rcases hBlock with ⟨rfl, rfl⟩
                exact starts_block r
              case isFalse => exact absurd rfl hSome

/- A scan stops exactly where no token starts. -/
theorem length_eq_zero_iff :
    length t = 0 ↔ ¬ Starts t := by
  constructor
  · rintro hStops ⟨t, r, hToken, rfl⟩
    have hSome := List.length_pos_iff.mpr hToken.ne_nil
    rw [hToken.length_append] at hStops
    omega
  · exact fun hNone => not_not.mp
      (hNone ∘ starts_of_length_ne_zero)

/- The blank that a text starts with consists of tokens. -/
theorem exists_tokens (s : Bytes) :
    ∃ tokens, tokens.flatten ++ rest s = s ∧
      Tokens (rest s) tokens := by
  induction hLength : s.length using Nat.strongRecOn
    generalizing s with
  | ind n ih =>
      by_cases hStops : length s = 0
      · exact ⟨[], by simp [rest, hStops], .nil⟩
      · rcases starts_of_length_ne_zero hStops with
          ⟨t, r, hToken, rfl⟩
        have hSome := List.length_pos_iff.mpr hToken.ne_nil
        rw [List.length_append] at hLength
        rcases ih r.length (by omega) r rfl with
          ⟨tokens, hText, hTokens⟩
        have hRest : rest (t ++ r) = rest r := by
          unfold rest
          rw [hToken.length_append, List.drop_append,
            Nat.add_sub_cancel_left,
            List.drop_eq_nil_of_le (Nat.le_add_right _ _),
            List.nil_append]
        rw [hRest]
        refine ⟨t :: tokens, ?_, .cons ?_ hTokens⟩
        · rw [List.flatten_cons, List.append_assoc, hText]
        · rw [hText]
          exact hToken

------------------------------------------------------------
-- One Way to Split
------------------------------------------------------------

/- A byte of blank is a token of its own. -/
theorem Token.of_blank
    (hToken : Token t r)
    (hBlank : b ∈ spaces ∨ b = byte ';')
    (hText : t ++ r = b :: s) :
    t = [b] := by
  cases hToken <;> cases hText
  case space => rfl
  case semicolon => rfl
  all_goals exact absurd hBlank (by decide)

/- Two dashes open a line comment. -/
theorem Token.of_line
    (hToken : Token t r)
    (hText : t ++ r = byte '-' :: byte '-' :: s) :
    (∃ body, byte '\n' ∉ body ∧
        s = body ++ byte '\n' :: r ∧
        t = byte '-' :: byte '-' :: body ++ [byte '\n']) ∨
      byte '\n' ∉ s ∧ t = byte '-' :: byte '-' :: s := by
  cases hToken with
  | space hSpace =>
      cases hText
      exact absurd hSpace (by decide)
  | semicolon => cases hText
  | block | lastBlock => cases hText
  | @line body r hBody =>
      left
      refine ⟨body, hBody, ?_, rfl⟩
      simpa using hText.symm
  | lastLine hBody =>
      right
      cases (List.append_nil _).symm.trans hText
      exact ⟨hBody, rfl⟩

/- A slash and a star open a block comment. -/
theorem Token.of_block
    (hToken : Token t r)
    (hText : t ++ r = byte '/' :: byte '*' :: s) :
    (∃ body, ¬ closing <:+: body ∧
        s = body ++ closing ++ r ∧
        t = byte '/' :: byte '*' :: body ++ closing) ∨
      ¬ closing <:+: s ∧ t = byte '/' :: byte '*' :: s := by
  cases hToken with
  | space hSpace =>
      cases hText
      exact absurd hSpace (by decide)
  | semicolon => cases hText
  | line | lastLine => cases hText
  | @block body r hBody =>
      left
      refine ⟨body, hBody, ?_, rfl⟩
      simpa using hText.symm
  | lastBlock hBody =>
      right
      cases (List.append_nil _).symm.trans hText
      exact ⟨hBody, rfl⟩

/- No line comment ends behind its first newline. -/
theorem line_shortest
    (hBody' : byte '\n' ∉ body')
    (hSame : body ++ byte '\n' :: r =
      body' ++ byte '\n' :: r') :
    body' <+: body := by
  rcases List.append_eq_append_iff.mp hSame with
    ⟨d, rfl, hRest⟩ | ⟨d, rfl, _⟩
  · cases d with
    | nil => simp
    | cons b d =>
        cases hRest
        exact absurd (by simp) hBody'
  · exact List.prefix_append body' d

/- No block comment ends behind its first end. -/
theorem block_shortest
    (hBody' : ¬ closing <:+: body')
    (hSame : body ++ closing ++ r = body' ++ closing ++ r') :
    body' <+: body := by
  rw [List.append_assoc, List.append_assoc] at hSame
  rcases List.append_eq_append_iff.mp hSame with
    ⟨d, rfl, hRest⟩ | ⟨d, rfl, _⟩
  · cases d with
    | nil => simp
    | cons b d =>
        cases d with
        | nil => cases hRest
        | cons c d =>
            cases hRest
            exact absurd ⟨body, d, by simp [closing]⟩ hBody'
  · exact List.prefix_append body' d

/- The text that a token starts tells where it ends. -/
theorem Token.unique
    (hToken : Token t r)
    (hToken' : Token t' r')
    (hSame : t ++ r = t' ++ r') :
    t = t' := by
  cases hToken with
  | space hSpace =>
      exact (hToken'.of_blank (.inl hSpace) hSame.symm).symm
  | semicolon =>
      exact (hToken'.of_blank (.inr rfl) hSame.symm).symm
  | @line body r hBody =>
      have hText : t' ++ r' = byte '-' :: byte '-' ::
          (body ++ byte '\n' :: r) := by
        simpa using hSame.symm
      rcases hToken'.of_line hText with
        ⟨body', hBody', hRest, rfl⟩ | ⟨hEndless, _⟩
      · rw [(line_shortest hBody hRest.symm).eq_of_length_le
          (line_shortest hBody' hRest).length_le]
      · exact absurd (by simp) hEndless
  | @lastLine body hBody =>
      rw [List.append_nil] at hSame
      rcases hToken'.of_line hSame.symm with
        ⟨body', _, rfl, _⟩ | ⟨_, rfl⟩
      · exact absurd (by simp) hBody
      · rfl
  | @block body r hBody =>
      have hText : t' ++ r' = byte '/' :: byte '*' ::
          (body ++ closing ++ r) := by
        simpa using hSame.symm
      rcases hToken'.of_block hText with
        ⟨body', hBody', hRest, rfl⟩ | ⟨hEndless, _⟩
      · rw [(block_shortest hBody hRest.symm).eq_of_length_le
          (block_shortest hBody' hRest).length_le]
      · exact absurd ⟨body, r, rfl⟩ hEndless
  | @lastBlock body hBody =>
      rw [List.append_nil] at hSame
      rcases hToken'.of_block hSame.symm with
        ⟨body', _, rfl, _⟩ | ⟨_, rfl⟩
      · exact absurd ⟨body', r', rfl⟩ hBody
      · rfl

/- There is one way to split a text into tokens. -/
theorem Tokens.unique
    (hTokens : Tokens r tokens)
    (hTokens' : Tokens r tokens')
    (hSame : tokens.flatten = tokens'.flatten) :
    tokens = tokens' := by
  induction hTokens generalizing tokens' with
  | nil =>
      cases hTokens' with
      | nil => rfl
      | cons hToken' =>
          have hNone := (List.append_eq_nil_iff.mp
            hSame.symm).1
          exact absurd hNone hToken'.ne_nil
  | @cons t tokens hToken _ ih =>
      cases hTokens' with
      | nil =>
          have hNone := (List.append_eq_nil_iff.mp hSame).1
          exact absurd hNone hToken.ne_nil
      | @cons t' tokens' hToken' hTokens' =>
          rw [List.flatten_cons, List.flatten_cons] at hSame
          have hFirst : t = t' := hToken.unique hToken' (by
            rw [← List.append_assoc, hSame,
              List.append_assoc])
          subst hFirst
          rw [ih hTokens' (List.append_cancel_left hSame)]

/- Every token takes at least one byte. -/
theorem Tokens.length_le
    (hTokens : Tokens r tokens) :
    tokens.length ≤ tokens.flatten.length := by
  induction hTokens with
  | nil => exact Nat.le_refl 0
  | cons hToken _ ih =>
      have hSome := List.length_pos_iff.mpr hToken.ne_nil
      rw [List.length_cons, List.flatten_cons,
        List.length_append]
      omega

------------------------------------------------------------
-- The Leading Blank
------------------------------------------------------------

/-
  Whether a text starts with that many bytes of blank:

    * `bounded`: they are bytes of the text
    * `splits`: they are tokens one after the other, in
      exactly one way
    * `rounds`: there are no more tokens than bytes, so that a
      scan of one token after the other comes to an end
    * `stops`: what follows them, if anything does, starts
      with no token
    * `again`: what follows them starts with no blank
    * `longest`: they are all the tokens that can stand one
      after the other in front of such a rest
    * `whole`: the text is blank exactly if it is tokens one
      after the other as a whole
-/
structure Measures (s : Bytes) (n : Nat) : Prop where
  bounded : n ≤ s.length
  splits : ∃! tokens, tokens.flatten = s.take n ∧
    Tokens (s.drop n) tokens
  rounds : ∀ tokens, tokens.flatten = s.take n →
    Tokens (s.drop n) tokens → tokens.length ≤ n
  stops : ¬ Starts (s.drop n)
  again : length (s.drop n) = 0
  longest : ∀ tokens r, s = tokens.flatten ++ r →
    Tokens r tokens → ¬ Starts r → tokens.flatten.length = n
  whole : isBlank s = true ↔
    ∃ tokens, tokens.flatten = s ∧ Tokens [] tokens

/- Tokens in front of a rest without one are all of them. -/
theorem Tokens.length_of_stops
    (hTokens : Tokens r tokens)
    (hStops : ¬ Starts r) :
    length (tokens.flatten ++ r) = tokens.flatten.length := by
  rw [hTokens.length_append, length_eq_zero_iff.mpr hStops,
    Nat.add_zero]

/- Nothing is left of a text that is tokens as a whole. -/
theorem isBlank_iff_tokens :
    isBlank s = true ↔
      ∃ tokens, tokens.flatten = s ∧ Tokens [] tokens := by
  constructor
  · intro hBlank
    rcases exists_tokens s with ⟨tokens, hText, hTokens⟩
    rw [isBlank_iff.mp hBlank] at hText hTokens
    exact ⟨tokens, (List.append_nil _).symm.trans hText,
      hTokens⟩
  · rintro ⟨tokens, rfl, hTokens⟩
    have hLength := hTokens.length_append
    rw [List.append_nil] at hLength
    exact beq_iff_eq.mpr hLength

/-
  Every text starts with as many bytes of blank as its scan
  counts.
-/
theorem length_measures (s : Bytes) :
    Measures s (length s) := by
  rcases exists_tokens s with ⟨tokens, hText, hTokens⟩
  have hFirst : tokens.flatten = s.take (length s) := by
    have hBoth : tokens.flatten ++ rest s =
        s.take (length s) ++ rest s := by
      rw [hText]
      exact (List.take_append_drop _ s).symm
    exact List.append_cancel_right hBoth
  exact
    { bounded := length_le s
      splits := by
        refine ⟨tokens, ⟨hFirst, hTokens⟩, ?_⟩
        rintro tokens' ⟨hFirst', hTokens'⟩
        exact hTokens'.unique hTokens
          (hFirst'.trans hFirst.symm)
      rounds := by
        intro tokens' hFirst' hTokens'
        have hBound := hTokens'.length_le
        rw [hFirst', List.length_take] at hBound
        omega
      stops := length_eq_zero_iff.mp (length_rest s)
      again := length_rest s
      longest := by
        rintro tokens' r rfl hTokens' hStops
        exact (hTokens'.length_of_stops hStops).symm
      whole := isBlank_iff_tokens }

/- The delimiters of a block comment do not overlap. -/
example : length (ascii "/*/ */;x") = 7 := by
  decide +kernel

end Blank

end SqliteAccess
