import SqliteAccess.Text.Utf8

/-
  The scan for UTF-8 accepts the encodings of characters.

  A text is well-formed if and only if it is the encoding of
  some characters, which are the scalar values of Unicode, and
  no other characters have that encoding.  The scan goes by
  indices and the reader by the front of what is left; both
  go the same way, so that the scan never gets past the end.

  Key definitions include:
    * `Utf8.encode`
    * `Utf8.follow`

  Correctness is proven by:
    * `Utf8.decode_encode`
    * `Utf8.encode_of_decode`
    * `Utf8.scan_eq`
    * `Utf8.isValid_iff_encoding`
-/

namespace SqliteAccess

namespace Utf8

variable {a b : UInt8} {r t : Bytes} {i n v : Nat}

------------------------------------------------------------
-- Encoding
------------------------------------------------------------

/- The encoding of some characters, one after the other. -/
def encode (l : List Char) : Bytes :=
  l.flatMap String.utf8EncodeChar

@[simp]
theorem encode_nil : encode [] = [] := rfl

@[simp]
theorem encode_cons
    (c : Char)
    (l : List Char) :
    encode (c :: l) = String.utf8EncodeChar c ++ encode l :=
  rfl

/- A character of seven bits is one byte. -/
theorem encodeChar_one
    {c : Char}
    (hOne : c.toNat ≤ 0x7f) :
    String.utf8EncodeChar c = [UInt8.ofNat c.toNat] :=
  if_pos hOne

/- One of up to eleven bits is two bytes. -/
theorem encodeChar_two
    {c : Char}
    (hOne : ¬ c.toNat ≤ 0x7f)
    (hTwo : c.toNat ≤ 0x7ff) :
    String.utf8EncodeChar c =
      [UInt8.ofNat (c.toNat / 64 % 32 + 0xC0),
        UInt8.ofNat (c.toNat % 64 + 0x80)] :=
  (if_neg hOne).trans (if_pos hTwo)

/- One of up to sixteen bits is three bytes. -/
theorem encodeChar_three
    {c : Char}
    (hOne : ¬ c.toNat ≤ 0x7f)
    (hTwo : ¬ c.toNat ≤ 0x7ff)
    (hThree : c.toNat ≤ 0xffff) :
    String.utf8EncodeChar c =
      [UInt8.ofNat (c.toNat / 4096 % 16 + 0xE0),
        UInt8.ofNat (c.toNat / 64 % 64 + 0x80),
        UInt8.ofNat (c.toNat % 64 + 0x80)] :=
  (if_neg hOne).trans ((if_neg hTwo).trans (if_pos hThree))

/- Every other one is four bytes. -/
theorem encodeChar_four
    {c : Char}
    (hOne : ¬ c.toNat ≤ 0x7f)
    (hTwo : ¬ c.toNat ≤ 0x7ff)
    (hThree : ¬ c.toNat ≤ 0xffff) :
    String.utf8EncodeChar c =
      [UInt8.ofNat (c.toNat / 262144 % 8 + 0xF0),
        UInt8.ofNat (c.toNat / 4096 % 64 + 0x80),
        UInt8.ofNat (c.toNat / 64 % 64 + 0x80),
        UInt8.ofNat (c.toNat % 64 + 0x80)] :=
  (if_neg hOne).trans ((if_neg hTwo).trans (if_neg hThree))

/- A character is a scalar value. -/
theorem isScalar_toNat (c : Char) : IsScalar c.toNat := by
  rcases c.valid with hLow | ⟨hLow, hHigh⟩
  · exact .inl hLow
  · exact .inr ⟨hLow, Nat.le_of_lt_succ hHigh⟩

/- A scalar value is that of a character. -/
theorem toNat_ofNat (hScalar : IsScalar n) :
    (Char.ofNat n).toNat = n := by
  have hValid : n.isValidChar := by
    unfold IsScalar at hScalar
    unfold Nat.isValidChar
    omega
  unfold Char.ofNat
  rw [dif_pos hValid]
  rfl

------------------------------------------------------------
-- Bytes of a Sequence
------------------------------------------------------------

/- Continuation bytes are those of six bits. -/
theorem isContinuation_iff :
    isContinuation b = true ↔
      0x80 ≤ b.toNat ∧ b.toNat < 0xC0 := by
  simp [isContinuation, UInt8.le_iff_toNat_le,
    UInt8.lt_iff_toNat_lt]

/- Six bits are carried by a continuation byte. -/
theorem continuation_ofNat (n : Nat) :
    isContinuation (UInt8.ofNat (n % 64 + 0x80)) = true ∧
      payload (UInt8.ofNat (n % 64 + 0x80)) = n % 64 := by
  rw [isContinuation_iff]
  unfold payload
  rw [UInt8.toNat_ofNat']
  omega

/- A continuation byte is known by the bits it carries. -/
theorem ofNat_payload
    (hContinues : isContinuation b = true) :
    UInt8.ofNat (payload b + 0x80) = b := by
  rw [isContinuation_iff] at hContinues
  apply UInt8.toNat_inj.mp
  unfold payload
  rw [UInt8.toNat_ofNat']
  omega

/-
  Read the bytes that continue a sequence from the front of a
  text.  The result is the value of the sequence and what
  follows it.
-/
def follow : Nat → Nat → Bytes → Option (Nat × Bytes)
  | 0, value, r => some (value, r)
  | _ + 1, _, [] => none
  | n + 1, value, b :: r =>
      if isContinuation b then
        follow n (value * 64 + payload b) r
      else
        none

/- A sequence whose bytes are missing is not read. -/
theorem follow_of_short
    (hShort : r.length < n) :
    follow n v r = none := by
  induction n generalizing v r with
  | zero => exact absurd hShort (Nat.not_lt_zero _)
  | succ n ih =>
      cases r with
      | nil => rfl
      | cons b r =>
          unfold follow
          rw [ih (Nat.lt_of_succ_lt_succ hShort), ite_self]

/- A sequence goes on with a byte that continues it. -/
theorem follow_succ_eq_some
    {result : Nat × Bytes} :
    follow (n + 1) v r = some result ↔
      ∃ b r', r = b :: r' ∧ isContinuation b = true ∧
        follow n (v * 64 + payload b) r' = some result := by
  cases r with
  | nil => simp [follow]
  | cons b r =>
      show (if _ then _ else _) = _ ↔ _
      cases hContinues : isContinuation b with
      | true =>
          constructor
          · exact fun hEnd => ⟨b, r, rfl, hContinues, hEnd⟩
          · rintro ⟨_, _, ⟨⟩, _, hEnd⟩
            exact hEnd
      | false =>
          constructor
          · exact nofun
          · rintro ⟨_, _, ⟨⟩, hOther, _⟩
            rw [hContinues] at hOther
            cases hOther

/- A sequence that is complete has its value. -/
theorem follow_zero_eq_some
    {r' : Bytes} :
    follow 0 v r = some (n, r') ↔ v = n ∧ r = r' := by
  unfold follow
  rw [Option.some.injEq, Prod.mk.injEq]

/- What follows a sequence comes after all of its bytes. -/
theorem follow_rest
    {n' : Nat}
    {r' : Bytes}
    (hFollows : follow n v r = some (n', r')) :
    r' = r.drop n := by
  induction n generalizing v r with
  | zero =>
      cases hFollows
      rfl
  | succ n ih =>
      cases r with
      | nil => cases hFollows
      | cons b r =>
          unfold follow at hFollows
          split at hFollows
          case isTrue => exact ih hFollows
          case isFalse => cases hFollows

/- Six bits are read from the byte that carries them. -/
theorem follow_ofNat (m n v : Nat) (r : Bytes) :
    follow (n + 1) v (UInt8.ofNat (m % 64 + 0x80) :: r) =
      follow n (v * 64 + m % 64) r := by
  rcases continuation_ofNat m with ⟨hContinues, hPayload⟩
  simp only [follow, hContinues, hPayload, if_true]

------------------------------------------------------------
-- Reading
------------------------------------------------------------

/- A text that starts with an ASCII character. -/
theorem decode_ascii
    (hAscii : a < 0x80)
    (r : Bytes) :
    decode (a :: r) = prepend 0 a.toNat (decode r) := by
  rw [decode.eq_def]
  exact if_pos hAscii

/- A text that starts with a longer sequence. -/
theorem decode_sequence
    (hLong : ¬ a < 0x80)
    (r : Bytes) :
    decode (a :: r) =
      (form? a).bind fun f =>
        (follow f.more f.lead r).bind fun (n, r) =>
          prepend f.least n (decode r) := by
  rw [decode.eq_def]
  simp only [if_neg hLong]
  unfold form?
  by_cases hStray : a < 0xC0
  · rw [if_pos hStray, if_pos hStray]
    rfl
  rw [if_neg hStray, if_neg hStray]
  by_cases hTwo : a < 0xE0
  · rw [if_pos hTwo, if_pos hTwo]
    rcases r with _ | ⟨b, r⟩
    · rfl
    · cases hB : isContinuation b <;> simp [follow, hB]
  rw [if_neg hTwo, if_neg hTwo]
  by_cases hThree : a < 0xF0
  · rw [if_pos hThree, if_pos hThree]
    rcases r with _ | ⟨b, _ | ⟨c, r⟩⟩
    · rfl
    · simp [follow]
    · cases hB : isContinuation b <;>
        cases hC : isContinuation c <;>
          simp [follow, hB, hC]
  rw [if_neg hThree, if_neg hThree]
  by_cases hFour : a < 0xF8
  · rw [if_pos hFour, if_pos hFour]
    rcases r with _ | ⟨b, _ | ⟨c, _ | ⟨d, r⟩⟩⟩
    · rfl
    · simp [follow]
    · simp [follow]
    · cases hB : isContinuation b <;>
        cases hC : isContinuation c <;>
          cases hD : isContinuation d <;>
            simp [follow, hB, hC, hD]
  rw [if_neg hFour, if_neg hFour]
  rfl

------------------------------------------------------------
-- First Bytes
------------------------------------------------------------

/- The form of a first byte is found by its number. -/
theorem form?_ofNat
    (hByte : n < 256) :
    form? (UInt8.ofNat n) =
      if n < 0xC0 then none
      else if n < 0xE0 then some ⟨1, n % 32, 0x80⟩
      else if n < 0xF0 then some ⟨2, n % 16, 0x800⟩
      else if n < 0xF8 then some ⟨3, n % 8, 0x10000⟩
      else none := by
  have hNumber : (UInt8.ofNat n).toNat = n := by
    rw [UInt8.toNat_ofNat']
    exact Nat.mod_eq_of_lt hByte
  unfold form?
  simp only [UInt8.lt_iff_toNat_lt, hNumber]
  rfl

/- A text that starts with a sequence of a known form. -/
theorem decode_of_form
    {f : Form}
    (hForm : form? a = some f)
    (r : Bytes) :
    decode (a :: r) =
      (follow f.more f.lead r).bind fun (n, r) =>
        prepend f.least n (decode r) := by
  have hLong : ¬ a < 0x80 := by
    intro hAscii
    have hStray : a < 0xC0 := by
      rw [UInt8.lt_iff_toNat_lt] at hAscii ⊢
      exact Nat.lt_trans hAscii (by decide)
    rw [form?, if_pos hStray] at hForm
    cases hForm
  rw [decode_sequence hLong, hForm]
  rfl

------------------------------------------------------------
-- Reading What Was Encoded
------------------------------------------------------------

/- A value in its shortest form is put in front. -/
theorem prepend_of_least
    {least : Nat}
    {rest : Option (List Nat)}
    (hLeast : least ≤ n)
    (hScalar : IsScalar n) :
    prepend least n rest = rest.map (n :: ·) :=
  if_pos ⟨hLeast, hScalar⟩

/- A character is read from its encoding. -/
theorem decode_encodeChar
    (c : Char)
    (r : Bytes) :
    decode (String.utf8EncodeChar c ++ r) =
      (decode r).map (c.toNat :: ·) := by
  have hScalar := isScalar_toNat c
  have hBound : c.toNat ≤ 0x10FFFF := by
    unfold IsScalar at hScalar
    omega
  by_cases hOne : c.toNat ≤ 0x7f
  · have hByte : (UInt8.ofNat c.toNat).toNat = c.toNat := by
      rw [UInt8.toNat_ofNat']
      omega
    have hAscii : UInt8.ofNat c.toNat < 0x80 := by
      rw [UInt8.lt_iff_toNat_lt, hByte]
      exact Nat.lt_succ_of_le hOne
    rw [encodeChar_one hOne, List.singleton_append,
      decode_ascii hAscii, hByte]
    exact prepend_of_least (Nat.zero_le _) hScalar
  by_cases hTwo : c.toNat ≤ 0x7ff
  · have hForm :
        form? (UInt8.ofNat (c.toNat / 64 % 32 + 0xC0)) =
          some ⟨1, c.toNat / 64, 0x80⟩ := by
      rw [form?_ofNat (by omega), if_neg (by omega),
        if_pos (by omega)]
      congr 2
      omega
    have hValue :
        c.toNat / 64 * 64 + c.toNat % 64 = c.toNat :=
      Nat.div_add_mod' _ _
    rw [encodeChar_two hOne hTwo, List.cons_append,
      decode_of_form hForm, List.singleton_append,
      follow_ofNat, hValue]
    have hLeast : 0x80 ≤ c.toNat := Nat.lt_of_not_le hOne
    exact prepend_of_least hLeast hScalar
  by_cases hThree : c.toNat ≤ 0xffff
  · have hForm :
        form? (UInt8.ofNat (c.toNat / 4096 % 16 + 0xE0)) =
          some ⟨2, c.toNat / 4096, 0x800⟩ := by
      rw [form?_ofNat (by omega), if_neg (by omega),
        if_neg (by omega), if_pos (by omega)]
      congr 2
      omega
    have hValue :
        (c.toNat / 4096 * 64 + c.toNat / 64 % 64) * 64 +
          c.toNat % 64 = c.toNat := by
      omega
    rw [encodeChar_three hOne hTwo hThree, List.cons_append,
      decode_of_form hForm, List.cons_append, follow_ofNat,
      List.singleton_append, follow_ofNat, hValue]
    have hLeast : 0x800 ≤ c.toNat := Nat.lt_of_not_le hTwo
    exact prepend_of_least hLeast hScalar
  · have hForm :
        form? (UInt8.ofNat (c.toNat / 262144 % 8 + 0xF0)) =
          some ⟨3, c.toNat / 262144, 0x10000⟩ := by
      rw [form?_ofNat (by omega), if_neg (by omega),
        if_neg (by omega), if_neg (by omega),
        if_pos (by omega)]
      congr 2
      omega
    have hValue :
        ((c.toNat / 262144 * 64 + c.toNat / 4096 % 64) * 64 +
          c.toNat / 64 % 64) * 64 + c.toNat % 64 =
            c.toNat := by
      omega
    rw [encodeChar_four hOne hTwo hThree, List.cons_append,
      decode_of_form hForm, List.cons_append, follow_ofNat,
      List.cons_append, follow_ofNat, List.singleton_append,
      follow_ofNat, hValue]
    have hLeast : 0x10000 ≤ c.toNat := Nat.lt_of_not_le hThree
    exact prepend_of_least hLeast hScalar

/- Characters are read from their encoding. -/
theorem decode_encode (l : List Char) :
    decode (encode l) = some (l.map Char.toNat) := by
  induction l with
  | nil => rfl
  | cons c l ih =>
      rw [encode_cons, decode_encodeChar, ih]
      rfl

------------------------------------------------------------
-- Encoding What Was Read
------------------------------------------------------------

/- A byte is made of the number that it has. -/
theorem ofNat_of_eq
    (hNumber : n = b.toNat) :
    UInt8.ofNat n = b := by
  rw [hNumber]
  exact UInt8.ofNat_toNat

/- A byte that continues is made of the bits it carries. -/
theorem ofNat_of_payload
    (hContinues : isContinuation b = true)
    (hBits : n = payload b) :
    UInt8.ofNat (n + 0x80) = b := by
  rw [hBits]
  exact ofNat_payload hContinues

/- A sequence is the encoding of the character that it is. -/
theorem encodeChar_of_form
    {f : Form}
    {r' : Bytes}
    (hForm : form? a = some f)
    (hFollows : follow f.more f.lead r = some (n, r'))
    (hLeast : f.least ≤ n)
    (hScalar : IsScalar n) :
    String.utf8EncodeChar (Char.ofNat n) ++ r' = a :: r := by
  have hNumber := toNat_ofNat hScalar
  have hBits : ∀ b : UInt8, payload b < 64 :=
    fun b => Nat.mod_lt _ (by decide)
  rw [← UInt8.ofNat_toNat (x := a), form?_ofNat a.toNat_lt]
    at hForm
  split at hForm
  · cases hForm
  split at hForm
  · cases hForm
    rcases follow_succ_eq_some.mp hFollows with
      ⟨b, _, rfl, hB, hFollows⟩
    rcases follow_zero_eq_some.mp hFollows with
      ⟨hValue, rfl⟩
    dsimp only at hValue hLeast
    have hb := hBits b
    rw [encodeChar_two (by omega) (by omega), hNumber,
      ofNat_of_eq (b := a) (by omega),
      ofNat_of_payload hB (by omega)]
    rfl
  split at hForm
  · cases hForm
    rcases follow_succ_eq_some.mp hFollows with
      ⟨b, _, rfl, hB, hFollows⟩
    rcases follow_succ_eq_some.mp hFollows with
      ⟨c, _, rfl, hC, hFollows⟩
    rcases follow_zero_eq_some.mp hFollows with
      ⟨hValue, rfl⟩
    dsimp only at hValue hLeast
    have hb := hBits b
    have hc := hBits c
    rw [encodeChar_three (by omega) (by omega) (by omega),
      hNumber, ofNat_of_eq (b := a) (by omega),
      ofNat_of_payload hB (by omega),
      ofNat_of_payload hC (by omega)]
    rfl
  split at hForm
  · cases hForm
    rcases follow_succ_eq_some.mp hFollows with
      ⟨b, _, rfl, hB, hFollows⟩
    rcases follow_succ_eq_some.mp hFollows with
      ⟨c, _, rfl, hC, hFollows⟩
    rcases follow_succ_eq_some.mp hFollows with
      ⟨d, _, rfl, hD, hFollows⟩
    rcases follow_zero_eq_some.mp hFollows with
      ⟨hValue, rfl⟩
    dsimp only at hValue hLeast
    have hb := hBits b
    have hc := hBits c
    have hd := hBits d
    rw [encodeChar_four (by omega) (by omega) (by omega),
      hNumber, ofNat_of_eq (b := a) (by omega),
      ofNat_of_payload hB (by omega),
      ofNat_of_payload hC (by omega),
      ofNat_of_payload hD (by omega)]
    rfl
  · cases hForm

/- A value is put in front if it needs its form. -/
theorem prepend_eq_some
    {least : Nat}
    {rest : Option (List Nat)}
    {l : List Nat} :
    prepend least n rest = some l ↔
      (least ≤ n ∧ IsScalar n) ∧
        ∃ l', rest = some l' ∧ n :: l' = l := by
  unfold prepend
  split
  case isTrue hNeeds =>
    rw [Option.map_eq_some_iff, and_iff_right hNeeds]
  case isFalse hNot =>
    constructor
    · exact nofun
    · exact fun hNeeds => absurd hNeeds.1 hNot

/- What can be read is the encoding of what is read. -/
theorem encode_of_decode
    {l : List Nat}
    (hReads : decode t = some l) :
    encode (l.map Char.ofNat) = t := by
  induction hLength : t.length using Nat.strongRecOn
    generalizing t l with
  | ind k ih =>
      rcases t with _ | ⟨a, r⟩
      · cases hReads
        rfl
      subst hLength
      by_cases hAscii : a < 0x80
      · rw [decode_ascii hAscii, prepend_eq_some] at hReads
        rcases hReads with ⟨⟨_, hScalar⟩, l', hRest, rfl⟩
        have hSmall : a.toNat < 0x80 :=
          UInt8.lt_iff_toNat_lt.mp hAscii
        have hNumber := toNat_ofNat hScalar
        rw [List.map_cons, encode_cons,
          encodeChar_one (by omega), hNumber,
          ofNat_of_eq (b := a) rfl,
          ih r.length (Nat.lt_succ_self _) hRest rfl]
        rfl
      · rw [decode_sequence hAscii] at hReads
        rcases Option.bind_eq_some_iff.mp hReads with
          ⟨f, hForm, hReads⟩
        rcases Option.bind_eq_some_iff.mp hReads with
          ⟨⟨n, r'⟩, hFollows, hReads⟩
        rcases prepend_eq_some.mp hReads with
          ⟨⟨hLeast, hScalar⟩, l', hRest, rfl⟩
        have hShorter : r'.length < r.length + 1 := by
          rw [follow_rest hFollows, List.length_drop]
          omega
        rw [List.map_cons, encode_cons,
          ih r'.length hShorter hRest rfl]
        exact encodeChar_of_form hForm hFollows hLeast hScalar

------------------------------------------------------------
-- Scanning
------------------------------------------------------------

/- What the scan makes of a text that was read or not. -/
def Verdict.ofRead : Option (List Nat) → Verdict
  | some _ => .wellFormed
  | none => .malformed

/- A value in front does not change what the scan makes. -/
theorem ofRead_prepend
    (least n : Nat)
    (rest : Option (List Nat)) :
    Verdict.ofRead (prepend least n rest) =
      if least ≤ n ∧ IsScalar n then Verdict.ofRead rest
      else .malformed := by
  unfold prepend
  split
  case isTrue => cases rest <;> rfl
  case isFalse => rfl

/-
  Reading by indices is reading from the front of what is
  left, as long as the bytes are there.
-/
theorem continued_eq
    (hPresent : i + n ≤ t.length) :
    continued t n i v =
      match follow n v (t.drop i) with
      | some (value, _) => .ok value
      | none => .error .malformed := by
  induction n generalizing i v with
  | zero => rfl
  | succ n ih =>
      have hIndex : i < t.length := by omega
      rw [List.drop_eq_getElem_cons hIndex]
      unfold continued follow
      rw [List.getElem?_eq_getElem hIndex]
      dsimp only
      split
      case isTrue => exact ih (by omega)
      case isFalse => rfl

/-
  The scan from an index on tells whether what is left can be
  read.  In particular it never gets past the end.
-/
theorem scan_eq
    (t : Bytes)
    (i : Nat) :
    scan t i = .ofRead (decode (t.drop i)) := by
  induction hLeft : t.length - i using Nat.strongRecOn
    generalizing i with
  | ind k ih =>
      subst hLeft
      by_cases hIndex : i < t.length
      case neg =>
        rw [scan, if_neg hIndex,
          List.drop_eq_nil_of_le (Nat.le_of_not_lt hIndex)]
        rfl
      rw [scan, if_pos hIndex,
        List.drop_eq_getElem_cons hIndex,
        List.getElem?_eq_getElem hIndex]
      dsimp only
      by_cases hAscii : t[i] < 0x80
      · have hSmall : t[i].toNat < 0x80 :=
          UInt8.lt_iff_toNat_lt.mp hAscii
        rw [if_pos hAscii, decode_ascii hAscii, ofRead_prepend,
          if_pos ⟨Nat.zero_le _, .inl (by omega)⟩]
        exact ih _ (by omega) (i + 1) rfl
      · rw [if_neg hAscii, decode_sequence hAscii]
        cases hForm : form? t[i] with
        | none => rfl
        | some f =>
            rw [Option.bind_some]
            dsimp only
            by_cases hShort : t.length - i < f.more + 1
            · rw [if_pos hShort, follow_of_short]
              · rfl
              · rw [List.length_drop]
                omega
            · rw [if_neg hShort, continued_eq (by omega)]
              cases hFollows :
                  follow f.more f.lead (t.drop (i + 1)) with
              | none => rfl
              | some result =>
                  rcases result with ⟨n, r⟩
                  rw [Option.bind_some, ofRead_prepend,
                    follow_rest hFollows, List.drop_drop]
                  dsimp only
                  rw [ih _ (by omega) (i + 1 + f.more) rfl]

------------------------------------------------------------
-- Well-Formed Texts
------------------------------------------------------------

/- A text is well-formed if and only if it can be read. -/
theorem isValid_iff_decode :
    isValid t = true ↔ ∃ l, decode t = some l := by
  unfold isValid
  rw [scan_eq, List.drop_zero]
  cases decode t <;> simp [Verdict.ofRead]

/- No two lists of characters have the same encoding. -/
theorem encode_injective
    {l l' : List Char}
    (hSame : encode l = encode l') :
    l = l' := by
  have hRead := congrArg decode hSame
  rw [decode_encode, decode_encode, Option.some.injEq] at hRead
  exact (List.map_inj_right fun _ _ => Char.toNat_inj.mp).mp
    hRead

/-
  The scan reads no byte past the end of a text, and accepts
  exactly the encodings of characters, each of them that of
  one list of characters only.
-/
theorem isValid_iff_encoding (t : Bytes) :
    scan t 0 ≠ .overrun ∧
      (isValid t = true ↔ ∃ l : List Char, encode l = t) ∧
        ∀ l l' : List Char, encode l = t → encode l' = t →
          l = l' := by
  refine ⟨?_, ⟨?_, ?_⟩, ?_⟩
  · rw [scan_eq]
    cases decode (t.drop 0) <;> exact nofun
  · intro hValid
    rcases isValid_iff_decode.mp hValid with ⟨l, hReads⟩
    exact ⟨_, encode_of_decode hReads⟩
  · rintro ⟨l, rfl⟩
    exact isValid_iff_decode.mpr ⟨_, decode_encode l⟩
  · rintro l l' rfl hSame
    exact encode_injective hSame.symm

end Utf8

end SqliteAccess
