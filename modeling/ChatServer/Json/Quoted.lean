import ChatServer.Text.Utf8
import ChatServer.Text.Hexadecimal

/-!
Strings as JSON writes them. Between the quotes stands the body, in which quotes, backslashes
and controls are escaped. Writing escapes only what has to be; reading takes every escape, and
puts a pair of surrogates together to the one character they stand for.
-/

namespace ChatServer.Json

def quote : UInt8 := 0x22

def backslash : UInt8 := 0x5C

/-! ## Writing -/

/-- The letter of the short escape of a byte, for one that has a short escape and must be
escaped. -/
def shortEscape? (b : UInt8) : Option UInt8 :=
  if b = quote then some quote
  else if b = backslash then some backslash
  else if b = 0x08 then some 0x62
  else if b = 0x0C then some 0x66
  else if b = 0x0A then some 0x6E
  else if b = 0x0D then some 0x72
  else if b = 0x09 then some 0x74
  else none

/-- A byte as it stands in a body. Bytes of longer characters stand for themselves. -/
def escapeByte (b : UInt8) : List UInt8 :=
  match shortEscape? b with
  | some letter => [backslash, letter]
  | none =>
    if b < 0x20 then
      [backslash, 0x75, 0x30, 0x30, Text.hexByte (b.toNat / 16), Text.hexByte (b.toNat % 16)]
    else
      [b]

/-- The body of a string. -/
def escape (bytes : List UInt8) : List UInt8 :=
  bytes.flatMap escapeByte

def string (s : String) : List UInt8 :=
  quote :: escape (Text.utf8 s) ++ [quote]

/-! ## Reading -/

/-- What a letter after a backslash stands for. -/
def unescapeLetter? (letter : UInt8) : Option UInt8 :=
  if letter = quote then some quote
  else if letter = backslash then some backslash
  else if letter = 0x2F then some 0x2F
  else if letter = 0x62 then some 0x08
  else if letter = 0x66 then some 0x0C
  else if letter = 0x6E then some 0x0A
  else if letter = 0x72 then some 0x0D
  else if letter = 0x74 then some 0x09
  else none

/-- The number that four hexadecimal digits stand for. -/
def hexFour? (a b c d : UInt8) : Option Nat := do
  let a ← Text.hexValue? a
  let b ← Text.hexValue? b
  let c ← Text.hexValue? c
  let d ← Text.hexValue? d
  return ((16 * a + b) * 16 + c) * 16 + d

/-- Cuts a body off the bytes after the opening quote: the body, and what follows its closing
quote. The escapes of a body have one of the written forms, and it has no bare controls. -/
def readBody : List UInt8 → Option (List UInt8 × List UInt8)
  | [] => none
  | b :: rest =>
    if b = quote then some ([], rest)
    else if b = backslash then
      match rest with
      | letter :: rest =>
        if letter = 0x75 then
          match rest with
          | a :: b' :: c :: d :: rest =>
            if (hexFour? a b' c d).isSome then
              (readBody rest).map fun (body, rest) =>
                (backslash :: letter :: a :: b' :: c :: d :: body, rest)
            else
              none
          | _ => none
        else if (unescapeLetter? letter).isSome then
          (readBody rest).map fun (body, rest) => (backslash :: letter :: body, rest)
        else
          none
      | [] => none
    else if b < 0x20 then none
    else (readBody rest).map fun (body, rest) => (b :: body, rest)

def isHighSurrogate (n : Nat) : Bool :=
  0xD800 ≤ n && n ≤ 0xDBFF

def isLowSurrogate (n : Nat) : Bool :=
  0xDC00 ≤ n && n ≤ 0xDFFF

/-- The bytes of the character with a code point. -/
def codePoint (n : Nat) : List UInt8 :=
  Text.utf8 (String.singleton (Char.ofNat n))

/-- The bytes that a body stands for. A surrogate on its own stands for nothing. -/
def unescape : List UInt8 → Option (List UInt8)
  | [] => some []
  | b :: rest =>
    if b = backslash then
      match rest with
      | letter :: rest =>
        if letter = 0x75 then
          match rest with
          | a :: b' :: c :: d :: rest =>
            match hexFour? a b' c d with
            | none => none
            | some n =>
              if isLowSurrogate n then none
              else if isHighSurrogate n then
                match rest with
                | bar :: u :: e :: f :: g :: h :: rest =>
                  match hexFour? e f g h with
                  | none => none
                  | some low =>
                    if bar = backslash ∧ u = 0x75 ∧ isLowSurrogate low = true then
                      (unescape rest).map
                        (codePoint (0x10000 + (n - 0xD800) * 0x400 + (low - 0xDC00)) ++ ·)
                    else
                      none
                | _ => none
              else
                (unescape rest).map (codePoint n ++ ·)
          | _ => none
        else
          match unescapeLetter? letter with
          | some c => (unescape rest).map (c :: ·)
          | none => none
      | [] => none
    else
      (unescape rest).map (b :: ·)

/-- The text that a body stands for, if it stands for one. -/
def text? (body : List UInt8) : Option String :=
  (unescape body).bind Text.ofUtf8?

/-! ## Reading what was written -/

/-- The number that an escaped control is written with is its own. -/
theorem hexFour?_control {b : UInt8}
    : hexFour? 0x30 0x30 (Text.hexByte (b.toNat / 16)) (Text.hexByte (b.toNat % 16))
      = some b.toNat := by
  have high := Text.hexValue?_hexByte (n := b.toNat / 16) (by have := b.toNat_lt; omega)
  have low := Text.hexValue?_hexByte (n := b.toNat % 16) (by omega)
  have zero : Text.hexValue? 0x30 = some 0 := by decide
  simp only [hexFour?, zero, high, low, Option.bind_eq_bind, Option.bind_some,
    Option.pure_def, Option.some.injEq]
  omega

/-- A letter that is written after a backslash is read as the byte it is written for. -/
theorem unescapeLetter?_of_shortEscape? {b letter : UInt8} (h : shortEscape? b = some letter)
    : unescapeLetter? letter = some b ∧ letter ≠ 0x75 := by
  have all : ∀ b : UInt8, ∀ letter, shortEscape? b = some letter →
      unescapeLetter? letter = some b ∧ letter ≠ 0x75 := by
    intro b letter h
    unfold shortEscape? at h
    repeat' split at h
    all_goals first
      | (obtain rfl := Option.some.inj h; subst_vars; decide)
      | simp at h
  exact all b letter h

/-- A control stands for the one byte it is. -/
theorem codePoint_control {b : UInt8} (h : b < 0x20) : codePoint b.toNat = [b] := by
  have all : ∀ n : Fin 32, codePoint n = [UInt8.ofNat n] := by decide +kernel
  have small : b.toNat < 32 := by simpa [UInt8.lt_iff_toNat_lt] using h
  simpa using all ⟨b.toNat, small⟩

theorem backslash_ne_quote : backslash ≠ quote := by decide

/-- A closing quote ends a body. -/
theorem readBody_quote (rest : List UInt8) : readBody (quote :: rest) = some ([], rest) := by
  rw [readBody.eq_def]; simp

/-- The body of a written string ends at its closing quote. -/
theorem readBody_escape (bytes rest : List UInt8)
    : readBody (escape bytes ++ quote :: rest) = some (escape bytes, rest) := by
  induction bytes with
  | nil => exact readBody_quote rest
  | cons b bytes ih =>
    simp only [escape, List.flatMap_cons, List.append_assoc] at ih ⊢
    cases found : shortEscape? b with
    | some letter =>
      obtain ⟨read, other⟩ := unescapeLetter?_of_shortEscape? found
      simp only [escapeByte, found, List.cons_append, List.nil_append]
      rw [readBody.eq_def]
      simp [read, other, ih, backslash_ne_quote]
    | none =>
      by_cases small : b < 0x20
      · simp only [escapeByte, found, small, if_true, List.cons_append, List.nil_append]
        rw [readBody.eq_def]
        simp [hexFour?_control, ih, backslash_ne_quote]
      · have notQuote : b ≠ quote := by
          rintro rfl; simp [shortEscape?] at found
        have notBar : b ≠ backslash := by
          rintro rfl; simp [shortEscape?, backslash, quote] at found
        simp only [escapeByte, found, small, if_false, List.cons_append, List.nil_append]
        rw [readBody.eq_def]
        simp [notQuote, notBar, small, ih]

/-- The body of a written string stands for what was written. -/
theorem unescape_escape (bytes : List UInt8) : unescape (escape bytes) = some bytes := by
  induction bytes with
  | nil => rfl
  | cons b bytes ih =>
    simp only [escape, List.flatMap_cons] at ih ⊢
    cases found : shortEscape? b with
    | some letter =>
      obtain ⟨read, other⟩ := unescapeLetter?_of_shortEscape? found
      simp only [escapeByte, found, List.cons_append, List.nil_append]
      rw [unescape.eq_def]
      simp [read, other, ih, backslash]
    | none =>
      by_cases small : b < 0x20
      · have bound : b.toNat < 32 := by simpa [UInt8.lt_iff_toNat_lt] using small
        have notLow : isLowSurrogate b.toNat = false := by
          simp only [isLowSurrogate, Bool.and_eq_false_iff, decide_eq_false_iff_not]; omega
        have notHigh : isHighSurrogate b.toNat = false := by
          simp only [isHighSurrogate, Bool.and_eq_false_iff, decide_eq_false_iff_not]; omega
        simp only [escapeByte, found, small, if_true, List.cons_append, List.nil_append]
        rw [unescape.eq_def]
        simp [hexFour?_control, notLow, notHigh, ih, backslash, codePoint_control small]
      · have notBar : b ≠ backslash := by
          rintro rfl; simp [shortEscape?, backslash, quote] at found
        simp only [escapeByte, found, small, if_false, List.cons_append, List.nil_append]
        rw [unescape.eq_def]
        simp [notBar, ih]

/-- The body of a written string stands for its text. -/
theorem text?_escape (s : String) : text? (escape (Text.utf8 s)) = some s := by
  simp [text?, unescape_escape]

end ChatServer.Json
