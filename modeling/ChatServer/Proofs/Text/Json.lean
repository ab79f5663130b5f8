import ChatServer.Json.Tree

/-! An object of texts and integers that is written is read as the object it was written from. A
value is followed by a comma or by the closing brace, and neither can be taken for a part of it.
-/

namespace ChatServer.Json

-----------------------------------------------------------------------------------------
-- Values inside an object
-----------------------------------------------------------------------------------------

/-- The byte can follow a value inside an object. -/
def EndsMember (b : UInt8) : Prop :=
  b = 0x2C ∨ b = 0x7D

/-- The bytes are read as the value, whatever follows it inside an object. -/
def IsWritten (written : List UInt8) (tree : Tree) : Prop :=
  ∀ fuel ending rest, EndsMember ending →
    readValue (fuel + 1) (written ++ ending :: rest) = some (tree, ending :: rest)

theorem skipBlanks_of_not {b : UInt8} (rest : List UInt8) (solid : isBlank b = false)
    : skipBlanks (b :: rest) = b :: rest :=
  List.dropWhile_cons_of_neg (by rw [solid]; exact Bool.false_ne_true)

/-- The tree of a text. -/
def Tree.ofText (s : String) : Tree :=
  .string (escape (Text.utf8 s))

@[simp] theorem Tree.string?_ofText (s : String) : (Tree.ofText s).string? = some s :=
  text?_escape s

/-- The bytes of a text that is written, with the closing quote in front of what follows. -/
theorem string_append (s : String) (rest : List UInt8)
    : string s ++ rest = quote :: (escape (Text.utf8 s) ++ quote :: rest) := by
  simp [string]

theorem string_isWritten (s : String) : IsWritten (string s) (.ofText s) := by
  intro fuel ending rest _
  rw [string_append, readValue, skipBlanks_of_not _ (by decide)]
  simp only [if_pos, readBody_escape, Option.map_some, Tree.ofText]

/-- Nothing gets shorter by being escaped. -/
theorem length_le_escape (bytes : List UInt8) : bytes.length ≤ (escape bytes).length := by
  have each (b : UInt8) : 1 ≤ (escapeByte b).length := by
    unfold escapeByte
    split
    next => exact Nat.le_add_left _ _
    next => split <;> exact Nat.le_add_left _ _
  induction bytes with
  | nil => exact Nat.le_refl _
  | cons b bytes ih =>
      have first := each b
      change bytes.length + 1 ≤ (escapeByte b ++ escape bytes).length
      rw [List.length_append]
      omega

-----------------------------------------------------------------------------------------
-- Integers
-----------------------------------------------------------------------------------------

theorem isDigit_digit {n : Nat} (small : n < 10) : isDigit (UInt8.ofNat (0x30 + n)) = true := by
  have all : ∀ n : Fin 10, isDigit (UInt8.ofNat (0x30 + n)) = true := by decide
  exact all ⟨n, small⟩

theorem isDigit_of_mem_digits {n : Nat} : ∀ b ∈ digits n, isDigit b = true := by
  induction n using digits.induct with
  | case1 n small =>
      rw [digits, if_pos small]
      simpa using isDigit_digit small
  | case2 n large ih =>
      rw [digits, if_neg large]
      intro b member
      rcases List.mem_append.mp member with front | last
      · exact ih b front
      · rw [List.mem_singleton.mp last]
        exact isDigit_digit (by omega)

/-- Written digits stand for the number. -/
theorem ofDigits_digits (n : Nat) : ofDigits (digits n) = n := by
  induction n using digits.induct with
  | case1 n small =>
      rw [digits, if_pos small]
      simp [ofDigits]
      omega
  | case2 n large ih =>
      rw [digits, if_neg large]
      simp only [ofDigits, List.foldl_append, List.foldl_cons, List.foldl_nil] at ih ⊢
      rw [ih]
      simp
      omega

/-- Written digits start with a zero only for the number zero. -/
theorem digits_eq_cons (n : Nat)
    : ∃ first rest, digits n = first :: rest ∧ isDigit first = true
        ∧ (n ≠ 0 → first ≠ 0x30) := by
  induction n using digits.induct with
  | case1 n small =>
      have nonzero : ∀ n : Fin 10, n.val ≠ 0 → UInt8.ofNat (0x30 + n) ≠ 0x30 := by decide
      rw [digits, if_pos small]
      exact ⟨_, [], rfl, isDigit_digit small, nonzero ⟨n, small⟩⟩
  | case2 n large ih =>
      obtain ⟨first, rest, front, digit, nonzero⟩ := ih
      rw [digits, if_neg large, front]
      exact ⟨first, _, rfl, digit, fun _ => nonzero (by omega)⟩

/-- No digit follows inside an object. -/
theorem EndsMember.not_isDigit {ending : UInt8} (ends : EndsMember ending)
    : isDigit ending = false := by
  rcases ends with rfl | rfl <;> decide

theorem digitsOf_digits (n : Nat) {ending : UInt8} (rest : List UInt8)
    (ends : EndsMember ending)
    : Numeral.digitsOf (digits n ++ ending :: rest) = some (digits n, ending :: rest) := by
  obtain ⟨first, more, shape, _⟩ := digits_eq_cons n
  have ended : isDigit ending ≠ true := by rw [ends.not_isDigit]; exact Bool.false_ne_true
  have run : (digits n ++ ending :: rest).takeWhile isDigit = digits n := by
    rw [List.takeWhile_append_of_pos isDigit_of_mem_digits, List.takeWhile_cons_of_neg ended,
      List.append_nil]
  have after : (digits n ++ ending :: rest).dropWhile isDigit = ending :: rest := by
    rw [List.dropWhile_append_of_pos isDigit_of_mem_digits, List.dropWhile_cons_of_neg ended]
  rw [Numeral.digitsOf, run, after, shape]
  rfl

theorem readWhole_digits (n : Nat) {ending : UInt8} (rest : List UInt8)
    (ends : EndsMember ending)
    : Numeral.readWhole (digits n ++ ending :: rest) = some (digits n, ending :: rest) := by
  have proper : (1 < (digits n).length && (digits n).head? == some 0x30) = false := by
    by_cases zero : n = 0
    · subst zero
      simp [digits]
    · obtain ⟨first, more, shape, _, nonzero⟩ := digits_eq_cons n
      rw [shape, List.head?_cons, Bool.and_eq_false_iff]
      exact .inr (by simpa using nonzero zero)
  simp only [Numeral.readWhole, digitsOf_digits n rest ends, Option.bind_eq_bind,
    Option.bind_some, gt_iff_lt, proper, Bool.false_eq_true, if_false]

/-- The numeral of an integer. -/
def Numeral.ofInt (i : Int) : Numeral :=
  { negative := i < 0, whole := digits i.natAbs }

theorem Numeral.read_integer (i : Int) {ending : UInt8} (rest : List UInt8)
    (ends : EndsMember ending)
    : Numeral.read (integer i ++ ending :: rest) = some (ofInt i, ending :: rest) := by
  have plain : Numeral.readFraction (ending :: rest) = some (none, ending :: rest)
      ∧ Numeral.readExponent (ending :: rest) = some (none, ending :: rest) := by
    rcases ends with rfl | rfl <;> exact ⟨rfl, rfl⟩
  obtain ⟨first, more, shape, digit, _⟩ := digits_eq_cons i.natAbs
  have unsigned : first ≠ 0x2D := by
    rintro rfl
    exact absurd digit (by decide)
  by_cases negative : i < 0
  · simp only [integer, if_pos negative, List.cons_append, Numeral.read, if_true]
    simp only [readWhole_digits _ rest ends, plain, Option.bind_eq_bind, Option.bind_some,
      Option.pure_def, ofInt, negative, decide_true]
  · have whole := readWhole_digits i.natAbs rest ends
    rw [shape, List.cons_append] at whole
    simp only [integer, if_neg negative, shape, List.cons_append, Numeral.read, if_neg unsigned]
    simp only [whole, plain, Option.bind_eq_bind, Option.bind_some, Option.pure_def, ofInt,
      negative, decide_false, shape]

/-- The numeral of an integer of 64 bits stands for it. -/
theorem Numeral.int64?_ofInt {i : Int} (low : Int64.minValue.toInt ≤ i)
    (high : i ≤ Int64.maxValue.toInt)
    : (ofInt i).int64? = some i := by
  have zero : (decide (i < 0) && i.natAbs == 0) = false := by
    rw [Bool.and_eq_false_iff, decide_eq_false_iff_not, beq_eq_false_iff_ne]
    omega
  have value : (if decide (i < 0) = true then -(i.natAbs : Int) else i.natAbs) = i := by
    split
    next negative => have := of_decide_eq_true negative; omega
    next positive => have := of_decide_eq_false (Bool.eq_false_iff.mpr positive); omega
  simp only [int64?, int?, ofInt, Option.isSome_none, Bool.or_self, Bool.false_eq_true, if_false,
    ofDigits_digits, zero, value, low, high, and_self, if_true]

/-- The tree of an integer. -/
def Tree.ofInt (i : Int) : Tree :=
  .number (.ofInt i)

theorem Tree.int64?_ofInt {i : Int} (low : Int64.minValue.toInt ≤ i)
    (high : i ≤ Int64.maxValue.toInt)
    : (Tree.ofInt i).int64? = some i :=
  Numeral.int64?_ofInt low high

/-- What an integer starts with starts no other value. -/
theorem startsNothingElse {b : UInt8} (start : isDigit b = true ∨ b = 0x2D)
    : isBlank b = false ∧ b ∉ [quote, 0x5B, 0x7B] ∧ b ∉ [0x6E, 0x74, 0x66] := by
  have all : ∀ n : Fin 256, isDigit (UInt8.ofNat n) = true ∨ UInt8.ofNat n = 0x2D →
      isBlank (UInt8.ofNat n) = false ∧ UInt8.ofNat n ∉ [quote, 0x5B, 0x7B]
        ∧ UInt8.ofNat n ∉ [0x6E, 0x74, 0x66] := by
    decide +kernel
  have known := all ⟨b.toNat, b.toNat_lt⟩
  simp only [UInt8.ofNat_toNat] at known
  exact known start

theorem isPrefixOf?_eq_none {first other : UInt8} {name rest : List UInt8}
    (different : first ≠ other)
    : (first :: name).isPrefixOf? (other :: rest) = none := by
  change (if first == other then name.isPrefixOf? rest else none) = none
  rw [if_neg (by simpa using different)]

theorem integer_isWritten (i : Int) : IsWritten (integer i) (.ofInt i) := by
  intro fuel ending rest ends
  obtain ⟨first, more, shape, start⟩ : ∃ first more, integer i = first :: more
      ∧ (isDigit first = true ∨ first = 0x2D) := by
    obtain ⟨first, more, shape, digit, _⟩ := digits_eq_cons i.natAbs
    unfold integer
    split
    next => exact ⟨_, _, rfl, .inr rfl⟩
    next => exact ⟨_, _, shape, .inl digit⟩
  have read := Numeral.read_integer i rest ends
  rw [shape, List.cons_append] at read ⊢
  obtain ⟨solid, noBegin, noName⟩ := startsNothingElse start
  simp only [List.mem_cons, List.not_mem_nil, or_false, not_or] at noBegin noName
  rw [readValue, skipBlanks_of_not _ solid]
  simp only [if_neg noBegin.1, if_neg noBegin.2.1, if_neg noBegin.2.2, readScalar, nullName,
    trueName, falseName, isPrefixOf?_eq_none (Ne.symm noName.1),
    isPrefixOf?_eq_none (Ne.symm noName.2.1), isPrefixOf?_eq_none (Ne.symm noName.2.2), read]
  rfl

-----------------------------------------------------------------------------------------
-- Objects
-----------------------------------------------------------------------------------------

/-- A member of an object with its value as it is written and as it is read. -/
structure Member where
  key : String
  written : List UInt8
  tree : Tree
  isWritten : IsWritten written tree

namespace Member

def ofText (key text : String) : Member :=
  ⟨key, string text, .ofText text, string_isWritten text⟩

def ofInt (key : String) (i : Int) : Member :=
  ⟨key, integer i, .ofInt i, integer_isWritten i⟩

/-- The members as they are written, with commas between them. -/
def writeAll (members : List Member) : List UInt8 :=
  ((members.map fun member => string member.key ++ 0x3A :: member.written).intersperse
    [0x2C]).flatten

/-- The members as they are read. -/
def readAll (members : List Member) : List (List UInt8 × Tree) :=
  members.map fun member => (escape (Text.utf8 member.key), member.tree)

theorem writeAll_cons_cons (member next : Member) (members : List Member)
    : writeAll (member :: next :: members)
      = string member.key ++ 0x3A :: (member.written ++ 0x2C :: writeAll (next :: members)) := by
  simp [writeAll]

theorem writeAll_singleton (member : Member)
    : writeAll [member] = string member.key ++ 0x3A :: member.written := by
  simp [writeAll]

/-- No member is written in less than two bytes. -/
theorem length_le_writeAll (members : List Member)
    : 2 * members.length ≤ (writeAll members).length := by
  induction members with
  | nil => exact Nat.zero_le _
  | cons member members ih =>
      cases members with
      | nil =>
          simp [writeAll_singleton, string]
          omega
      | cons next members =>
          rw [writeAll_cons_cons]
          simp [string] at ih ⊢
          omega

/-- One member is read, up to the byte that follows it. -/
theorem readMembers_step (member : Member) (fuel : Nat) {ending : UInt8} (rest : List UInt8)
    (ends : EndsMember ending)
    : readMembers (fuel + 2) (string member.key ++ 0x3A :: (member.written ++ ending :: rest))
      = match expect 0x2C (ending :: rest) with
        | some rest => (readMembers (fuel + 1) rest).map fun (members, rest) =>
            ((escape (Text.utf8 member.key), member.tree) :: members, rest)
        | none => (expect 0x7D (ending :: rest)).map fun rest =>
            ([(escape (Text.utf8 member.key), member.tree)], rest) := by
  have opening (rest : List UInt8) : expect quote (quote :: rest) = some rest := rfl
  have colon (rest : List UInt8) : expect 0x3A (0x3A :: rest) = some rest := rfl
  rw [string_append, readMembers]
  simp only [opening, readBody_escape, colon, member.isWritten fuel ending rest ends,
    Option.bind_eq_bind, Option.bind_some]
  cases expect 0x2C (ending :: rest) with
  | some rest =>
      dsimp only
      cases readMembers (fuel + 1) rest <;> rfl
  | none =>
      dsimp only
      cases expect 0x7D (ending :: rest) <;> rfl

theorem readMembers_writeAll (members : List Member) (nonempty : members ≠ []) (fuel : Nat)
    (enough : members.length < fuel) (rest : List UInt8)
    : readMembers fuel (writeAll members ++ 0x7D :: rest) = some (readAll members, rest) := by
  induction members generalizing fuel with
  | nil => exact absurd rfl nonempty
  | cons member members ih =>
      simp only [List.length_cons] at enough
      obtain ⟨fuel, rfl⟩ : ∃ less, fuel = less + 2 := ⟨fuel - 2, by omega⟩
      cases members with
      | nil =>
          rw [writeAll_singleton, List.append_assoc, List.cons_append,
            readMembers_step member fuel rest (.inr rfl)]
          rfl
      | cons next members =>
          rw [writeAll_cons_cons, List.append_assoc, List.cons_append, List.append_assoc,
            List.cons_append, readMembers_step member fuel _ (.inl rfl)]
          have more := ih (List.cons_ne_nil next members) (fuel + 1) (by omega)
          simp only [expect, skipBlanks_of_not (b := 0x2C) _ (by decide), if_true, more]
          rfl

end Member

/-- An object that is written is read as the object of the same members. -/
theorem parse_object (members : List Member)
    : parse (object (members.map fun member => (member.key, member.written)))
      = some (.object (Member.readAll members)) := by
  have written
      : object (members.map fun member => (member.key, member.written))
        = 0x7B :: (Member.writeAll members ++ [0x7D]) := by
    simp [object, Member.writeAll, Function.comp_def]
  cases members with
  | nil => rfl
  | cons member rest =>
      have enough := Member.length_le_writeAll (member :: rest)
      have read := Member.readMembers_writeAll (member :: rest) (List.cons_ne_nil _ _)
        (2 * (0x7B :: (Member.writeAll (member :: rest) ++ [0x7D])).length + 1)
        (by simp at enough ⊢; omega) []
      have notEmpty : expect 0x7D (Member.writeAll (member :: rest) ++ [0x7D]) = none := by
        obtain ⟨more, start⟩ : ∃ more, Member.writeAll (member :: rest) = quote :: more := by
          cases rest with
          | nil => exact ⟨_, by rw [Member.writeAll_singleton, string_append]⟩
          | cons next rest => exact ⟨_, by rw [Member.writeAll_cons_cons, string_append]⟩
        rw [start]
        rfl
      rw [written, parse, readValue, skipBlanks_of_not _ (by decide)]
      simp only [notEmpty, read]
      rfl

/-- The members of an object that was written, under the texts of their keys. -/
theorem members?_readAll (members : List Member)
    : (Tree.object (Member.readAll members)).members?
      = some (members.map fun member => (member.key, member.tree)) := by
  rw [Tree.members?, Member.readAll]
  induction members with
  | nil => rfl
  | cons member members ih =>
      simp only [List.map_cons, List.mapM_cons, ih, text?_escape]
      rfl

end ChatServer.Json
