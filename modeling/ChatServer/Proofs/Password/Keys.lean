import ChatServer.Proofs.Password.Rendering
import Mathlib.Data.Fintype.BigOperators
import Mathlib.Data.Fintype.Pigeonhole

/-! What of a password counts. The cipher takes in eighteen words, which are the first 72 bytes of
the password and of the zero byte behind it, repeated without end if they are fewer. So a password
can be told from another one, at best, by these; and as a digest has fewer bytes than that, not
always by them either.
-/

namespace ChatServer.Password

-----------------------------------------------------------------------------------------
-- Words and their bytes
-----------------------------------------------------------------------------------------

/-- A word gives back the four bytes of which it was made, bit by bit. -/
theorem bytesOf_word (a b c d : UInt8)
    : bytesOf (a.toUInt32 <<< 24 ||| b.toUInt32 <<< 16 ||| c.toUInt32 <<< 8 ||| d.toUInt32)
      = [a, b, c, d] := by
  simp only [bytesOf, List.cons.injEq, and_true]
  refine ⟨?_, ?_, ?_, ?_⟩ <;>
  · refine UInt8.toBitVec_inj.mp (BitVec.eq_of_getLsbD_eq fun i inside => ?_)
    simp (disch := omega) [BitVec.getLsbD_eq_getElem, decide_eq_true, decide_eq_false]

/-- The byte at a place of a list that is repeated without end. -/
def cyclicByte (bytes : List UInt8) (place : Nat) : UInt8 :=
  bytes.getD (place % bytes.length) 0

theorem wordAt_toArray (bytes : List UInt8) (start : Nat)
    : wordAt bytes.toArray start
      = (cyclicByte bytes start).toUInt32 <<< 24 ||| (cyclicByte bytes (start + 1)).toUInt32 <<< 16
        ||| (cyclicByte bytes (start + 2)).toUInt32 <<< 8
        ||| (cyclicByte bytes (start + 3)).toUInt32 := by
  simp [wordAt, cyclicByte, List.getD_eq_getElem?_getD]

/-- A word is known by its bytes. -/
theorem wordAt_eq_iff (first second : List UInt8) (start : Nat)
    : wordAt first.toArray start = wordAt second.toArray start
      ↔ ∀ i < 4, cyclicByte first (start + i) = cyclicByte second (start + i) := by
  rw [wordAt_toArray, wordAt_toArray]
  constructor
  · intro same i inside
    have bytes := congrArg bytesOf same
    rw [bytesOf_word, bytesOf_word] at bytes
    simp only [List.cons.injEq, and_true] at bytes
    obtain ⟨zeroth, one, two, three⟩ := bytes
    obtain rfl | rfl | rfl | rfl : i = 0 ∨ i = 1 ∨ i = 2 ∨ i = 3 := by omega
    · exact zeroth
    · exact one
    · exact two
    · exact three
  · intro same
    have zeroth : cyclicByte first start = cyclicByte second start := same 0 (by decide)
    rw [zeroth, same 1 (by decide), same 2 (by decide), same 3 (by decide)]

/-- Lists have the same words when their bytes agree as far as the words reach. -/
theorem wordsOf_eq_iff (n : Nat) (first second : List UInt8)
    : wordsOf n first = wordsOf n second
      ↔ ∀ place < 4 * n, cyclicByte first place = cyclicByte second place := by
  constructor
  · intro same place inside
    have word : (wordsOf n first)[place / 4] = (wordsOf n second)[place / 4] := by rw [same]
    simp only [wordsOf, Vector.getElem_ofFn] at word
    have byte := (wordAt_eq_iff ..).mp word (place % 4) (Nat.mod_lt _ (by decide))
    rwa [Nat.div_add_mod] at byte
  · intro same
    refine Vector.ext fun i inside => ?_
    simp only [wordsOf, Vector.getElem_ofFn]
    exact (wordAt_eq_iff ..).mpr fun j few => same _ (by omega)

-----------------------------------------------------------------------------------------
-- Keys
-----------------------------------------------------------------------------------------

/-- The words of a password that the cipher takes in. -/
def keyWords (password : List UInt8) : Vector UInt32 18 :=
  wordsOf 18 (keyBytes password)

/-- Passwords with the same words have the same digest. -/
theorem digest_of_keyWords_eq {first second : List UInt8} (same : keyWords first = keyWords second)
    (cost : Nat) (salt : List UInt8)
    : digest cost salt first = digest cost salt second := by
  rw [keyWords, keyWords] at same
  simp only [digest, same]

/-- The bytes that count are the first 72 of the password, and a zero byte if there are fewer. -/
theorem keyBytes_eq (password : List UInt8)
    : keyBytes password
      = password.take keySize ++ if (password.take keySize).length < keySize then [0] else [] := by
  rw [keyBytes, List.take_append, List.length_take]
  congr 1
  split
  next short => exact List.take_of_length_le (by simp; omega)
  next long => rw [show keySize - password.length = 0 by omega, List.take_zero]

theorem length_keyBytes (password : List UInt8)
    : (keyBytes password).length = min keySize (password.length + 1) := by
  rw [keyBytes, List.length_take, List.length_append, List.length_singleton]

/-- Passwords with the same first 72 bytes have the same words. -/
theorem keyWords_eq_of_take_eq {first second : List UInt8}
    (same : first.take keySize = second.take keySize)
    : keyWords first = keyWords second := by
  rw [keyWords, keyWords, keyBytes_eq, keyBytes_eq, same]

/-- The first 72 bytes of a password without zero bytes are those that count and are not zero. -/
theorem take_eq_filter_keyBytes {password : List UInt8} (nonzero : 0 ∉ password)
    : password.take keySize = (keyBytes password).filter (· ≠ 0) := by
  have all : ∀ b ∈ password.take keySize, decide (b ≠ 0) = true := fun b member =>
    decide_eq_true fun zero => nonzero (zero ▸ List.mem_of_mem_take member)
  rw [keyBytes_eq, List.filter_append, List.filter_eq_self.mpr all]
  split <;> simp

/-- Of two passwords without zero bytes and with the same words the one is not shorter in what
counts: its own zero byte would be found inside the other one.
-/
theorem length_keyBytes_le {first second : List UInt8} (nonzero : 0 ∉ second)
    (same : keyWords first = keyWords second)
    : (keyBytes second).length ≤ (keyBytes first).length := by
  by_contra shorter
  rw [length_keyBytes, length_keyBytes] at shorter
  have short : first.length < keySize := by omega
  have inside : first.length < second.length := by omega
  have byte := (wordsOf_eq_iff ..).mp same first.length short
  have zero : cyclicByte (keyBytes first) first.length = 0 := by
    rw [cyclicByte, length_keyBytes, Nat.mod_eq_of_lt (by omega), keyBytes]
    simp [short]
  have own : cyclicByte (keyBytes second) first.length = second[first.length] := by
    rw [cyclicByte, length_keyBytes, Nat.mod_eq_of_lt (by omega), keyBytes]
    simp [short, List.getElem?_append_left, inside]
  exact nonzero (zero ▸ byte ▸ own ▸ List.getElem_mem inside)

/-- Passwords without zero bytes have the same words only if they have the same first 72 bytes. -/
theorem keyWords_eq_iff_take_eq {first second : List UInt8} (nonzero : 0 ∉ first)
    (others : 0 ∉ second)
    : keyWords first = keyWords second ↔ first.take keySize = second.take keySize := by
  refine ⟨fun same => ?_, keyWords_eq_of_take_eq⟩
  have size : (keyBytes first).length = (keyBytes second).length :=
    le_antisymm (length_keyBytes_le nonzero same.symm) (length_keyBytes_le others same)
  have whole : keyBytes first = keyBytes second := by
    refine List.ext_getElem size fun i inside also => ?_
    have counts : i < keySize := (length_keyBytes first ▸ inside).trans_le (min_le_left ..)
    have byte := (wordsOf_eq_iff ..).mp same i counts
    simpa [cyclicByte, Nat.mod_eq_of_lt, inside, also] using byte
  rw [take_eq_filter_keyBytes nonzero, take_eq_filter_keyBytes others, whole]

-----------------------------------------------------------------------------------------
-- Digests
-----------------------------------------------------------------------------------------

/-- A password of 31 printable bytes, each one of 64. -/
def spelling (choice : Fin 31 → Fin 64) : List UInt8 :=
  List.ofFn fun i => UInt8.ofNat (48 + (choice i).val)

theorem spelling_injective : Function.Injective spelling := by
  intro first second same
  have each : ∀ a b : Fin 64, UInt8.ofNat (48 + a.val) = UInt8.ofNat (48 + b.val) → a = b := by
    decide +kernel
  have bytes := List.ofFn_injective same
  exact funext fun i => each _ _ (congrFun bytes i)

theorem range_of_mem_spelling {choice : Fin 31 → Fin 64} {b : UInt8} (member : b ∈ spelling choice)
    : 48 ≤ b ∧ b < 0x80 := by
  have each : ∀ a : Fin 64, 48 ≤ UInt8.ofNat (48 + a.val) ∧ UInt8.ofNat (48 + a.val) < 0x80 := by
    decide +kernel
  obtain ⟨i, rfl⟩ := (List.mem_ofFn ..).mp member
  exact each _

theorem keyWords_spelling_injective : Function.Injective (keyWords ∘ spelling) := by
  intro first second same
  have nonzero (choice : Fin 31 → Fin 64) : 0 ∉ spelling choice := fun member =>
    absurd (range_of_mem_spelling member).1 (by decide)
  have whole (choice : Fin 31 → Fin 64) : (spelling choice).take keySize = spelling choice :=
    List.take_of_length_le (by rw [spelling, List.length_ofFn]; decide)
  have taken := (keyWords_eq_iff_take_eq (nonzero first) (nonzero second)).mp same
  rw [whole, whole] at taken
  exact spelling_injective taken

/-- At every cost and with every salt there are two passwords of 31 printable characters whose words
differ and that have the same digest, as there are fewer digests than such passwords.
-/
theorem exists_same_digest (cost : Nat) (salt : List UInt8)
    : ∃ first second : Fin 31 → Fin 64, first ≠ second
        ∧ digest cost salt (spelling first) = digest cost salt (spelling second) := by
  let places (choice : Fin 31 → Fin 64) (i : Fin 23) : Fin (2 ^ 8) :=
    ((digest cost salt (spelling choice)).get (i.cast (length_digest _ _ _).symm)).toFin
  have fewer : Fintype.card (Fin 23 → Fin (2 ^ 8)) < Fintype.card (Fin 31 → Fin 64) := by
    simp only [Fintype.card_fun, Fintype.card_fin]
    decide
  obtain ⟨first, second, differ, same⟩ := Fintype.exists_ne_map_eq_of_card_lt places fewer
  refine ⟨first, second, differ, ?_⟩
  refine List.ext_getElem (by rw [length_digest, length_digest]) fun i inside _ => ?_
  rw [length_digest] at inside
  exact UInt8.toFin_inj.mp (congrFun same ⟨i, inside⟩)

-----------------------------------------------------------------------------------------
-- Comparisons
-----------------------------------------------------------------------------------------

/-- A password with the same words as another one matches the hash of that one. -/
theorem verify_of_keyWords_eq {cost : Nat} (new : isNewCost cost = true) {salt : List UInt8}
    (size : salt.length = saltSize) {password other : String}
    (same : keyWords (Text.utf8 other) = keyWords (Text.utf8 password))
    : ∃ text, hash cost salt password = .ok text ∧ verify other text = .ok true := by
  obtain ⟨text, hashed, compares⟩ := verify_hash new size password other
  rw [digest_of_keyWords_eq same, beq_self_eq_true] at compares
  exact ⟨text, hashed, compares⟩

/-- At every cost and with every salt there is a password of 31 characters whose hash is matched by
another one of 31 characters with other words.
-/
theorem exists_other_match {cost : Nat} (new : isNewCost cost = true) {salt : List UInt8}
    (size : salt.length = saltSize)
    : ∃ password other text, password.length = 31 ∧ other.length = 31
        ∧ keyWords (Text.utf8 other) ≠ keyWords (Text.utf8 password)
        ∧ hash cost salt password = .ok text ∧ verify other text = .ok true := by
  obtain ⟨first, second, differ, same⟩ := exists_same_digest cost salt
  let text (choice : Fin 31 → Fin 64) : String := Token.Broker.asciiText (spelling choice)
  have bytes (choice : Fin 31 → Fin 64) : Text.utf8 (text choice) = spelling choice :=
    Text.utf8_asciiText fun _ member => (range_of_mem_spelling member).2
  have length (choice : Fin 31 → Fin 64) : (text choice).length = 31 := by
    simp [text, Token.Broker.asciiText, spelling]
  obtain ⟨hashed, made, compares⟩ := verify_hash new size (text first) (text second)
  rw [bytes, bytes, same, beq_self_eq_true] at compares
  refine ⟨text first, text second, hashed, length _, length _, ?_, made, compares⟩
  rw [bytes, bytes]
  exact keyWords_spelling_injective.ne differ.symm

end ChatServer.Password
