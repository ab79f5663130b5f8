import ChatServer.Wire.Size
import Mathlib.Data.Nat.BinaryRec

/-! How bytes spell fields. A number may be spelled in more groups than it needs, so a field has
many spellings, of which writing chooses one. Each of them is read as the field that it spells,
whatever stands behind it, and a row of them as a row of fields.
-/

namespace ChatServer.Wire

-----------------------------------------------------------------------------------------
-- Sizes of numbers
-----------------------------------------------------------------------------------------

/-- Shifting a number moves its highest bit as far, by induction on the distance. -/
theorem log2_shiftRight {n distance : Nat} (left : n >>> distance ≠ 0)
    : n.log2 = (n >>> distance).log2 + distance := by
  induction distance with
  | zero => rfl
  | succ distance ih =>
      rw [Nat.shiftRight_succ, ← Nat.shiftRight_one] at left ⊢
      have before : n >>> distance ≠ 0 := by
        intro zero
        exact left (by rw [zero, Nat.zero_shiftRight])
      rw [ih before, Nat.log2_eq_succ_log2_shiftRight left]
      omega

/-- Setting the lowest bit of a positive number does not move the highest one. -/
theorem log2_or_one {n : Nat} (positive : 0 < n) : (n ||| 1).log2 = n.log2 := by
  have half : (n ||| 1) >>> 1 = n >>> 1 := by simp [Nat.shiftRight_one, Nat.or_div_two]
  by_cases one : n >>> 1 = 0
  · obtain rfl : n = 1 := by
      rw [Nat.shiftRight_one] at one
      omega
    rfl
  · rw [log2_shiftRight one, log2_shiftRight (half ▸ one), half]

/-- A number is written in as many groups of seven bits as it needs, by the recursion of writing. -/
theorem length_varint_eq (n : Nat) : (varint n).length = (n ||| 1).log2 / 7 + 1 := by
  fun_induction varint n with
  | case1 n small =>
      have few : (n ||| 1).log2 < 7 :=
        (Nat.log2_lt (by simp)).mpr (Nat.or_lt_two_pow (n := 7) small (by decide))
      rw [List.length_singleton]
      omega
  | case2 n large ih =>
      have group : n >>> 7 = n / 128 := Nat.shiftRight_eq_div_pow n 7
      have highest : n.log2 = (n / 128).log2 + 7 := group ▸ log2_shiftRight (by omega)
      rw [List.length_cons, ih, log2_or_one (by omega), log2_or_one (by omega), highest]
      omega

/-- A number of 64 bits takes as many bytes as are announced. -/
theorem length_varint {n : Nat} (h : n < UInt64.size) : (varint n).length = varintSize n := by
  rw [length_varint_eq, varintSize_eq h]

-----------------------------------------------------------------------------------------
-- Numbers
-----------------------------------------------------------------------------------------

/-- Bytes are the groups of a number: all but the last have their highest bit set. -/
inductive Groups : List UInt8 → Nat → Prop where
  | last {b : UInt8} (low : b.toNat < 128) : Groups [b] b.toNat
  | more {b : UInt8} {bytes : List UInt8} {n : Nat} (high : 128 ≤ b.toNat) (rest : Groups bytes n)
    : Groups (b :: bytes) (b.toNat - 128 + 128 * n)

/-- Bytes spell a number of 64 bits, in ten groups at most. -/
structure SpellsNumber (bytes : List UInt8) (n : Nat) : Prop where
  groups : Groups bytes n
  short : bytes.length ≤ 10
  fits : n < UInt64.size

theorem Groups.length_pos {bytes : List UInt8} {n : Nat} (groups : Groups bytes n)
    : 0 < bytes.length := by
  cases groups <;> simp

/-- What is written are the groups of the number, by the recursion of writing. -/
theorem groups_varint (n : Nat) : Groups (varint n) n := by
  fun_induction varint n with
  | case1 n small =>
      have value : (UInt8.ofNat n).toNat = n := by
        rw [UInt8.toNat_ofNat']; omega
      have last := Groups.last (b := UInt8.ofNat n) (by omega)
      rwa [value] at last
  | case2 n large ih =>
      have value : (UInt8.ofNat (128 + n % 128)).toNat = 128 + n % 128 := by
        rw [UInt8.toNat_ofNat']; omega
      have more := Groups.more (b := UInt8.ofNat (128 + n % 128)) (by omega) ih
      have sum : 128 + n % 128 - 128 + 128 * (n / 128) = n := by omega
      rwa [value, sum] at more

/-- Writing spells the number. -/
theorem spellsNumber_varint {n : Nat} (h : n < UInt64.size) : SpellsNumber (varint n) n where
  groups := groups_varint n
  short := length_varint h ▸ varintSize_le h
  fits := h

/-- Groups within the room are read as their number, by induction on the groups. -/
theorem Groups.readVarintWithin {bytes : List UInt8} {n : Nat} (groups : Groups bytes n)
    (rest : List UInt8) {room : Nat} (short : bytes.length ≤ room + 1)
    (fits : n < 1 <<< (7 * room + 1))
    : readVarintWithin (room + 1) (bytes ++ rest) = some (n, rest) := by
  induction groups generalizing room with
  | @last b low =>
      have bit : ¬(room = 0 ∧ 2 ≤ b.toNat) := by
        rintro ⟨rfl, two⟩
        omega
      simp only [List.singleton_append, Wire.readVarintWithin, if_neg bit, if_pos low]
  | @more b bytes n high groups ih =>
      have positive := groups.length_pos
      rw [List.length_cons] at short
      obtain ⟨room, rfl⟩ : ∃ less, room = less + 1 := ⟨room - 1, by omega⟩
      have wider : 1 <<< (7 * (room + 1) + 1) = 128 * 1 <<< (7 * room + 1) := by
        rw [Nat.one_shiftLeft, Nat.one_shiftLeft,
          show 7 * (room + 1) + 1 = 7 + (7 * room + 1) by omega, Nat.pow_add]
      have fewer : bytes.length ≤ room + 1 := by omega
      have smaller : n < 1 <<< (7 * room + 1) := by omega
      have more : ¬(room + 1 = 0 ∧ 2 ≤ b.toNat) := by omega
      have notLast : ¬b.toNat < 128 := by omega
      simp only [List.cons_append, Wire.readVarintWithin, if_neg more, if_neg notLast,
        ih fewer smaller, Option.map_some]

/-- Every spelling of a number is read as it. -/
theorem SpellsNumber.readVarint {bytes : List UInt8} {n : Nat} (spells : SpellsNumber bytes n)
    (rest : List UInt8)
    : readVarint (bytes ++ rest) = some (n, rest) :=
  spells.groups.readVarintWithin rest spells.short spells.fits

-----------------------------------------------------------------------------------------
-- Fields
-----------------------------------------------------------------------------------------

/-- Bytes spell the key of a field with a number and a form: the two in 32 bits, and the number not
zero.
-/
structure SpellsKey (bytes : List UInt8) (number form : Nat) : Prop where
  spells : SpellsNumber bytes (8 * number + form)
  known : form < 8
  positive : 0 < number
  small : 8 * number + form < UInt32.size

/-- Bytes spell a field that is not a group: a key, and a content of the form that it names. -/
inductive Spells : List UInt8 → Field → Prop where
  | varint {front content : List UInt8} {number n : Nat} (key : SpellsKey front number 0)
    (value : SpellsNumber content n)
    : Spells (front ++ content) ⟨number, .varint n⟩
  | fixed64 {front content : List UInt8} {number : Nat} (key : SpellsKey front number 1)
    (size : content.length = 8)
    : Spells (front ++ content) ⟨number, .fixed64 content⟩
  | bytes {front size content : List UInt8} {number : Nat} (key : SpellsKey front number 2)
    (announced : SpellsNumber size content.length)
    : Spells (front ++ size ++ content) ⟨number, .bytes content⟩
  | fixed32 {front content : List UInt8} {number : Nat} (key : SpellsKey front number 5)
    (size : content.length = 4)
    : Spells (front ++ content) ⟨number, .fixed32 content⟩

theorem SpellsKey.readKey {bytes : List UInt8} {number form : Nat}
    (spells : SpellsKey bytes number form) (rest : List UInt8)
    : readKey (bytes ++ rest) = some ((number, form), rest) := by
  have := spells.known
  have := spells.positive
  have whole : 8 * number + form < UInt32.size ∧ 8 ≤ 8 * number + form :=
    ⟨spells.small, by omega⟩
  have parts : (8 * number + form) / 8 = number ∧ (8 * number + form) % 8 = form := by omega
  simp only [Wire.readKey, spells.spells.readVarint rest, Option.bind_eq_bind, Option.bind_some,
    if_pos whole, parts]

theorem SpellsKey.length_pos {bytes : List UInt8} {number form : Nat}
    (spells : SpellsKey bytes number form) : 0 < bytes.length :=
  spells.spells.groups.length_pos

theorem split?_append (content rest : List UInt8)
    : split? content.length (content ++ rest) = some (content, rest) := by
  simp [split?]

/-- Every spelling of a field is read as it, by cases on the form. -/
theorem Spells.readField {bytes : List UInt8} {field : Field} (spells : Spells bytes field)
    (limit : Nat) (rest : List UInt8)
    : readField limit (bytes ++ rest) = some (field, rest) := by
  cases spells with
  | varint key value =>
      simp [Wire.readField, readPlain, key.readKey, value.readVarint]
  | @fixed64 front content number key size =>
      have cut := split?_append content rest
      rw [size] at cut
      simp [Wire.readField, readPlain, key.readKey, cut]
  | @bytes front size content number key announced =>
      simp [Wire.readField, readPlain, key.readKey, announced.readVarint, split?_append]
  | @fixed32 front content number key size =>
      have cut := split?_append content rest
      rw [size] at cut
      simp [Wire.readField, readPlain, key.readKey, cut]

theorem Spells.length_pos {bytes : List UInt8} {field : Field} (spells : Spells bytes field)
    : 0 < bytes.length := by
  cases spells with
  | varint key | fixed64 key | bytes key | fixed32 key =>
      have := key.length_pos
      simp only [List.length_append]
      omega

/-- Bytes spell a row of fields, one after the other. -/
inductive SpellsAll : List UInt8 → List Field → Prop where
  | none : SpellsAll [] []
  | one {piece bytes : List UInt8} {field : Field} {fields : List Field}
    (first : Spells piece field) (rest : SpellsAll bytes fields)
    : SpellsAll (piece ++ bytes) (field :: fields)

/-- Every spelling of a row is read as it if there is fuel for each byte, by induction on the row.
-/
theorem SpellsAll.readFieldsWithin {bytes : List UInt8} {fields : List Field}
    (spells : SpellsAll bytes fields) (limit : Nat) {fuel : Nat} (enough : bytes.length ≤ fuel)
    : readFieldsWithin limit fuel bytes = some fields := by
  induction spells generalizing fuel with
  | none => simp [Wire.readFieldsWithin]
  | @one piece bytes field fields first rest ih =>
      have positive := first.length_pos
      rw [List.length_append] at enough
      obtain ⟨less, rfl⟩ : ∃ less, fuel = less + 1 := ⟨fuel - 1, by omega⟩
      obtain ⟨b, tail, rfl⟩ := List.exists_cons_of_length_pos positive
      have head := first.readField limit bytes
      have left : bytes.length ≤ less := by omega
      rw [List.cons_append] at head ⊢
      simp [Wire.readFieldsWithin, head, ih left]

theorem SpellsAll.readFields {bytes : List UInt8} {fields : List Field}
    (spells : SpellsAll bytes fields) (limit : Nat)
    : readFields limit bytes = some fields :=
  spells.readFieldsWithin limit (Nat.le_refl _)

-----------------------------------------------------------------------------------------
-- Writing
-----------------------------------------------------------------------------------------

/-- A payload has a content of its form, and is not a group. -/
def Payload.IsWhole : Payload → Prop
  | varint n => n < UInt64.size
  | fixed64 content => content.length = 8
  | bytes content => content.length < UInt64.size
  | group => False
  | fixed32 content => content.length = 4

/-- The greatest number of a field, such that its key has 32 bits. -/
def greatestNumber : Nat := UInt32.size / 8 - 1

/-- A field can be written: it has a number that fits into its key, and a whole payload. -/
structure Field.IsWritable (field : Field) : Prop where
  positive : 0 < field.number
  small : field.number ≤ greatestNumber
  whole : field.payload.IsWhole

theorem key_lt {number form : Nat} (small : number ≤ greatestNumber) (known : form < 8)
    : 8 * number + form < UInt32.size := by
  change number ≤ 536870911 at small
  change _ < 4294967296
  omega

theorem spellsKey_key {number form : Nat} (positive : 0 < number) (small : number ≤ greatestNumber)
    (known : form < 8) : SpellsKey (key number form) number form := by
  have within := key_lt small known
  have fits : 8 * number + form < UInt64.size := Nat.lt_trans within (by decide)
  exact ⟨spellsNumber_varint fits, known, positive, within⟩

/-- Writing spells the field. -/
theorem Field.IsWritable.spells {field : Field} (h : field.IsWritable)
    : Spells field.write field := by
  obtain ⟨number, payload⟩ := field
  obtain ⟨positive, small, whole⟩ := h
  have front (form : Nat) (known : form < 8) : SpellsKey (key number form) number form :=
    spellsKey_key positive small known
  cases payload with
  | varint n => exact .varint (front 0 (by decide)) (spellsNumber_varint whole)
  | fixed64 content => exact .fixed64 (front 1 (by decide)) whole
  | bytes content => exact .bytes (front 2 (by decide)) (spellsNumber_varint whole)
  | group => exact whole.elim
  | fixed32 content => exact .fixed32 (front 5 (by decide)) whole

/-- Writing a row of fields spells it, by induction on the row. -/
theorem spellsAll_writeFields {fields : List Field}
    (writable : ∀ field ∈ fields, field.IsWritable) : SpellsAll (writeFields fields) fields := by
  induction fields with
  | nil => exact .none
  | cons field rest ih =>
      obtain ⟨first, later⟩ := List.forall_mem_cons.mp writable
      exact .one first.spells (ih later)

end ChatServer.Wire
