import ChatServer.Proofs.Wire.Spelling
import ChatServer.Wire.Message

/-! Messages lose nothing on the wire. Reading the fields of a message over some values lays it over
them: what it leaves out stays, and what it has replaces what was there. So a message that is
written is read back, with any foreign fields between its own, and two of them in a row are read as
the later one laid over the earlier.
-/

namespace ChatServer.Wire

-----------------------------------------------------------------------------------------
-- Laying over
-----------------------------------------------------------------------------------------

/-- A time over an earlier one. Each part of it that is not zero replaces the earlier one. -/
def Timestamp.overlay (earlier later : Timestamp) : Timestamp where
  seconds := if later.seconds = 0 then earlier.seconds else later.seconds
  nanos := if later.nanos = 0 then earlier.nanos else later.nanos

/-- A value over an earlier one. A text or a number that is not the default replaces it, and a time
lies over it part by part.
-/
def Kind.overlay : (kind : Kind) → kind.Value → kind.Value → kind.Value
  | text, earlier, later => if later = "" then earlier else later
  | number, earlier, later => if later = 0 then earlier else later
  | time, earlier, none => earlier
  | time, none, some later => some later
  | time, some earlier, some later => some (earlier.overlay later)

/-- A value in front of the values of further kinds. -/
def Values.cons {kind : Kind} {kinds : List Kind} (value : kind.Value) (values : Values kinds)
    : Values (kind :: kinds) :=
  (value, values)

/-- The values of a message over those of an earlier one. -/
def Values.overlay : (kinds : List Kind) → Values kinds → Values kinds → Values kinds
  | [], _, _ => ()
  | kind :: kinds, (earlier, earliers), (later, laters) =>
    (kind.overlay earlier later, Values.overlay kinds earliers laters)

theorem Timestamp.overlay_default (time : Timestamp) : Timestamp.overlay default time = time := by
  have zero : (default : Timestamp) = ⟨0, 0⟩ := rfl
  obtain ⟨seconds, nanos⟩ := time
  simp only [overlay, zero, mk.injEq]
  constructor
  · split <;> simp_all
  · split <;> simp_all

theorem Kind.overlay_default (kind : Kind) (value : kind.Value)
    : kind.overlay kind.default value = value := by
  cases kind with
  | text => by_cases empty : value = "" <;> simp [overlay, default, empty]
  | number => by_cases zero : value = 0 <;> simp [overlay, default, zero]
  | time => cases value <;> rfl

/-- Over the defaults a message is itself, by induction on its kinds. -/
theorem Values.overlay_default (kinds : List Kind) (values : Values kinds)
    : Values.overlay kinds (Values.default kinds) values = values := by
  induction kinds with
  | nil => rfl
  | cons kind kinds ih =>
      obtain ⟨value, values⟩ := values
      exact Prod.ext (kind.overlay_default value) (ih values)

-----------------------------------------------------------------------------------------
-- Values that fit
-----------------------------------------------------------------------------------------

/-- The size of a text has 64 bits. All other values fit anyway. -/
def Kind.Fits : (kind : Kind) → kind.Value → Prop
  | text, s => s.utf8ByteSize < UInt64.size
  | number, _ | time, _ => True

/-- All texts of a message fit. -/
def Values.Fit : (kinds : List Kind) → Values kinds → Prop
  | [], _ => True
  | kind :: kinds, (value, values) => kind.Fits value ∧ Values.Fit kinds values

instance : (kind : Kind) → DecidablePred kind.Fits
  | .text => fun s => inferInstanceAs (Decidable (s.utf8ByteSize < UInt64.size))
  | .number | .time => fun _ => .isTrue trivial

instance decidableFit : (kinds : List Kind) → DecidablePred (Values.Fit kinds)
  | [] => fun _ => .isTrue trivial
  | kind :: kinds => fun values =>
    have := decidableFit kinds values.2
    inferInstanceAs (Decidable (kind.Fits values.1 ∧ Values.Fit kinds values.2))

-----------------------------------------------------------------------------------------
-- The fields of a message
-----------------------------------------------------------------------------------------

/-- A number that is not left out is a field that can be written. -/
theorem of_mem_numberField {number n : Nat} (positive : 0 < number)
    (small : number ≤ greatestNumber) (fits : n < UInt64.size) {field : Field}
    (among : field ∈ numberField number n) : field.IsWritable ∧ field.number = number := by
  unfold numberField at among
  split at among
  next => cases among
  next =>
    obtain rfl := List.mem_singleton.mp among
    exact ⟨⟨positive, small, fits⟩, rfl⟩

/-- The fields of a time can be written. -/
theorem Timestamp.isWritable_fields (time : Timestamp)
    : ∀ field ∈ time.fields, field.IsWritable := by
  intro field among
  rcases List.mem_append.mp among with seconds | nanos
  · exact (of_mem_numberField (by decide) (by decide) (UInt64.toNat_lt _) seconds).1
  · exact (of_mem_numberField (by decide) (by decide) (UInt64.toNat_lt _) nanos).1

-----------------------------------------------------------------------------------------
-- Announced sizes
-----------------------------------------------------------------------------------------

theorem length_key {number form : Nat} (positive : 0 < number) (small : number ≤ greatestNumber)
    (known : form < 8) : (key number form).length = keySize number := by
  have fits : 8 * number < UInt64.size :=
    Nat.lt_trans (key_lt small (show 0 < 8 by decide)) (by decide)
  -- The form stands below the number, so the highest bit is where it is without it.
  have highest (low : Nat) (known : low < 8) : (8 * number + low).log2 = number.log2 + 3 := by
    have above : (8 * number + low) >>> 3 = number := by
      rw [Nat.shiftRight_eq_div_pow]
      omega
    have shifted := log2_shiftRight (show (8 * number + low) >>> 3 ≠ 0 by omega)
    rwa [above] at shifted
  have bare := highest 0 (by decide)
  rw [Nat.add_zero] at bare
  rw [key, length_varint_eq, keySize, varintSize_eq fits, log2_or_one (by omega),
    log2_or_one (by omega), highest form known, bare]

theorem length_writeFields_append (first second : List Field)
    : (writeFields (first ++ second)).length
      = (writeFields first).length + (writeFields second).length := by
  simp only [writeFields, List.flatMap_append, List.length_append]

theorem length_writeFields_numberField {number n : Nat} (positive : 0 < number)
    (small : number ≤ greatestNumber) (fits : n < UInt64.size)
    : (writeFields (numberField number n)).length = numberSize number n := by
  unfold numberField numberSize
  split
  next => rfl
  next =>
    simp only [writeFields, List.flatMap_cons, List.flatMap_nil, List.append_nil, Field.write,
      List.length_append, length_key positive small (show 0 < 8 by decide), length_varint fits]

theorem length_writeFields_bytes {number : Nat} (positive : 0 < number)
    (small : number ≤ greatestNumber) {content : List UInt8} (fits : content.length < UInt64.size)
    : (writeFields [⟨number, .bytes content⟩]).length = contentSize number content.length := by
  simp only [writeFields, List.flatMap_cons, List.flatMap_nil, List.append_nil, Field.write,
    List.length_append, length_key positive small (show 2 < 8 by decide), length_varint fits,
    contentSize]

/-- A time takes as many bytes as announced. -/
theorem Timestamp.length_writeFields (time : Timestamp)
    : (writeFields time.fields).length = time.size := by
  rw [fields, length_writeFields_append,
    length_writeFields_numberField (by decide) (by decide) (UInt64.toNat_lt _),
    length_writeFields_numberField (by decide) (by decide) (UInt64.toNat_lt _), size]

/-- That is few enough to be announced in turn. -/
theorem Timestamp.size_lt (time : Timestamp) : time.size < UInt64.size := by
  have part (number n : Nat) (positive : 0 < number) (small : number ≤ greatestNumber)
      (fits : n < UInt64.size) : numberSize number n ≤ 20 := by
    have keys : keySize number ≤ 10 :=
      varintSize_le (Nat.lt_trans (key_lt small (show 0 < 8 by decide)) (by decide))
    have value := varintSize_le fits
    unfold numberSize
    split <;> omega
  have seconds := part 1 time.seconds.toUInt64.toNat (by decide) (by decide) (UInt64.toNat_lt _)
  have nanos := part 2 time.nanos.toInt64.toUInt64.toNat (by decide) (by decide) (UInt64.toNat_lt _)
  refine Nat.lt_of_le_of_lt (Nat.add_le_add seconds nanos) ?_
  decide

/-- A value takes as many bytes as announced, by cases on its kind. -/
theorem Kind.length_writeFields {number : Nat} (positive : 0 < number)
    (small : number ≤ greatestNumber) {kind : Kind} {value : kind.Value} (fits : kind.Fits value)
    : (writeFields (kind.fields number value)).length = kind.size number value := by
  cases kind with
  | text =>
      simp only [fields, size]
      split
      next => rfl
      next => exact length_writeFields_bytes positive small fits
  | number =>
      exact length_writeFields_numberField positive small
        (Nat.lt_trans (UInt32.toNat_lt value) (by decide))
  | time =>
      cases value with
      | none => rfl
      | some time =>
          have length := time.length_writeFields
          simp only [fields, size]
          rw [length_writeFields_bytes positive small (length ▸ time.size_lt), length]

/-- Values that are numbered from a number on do so as well, by induction on their kinds. -/
theorem Values.length_writeFields {number : Nat} (positive : 0 < number) {kinds : List Kind}
    (few : number + kinds.length ≤ greatestNumber + 1) {values : Values kinds}
    (fit : Values.Fit kinds values)
    : (writeFields (Values.fieldsFrom number kinds values)).length
      = Values.sizeFrom number kinds values := by
  induction kinds generalizing number with
  | nil => rfl
  | cons kind kinds ih =>
      obtain ⟨value, values⟩ := values
      rw [List.length_cons] at few
      have small : number ≤ greatestNumber := by omega
      have fewer : number + 1 + kinds.length ≤ greatestNumber + 1 := by omega
      have first := Kind.length_writeFields positive small fit.1
      have rest := ih (Nat.succ_pos number) fewer fit.2
      simp only [fieldsFrom, sizeFrom, length_writeFields_append, first, rest]

-----------------------------------------------------------------------------------------
-- Reading over values
-----------------------------------------------------------------------------------------

/-- The number of a field is one that a message with values of these kinds defines. -/
def Defines (kinds : List Kind) (number : Nat) : Prop :=
  0 < number ∧ number ≤ kinds.length

instance (kinds : List Kind) : DecidablePred (Defines kinds) := fun number =>
  inferInstanceAs (Decidable (0 < number ∧ number ≤ kinds.length))

/-- The fields of values that are numbered from a number on can be written, and have numbers from
there on, by induction on the kinds.
-/
theorem Values.of_mem_fieldsFrom {number : Nat} (positive : 0 < number) {kinds : List Kind}
    (few : number + kinds.length ≤ greatestNumber + 1) {values : Values kinds}
    (fit : Values.Fit kinds values)
    : ∀ field ∈ Values.fieldsFrom number kinds values,
        field.IsWritable ∧ number ≤ field.number ∧ field.number < number + kinds.length := by
  induction kinds generalizing number with
  | nil => nofun
  | cons kind kinds ih =>
      obtain ⟨value, values⟩ := values
      rw [List.length_cons] at few ⊢
      have small : number ≤ greatestNumber := by omega
      intro field among
      rcases List.mem_append.mp among with first | later
      · have own : field.IsWritable ∧ field.number = number := by
          cases kind with
          | text =>
              simp only [Kind.fields] at first
              split at first
              next => cases first
              next =>
                obtain rfl := List.mem_singleton.mp first
                exact ⟨⟨positive, small, fit.1⟩, rfl⟩
          | number =>
              have fits : value.toNat < UInt64.size :=
                Nat.lt_trans (UInt32.toNat_lt value) (by decide)
              exact of_mem_numberField positive small fits first
          | time =>
              cases value with
              | none => cases first
              | some time =>
                  obtain rfl := List.mem_singleton.mp first
                  have size : (writeFields time.fields).length < UInt64.size :=
                    time.length_writeFields ▸ time.size_lt
                  exact ⟨⟨positive, small, size⟩, rfl⟩
        exact ⟨own.1, by omega, by omega⟩
      · obtain ⟨writable, atLeast, below⟩ := ih (by omega) (by omega) fit.2 field later
        exact ⟨writable, by omega, by omega⟩

/-- The parts of a time are read as they were written, the smaller one from more bits than it has.
-/
theorem read_seconds (seconds : Int64)
    : (UInt64.ofNat seconds.toUInt64.toNat).toInt64 = seconds := by
  rw [UInt64.ofNat_toNat]
  rfl

theorem read_nanos (nanos : Int32)
    : (UInt32.ofNat nanos.toInt64.toUInt64.toNat).toInt32 = nanos := by
  have truncated : (UInt32.ofNat nanos.toInt64.toUInt64.toNat).toInt32 = nanos.toInt64.toInt32 := by
    apply Int32.toBitVec_inj.mp
    change BitVec.setWidth 32 nanos.toInt64.toBitVec = BitVec.signExtend 32 nanos.toInt64.toBitVec
    exact (BitVec.signExtend_eq_setWidth_of_le _ (by decide)).symm
  rw [truncated, Int32.toInt32_toInt64]

/-- A part of a time is left out exactly if it is zero. -/
theorem seconds_eq_zero_iff (seconds : Int64) : seconds.toUInt64.toNat = 0 ↔ seconds = 0 := by
  constructor
  · intro nothing
    rw [← read_seconds seconds, nothing]
    rfl
  · rintro rfl
    rfl

theorem nanos_eq_zero_iff (nanos : Int32) : nanos.toInt64.toUInt64.toNat = 0 ↔ nanos = 0 := by
  constructor
  · intro nothing
    rw [← read_nanos nanos, nothing]
    rfl
  · rintro rfl
    rfl

/-- Reading the fields of a time over another one lays it over that. -/
theorem Timestamp.foldlM_merge (earlier later : Timestamp)
    : later.fields.foldlM Timestamp.merge earlier = some (earlier.overlay later) := by
  have seconds (time : Timestamp)
      : (numberField 1 later.seconds.toUInt64.toNat).foldlM Timestamp.merge time
        = some { time with
            seconds := if later.seconds = 0 then time.seconds else later.seconds } := by
    simp only [numberField, seconds_eq_zero_iff]
    split
    next => rfl
    next => simp only [List.foldlM_cons, merge, read_seconds, Option.bind_eq_bind,
      Option.bind_some, List.foldlM_nil, Option.pure_def]
  have nanos (time : Timestamp)
      : (numberField 2 later.nanos.toInt64.toUInt64.toNat).foldlM Timestamp.merge time
        = some { time with nanos := if later.nanos = 0 then time.nanos else later.nanos } := by
    simp only [numberField, nanos_eq_zero_iff]
    split
    next => rfl
    next => simp only [List.foldlM_cons, merge, read_nanos, Option.bind_eq_bind,
      Option.bind_some, List.foldlM_nil, Option.pure_def]
  rw [fields, List.foldlM_append, seconds, Option.bind_eq_bind, Option.bind_some, nanos]
  rfl

section

variable {number : Nat} {kind : Kind} {kinds : List Kind}

theorem Values.exists_cons (values : Values (kind :: kinds))
    : ∃ value rest, values = Values.cons value rest :=
  ⟨values.1, values.2, rfl⟩

/-- A field belongs to the first value if it has its number, and else to the others. -/
theorem Values.mergeFrom_cons (value : kind.Value) (values : Values kinds) (field : Field)
    : Values.mergeFrom number (kind :: kinds) (cons value values) field
      = if field.number = number then (kind.merge value field.payload).map (cons · values)
        else (Values.mergeFrom (number + 1) kinds values field).map (cons value ·) :=
  rfl

/-- Reading the field of a value over the values of a message lays it over the first of them, by
cases on its kind.
-/
theorem Kind.foldlM_mergeFrom (earlier later : kind.Value) (values : Values kinds)
    : (kind.fields number later).foldlM (Values.mergeFrom number (kind :: kinds))
        (Values.cons earlier values)
      = some (Values.cons (kind.overlay earlier later) values) := by
  have one {payload : Payload} {merged : kind.Value} (h : kind.merge earlier payload = some merged)
      : [Field.mk number payload].foldlM (Values.mergeFrom number (kind :: kinds))
          (Values.cons earlier values) = some (Values.cons merged values) := by
    simp [Values.mergeFrom_cons, h]
  cases kind with
  | text =>
      simp only [fields, overlay]
      split
      next => rfl
      next => exact one (Text.ofUtf8?_utf8 later)
  | number =>
      have zero : later.toNat = 0 ↔ later = 0 := UInt32.toNat_inj (b := 0)
      simp only [fields, overlay, numberField, zero]
      split
      next => rfl
      next => exact one (congrArg some (UInt32.ofNat_toNat))
  | time =>
      cases later with
      | none => cases earlier <;> rfl
      | some later =>
          have inner := (spellsAll_writeFields later.isWritable_fields).readFields innerGroupLimit
          have merged : Kind.merge .time earlier (.bytes (writeFields later.fields))
              = some (some ((earlier.getD Inhabited.default).overlay later)) := by
            simp [merge, inner, Timestamp.foldlM_merge]
          have laid : Kind.overlay .time earlier (some later)
              = some ((earlier.getD Inhabited.default).overlay later) := by
            cases earlier with
            | none => exact congrArg some later.overlay_default.symm
            | some earlier => rfl
          rw [laid]
          exact one merged

/-- Fields with greater numbers pass the first value by, by induction on the fields. -/
theorem Values.foldlM_behind {fields : List Field}
    (behind : ∀ field ∈ fields, number < field.number) (value : kind.Value) (values : Values kinds)
    : fields.foldlM (Values.mergeFrom number (kind :: kinds)) (cons value values)
      = (fields.foldlM (Values.mergeFrom (number + 1) kinds) values).map (cons value ·) := by
  induction fields generalizing values with
  | nil => rfl
  | cons field rest ih =>
      obtain ⟨first, later⟩ := List.forall_mem_cons.mp behind
      have differ : field.number ≠ number := Nat.ne_of_gt first
      rw [List.foldlM_cons, List.foldlM_cons, mergeFrom_cons, if_neg differ]
      cases Values.mergeFrom (number + 1) kinds values field with
      | none => rfl
      | some merged => exact ih later merged

/-- Reading the fields of a message over some values lays it over them, by induction on the kinds.
-/
theorem Values.foldlM_mergeFrom (positive : 0 < number)
    (few : number + kinds.length ≤ greatestNumber + 1) (earlier : Values kinds)
    {later : Values kinds} (fit : Values.Fit kinds later)
    : (Values.fieldsFrom number kinds later).foldlM (Values.mergeFrom number kinds) earlier
      = some (Values.overlay kinds earlier later) := by
  induction kinds generalizing number with
  | nil => rfl
  | cons kind kinds ih =>
      obtain ⟨value, values, rfl⟩ := earlier.exists_cons
      obtain ⟨later, laters, rfl⟩ := later.exists_cons
      rw [List.length_cons] at few
      have fewer : number + 1 + kinds.length ≤ greatestNumber + 1 := by omega
      have behind : ∀ field ∈ Values.fieldsFrom (number + 1) kinds laters, number < field.number :=
        fun field among => (of_mem_fieldsFrom (Nat.succ_pos number) fewer fit.2 field among).2.1
      have rest := ih (Nat.succ_pos number) fewer values fit.2
      have parts : Values.fieldsFrom number (kind :: kinds) (cons later laters)
          = kind.fields number later ++ Values.fieldsFrom (number + 1) kinds laters := rfl
      rw [parts, List.foldlM_append, Kind.foldlM_mergeFrom, Option.bind_eq_bind,
        Option.bind_some, foldlM_behind behind, rest]
      rfl

/-- A field with another number than those of the values leaves them as they are, by induction on
their kinds.
-/
theorem Values.mergeFrom_foreign {field : Field}
    (foreign : field.number < number ∨ number + kinds.length ≤ field.number)
    (values : Values kinds)
    : Values.mergeFrom number kinds values field = some values := by
  induction kinds generalizing number with
  | nil => rfl
  | cons kind kinds ih =>
      obtain ⟨value, values, rfl⟩ := values.exists_cons
      rw [List.length_cons] at foreign
      rw [mergeFrom_cons, if_neg (by omega), ih (by omega)]
      rfl

end

-----------------------------------------------------------------------------------------
-- Foreign fields
-----------------------------------------------------------------------------------------

/-- Fields as they are written, with foreign ones before, between and after them: each of a number
that the message does not define, and in any spelling.
-/
inductive Mingled (kinds : List Kind) : List Field → List UInt8 → Prop where
  | none : Mingled kinds [] []
  | own {field : Field} {fields : List Field} {bytes : List UInt8}
    (rest : Mingled kinds fields bytes)
    : Mingled kinds (field :: fields) (field.write ++ bytes)
  | foreign {field : Field} {piece : List UInt8} {fields : List Field} {bytes : List UInt8}
    (spells : Spells piece field) (unknown : ¬ Defines kinds field.number)
    (rest : Mingled kinds fields bytes)
    : Mingled kinds fields (piece ++ bytes)

/-- Without foreign fields it is what is written. -/
theorem mingled_writeFields (kinds : List Kind) (fields : List Field)
    : Mingled kinds fields (writeFields fields) := by
  induction fields with
  | nil => exact .none
  | cons field rest ih => exact .own ih

/-- Reading a message with foreign fields comes to reading its own, by induction on what stands
there.
-/
theorem Mingled.readFields {kinds : List Kind} {fields : List Field} {bytes : List UInt8}
    (mingled : Mingled kinds fields bytes) (writable : ∀ field ∈ fields, field.IsWritable)
    : ∃ all, SpellsAll bytes all
        ∧ ∀ values, all.foldlM (Values.mergeFrom 1 kinds) values
          = fields.foldlM (Values.mergeFrom 1 kinds) values := by
  induction mingled with
  | none => exact ⟨[], .none, fun _ => rfl⟩
  | @own field fields bytes rest ih =>
      obtain ⟨first, later⟩ := List.forall_mem_cons.mp writable
      obtain ⟨all, spelled, same⟩ := ih later
      refine ⟨field :: all, .one first.spells spelled, fun values => ?_⟩
      simp only [List.foldlM_cons, same]
  | @foreign field piece fields bytes spells unknown rest ih =>
      obtain ⟨all, spelled, same⟩ := ih writable
      refine ⟨field :: all, .one spells spelled, fun values => ?_⟩
      have apart : field.number < 1 ∨ 1 + kinds.length ≤ field.number := by
        unfold Defines at unknown
        omega
      rw [List.foldlM_cons, Values.mergeFrom_foreign apart]
      exact same values

/-- A message with foreign fields is decoded by reading its own over the defaults. -/
theorem decode_mingled {kinds : List Kind} {fields : List Field} {bytes : List UInt8}
    (mingled : Mingled kinds fields bytes) (writable : ∀ field ∈ fields, field.IsWritable)
    : decode kinds bytes
      = fields.foldlM (Values.mergeFrom 1 kinds) (Values.default kinds) := by
  obtain ⟨all, spelled, same⟩ := mingled.readFields writable
  rw [decode, spelled.readFields groupLimit, Option.bind_eq_bind, Option.bind_some, same]

-----------------------------------------------------------------------------------------
-- Messages of the service
-----------------------------------------------------------------------------------------

/-- The codec loses nothing. A message of any type whose texts fit is decoded from what it is
encoded to, which has the announced size; it is decoded as well with any foreign fields before,
between and after its own; and two messages in a row are decoded as the second over the first.
-/
theorem codec_lossless (type : MessageType) {first second : Values type.kinds}
    (fits : Values.Fit type.kinds first) (alsoFits : Values.Fit type.kinds second)
    : decode type.kinds (encode type.kinds first) = some first
      ∧ (encode type.kinds first).length = encodedSize type.kinds first
      ∧ (∀ bytes, Mingled type.kinds (Values.fieldsFrom 1 type.kinds first) bytes →
          decode type.kinds bytes = some first)
      ∧ decode type.kinds (encode type.kinds first ++ encode type.kinds second)
        = some (Values.overlay type.kinds first second) := by
  have few : 1 + type.kinds.length ≤ greatestNumber + 1 := by cases type <;> decide
  have writable {values : Values type.kinds} (fit : Values.Fit type.kinds values)
      : ∀ field ∈ Values.fieldsFrom 1 type.kinds values, field.IsWritable :=
    fun field among => (Values.of_mem_fieldsFrom Nat.one_pos few fit field among).1
  have whole : ∀ bytes, Mingled type.kinds (Values.fieldsFrom 1 type.kinds first) bytes →
      decode type.kinds bytes = some first := by
    intro bytes mingled
    rw [decode_mingled mingled (writable fits), Values.foldlM_mergeFrom Nat.one_pos few _ fits,
      Values.overlay_default]
  refine ⟨whole _ (mingled_writeFields _ _), ?_, whole, ?_⟩
  · exact Values.length_writeFields Nat.one_pos few fits
  · have row : encode type.kinds first ++ encode type.kinds second
        = writeFields (Values.fieldsFrom 1 type.kinds first
          ++ Values.fieldsFrom 1 type.kinds second) := List.flatMap_append.symm
    have both := List.forall_mem_append.mpr ⟨writable fits, writable alsoFits⟩
    rw [row, decode_mingled (mingled_writeFields _ _) both, List.foldlM_append,
      Values.foldlM_mergeFrom Nat.one_pos few _ fits, Values.overlay_default, Option.bind_eq_bind,
      Option.bind_some, Values.foldlM_mergeFrom Nat.one_pos few _ alsoFits]

/-- A message with a time before 1970, behind a foreign number in more groups than it needs, and a
second one with another text and other nanoseconds.
-/
theorem codec_lossless_of_corrected_text
    : let kinds := MessageType.chatStreamResponse.kinds
      let first : Values kinds := ("m", "a@x", "hi", some ⟨-1, -5⟩, ())
      let second : Values kinds := ("", "", "ho", some ⟨0, 7⟩, ())
      let foreign : List UInt8 := [0xB0, 0x00] ++ [0x80, 0x00]
      Values.Fit kinds first ∧ Values.Fit kinds second
        ∧ Mingled kinds (Values.fieldsFrom 1 kinds first) (foreign ++ encode kinds first)
        ∧ decode kinds (foreign ++ encode kinds first) = some first
        ∧ (encode kinds first).length = 36
        ∧ decode kinds (encode kinds first ++ encode kinds second)
          = some ("m", "a@x", "ho", some ⟨-1, 7⟩, ()) := by
  intro kinds first second foreign
  have fits : Values.Fit kinds first := @of_decide_eq_true _ (decidableFit kinds first) rfl
  have alsoFits : Values.Fit kinds second := @of_decide_eq_true _ (decidableFit kinds second) rfl
  have key : SpellsKey [0xB0, 0x00] 6 0 :=
    ⟨⟨.more (by decide) (.last (by decide)), by decide, by decide⟩, by decide, by decide, by decide⟩
  have value : SpellsNumber [0x80, 0x00] 0 :=
    ⟨.more (by decide) (.last (by decide)), by decide, by decide⟩
  have mingled : Mingled kinds (Values.fieldsFrom 1 kinds first) (foreign ++ encode kinds first) :=
    .foreign (.varint key value) (by decide) (mingled_writeFields _ _)
  obtain ⟨_, size, whole, row⟩ := codec_lossless .chatStreamResponse fits alsoFits
  exact ⟨fits, alsoFits, mingled, whole _ mingled, size.trans (by decide +kernel), row⟩

end ChatServer.Wire
