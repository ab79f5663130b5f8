import ChatServer.Text.Utf8
import ChatServer.Wire.Field

/-!
Messages on the wire. A message is a list of values, whose kinds its type lays down and which
are numbered from one. Writing leaves out the values that are the default. Reading starts from
the defaults and merges one field after the other: later texts and numbers replace earlier ones,
times are merged part by part, and fields that the type does not know are passed over.
-/

namespace ChatServer.Wire

/-- A time in two parts. -/
structure Timestamp where
  seconds : Int64
  nanos : Int32
  deriving DecidableEq, Inhabited

/-- The kinds of values. -/
inductive Kind where
  | text | number | time
  deriving DecidableEq

/-- The values of a kind. A time may be missing. -/
abbrev Kind.Value : Kind → Type
  | text => String
  | number => UInt32
  | time => Option Timestamp

/-- The values of a message. -/
def Values : List Kind → Type
  | [] => Unit
  | kind :: kinds => kind.Value × Values kinds

def Kind.default : (kind : Kind) → kind.Value
  | text => ""
  | number => 0
  | time => none

/-- The values of a message without fields. -/
def Values.default : (kinds : List Kind) → Values kinds
  | [] => ()
  | kind :: kinds => (kind.default, Values.default kinds)

/-! ## Writing -/

/-- A field with a number that is left out when it is zero. -/
def numberField (number n : Nat) : List Field :=
  if n = 0 then [] else [⟨number, .varint n⟩]

def Timestamp.fields (time : Timestamp) : List Field :=
  numberField 1 time.seconds.toUInt64.toNat
    ++ numberField 2 time.nanos.toInt64.toUInt64.toNat

/-- Fields as they are written. -/
def writeFields (fields : List Field) : List UInt8 :=
  fields.flatMap Field.write

/-- The fields of a value with a number. -/
def Kind.fields (number : Nat) : (kind : Kind) → kind.Value → List Field
  | text, s => if s = "" then [] else [⟨number, .bytes (Text.utf8 s)⟩]
  | Kind.number, n => numberField number n.toNat
  | time, none => []
  | time, some value => [⟨number, .bytes (writeFields value.fields)⟩]

/-- The fields of values that are numbered from a number on. -/
def Values.fieldsFrom (number : Nat) : (kinds : List Kind) → Values kinds → List Field
  | [], _ => []
  | kind :: kinds, (value, values) =>
    kind.fields number value ++ Values.fieldsFrom (number + 1) kinds values

/-- A message as it is written. -/
def encode (kinds : List Kind) (values : Values kinds) : List UInt8 :=
  writeFields (Values.fieldsFrom 1 kinds values)

/-! ## Reading -/

/-- How deep groups in a message may be nested. -/
def groupLimit : Nat := 100

/-- How deep groups in a time inside a message may be nested. -/
def innerGroupLimit : Nat := 99

/-- Merges a field into a time. -/
def Timestamp.merge (time : Timestamp) (field : Field) : Option Timestamp :=
  match field.number, field.payload with
  | 1, .varint n => some { time with seconds := (UInt64.ofNat n).toInt64 }
  | 2, .varint n => some { time with nanos := (UInt32.ofNat n).toInt32 }
  | 1, _ | 2, _ => none
  | _, _ => some time

/-- Merges a payload into a value. -/
def Kind.merge : (kind : Kind) → kind.Value → Payload → Option kind.Value
  | text, _, .bytes content => Text.ofUtf8? content
  | number, _, .varint n => some (UInt32.ofNat n)
  | time, old, .bytes content => do
    let fields ← readFields innerGroupLimit content
    return some (← fields.foldlM Timestamp.merge (old.getD Inhabited.default))
  | _, _, _ => none

/-- Merges a field into values that are numbered from a number on. -/
def Values.mergeFrom (number : Nat)
    : (kinds : List Kind) → Values kinds → Field → Option (Values kinds)
  | [], values, _ => some values
  | kind :: kinds, (value, values), field =>
    if field.number = number then (kind.merge value field.payload).map (·, values)
    else (Values.mergeFrom (number + 1) kinds values field).map (value, ·)

/-- The message that bytes are, if they are one. -/
def decode (kinds : List Kind) (bytes : List UInt8) : Option (Values kinds) := do
  let fields ← readFields groupLimit bytes
  fields.foldlM (Values.mergeFrom 1 kinds) (Values.default kinds)

end ChatServer.Wire
