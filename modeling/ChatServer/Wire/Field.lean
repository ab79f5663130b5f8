import ChatServer.Wire.Varint

/-!
Fields on the wire. A field is a number and a payload, and the key in front of it says which
number and what form of payload. Groups, an old form, are read only to be passed over: their
content is skipped, as deep as groups may be nested.
-/

namespace ChatServer.Wire

/-- What a field carries. -/
inductive Payload where
  | varint (n : Nat)
  | fixed64 (bytes : List UInt8)
  | bytes (content : List UInt8)
  /-- A group whose content has been skipped. -/
  | group
  | fixed32 (bytes : List UInt8)
  deriving DecidableEq

/-- A number and what it carries. -/
structure Field where
  number : Nat
  payload : Payload
  deriving DecidableEq

/-! ## Writing -/

/-- The key in front of a payload of a form. -/
def key (number form : Nat) : List UInt8 :=
  varint (8 * number + form)

/-- A field as it is written; a group has no content left to write. -/
def Field.write (field : Field) : List UInt8 :=
  match field.payload with
  | .varint n => key field.number 0 ++ Wire.varint n
  | .fixed64 content => key field.number 1 ++ content
  | .bytes content => key field.number 2 ++ Wire.varint content.length ++ content
  | .group => key field.number 3 ++ key field.number 4
  | .fixed32 content => key field.number 5 ++ content

/-! ## Reading -/

/-- Reads a key: the number of the field and the form of its payload. -/
def readKey (bytes : List UInt8) : Option ((Nat × Nat) × List UInt8) := do
  let (key, rest) ← readVarint bytes
  if key < UInt32.size ∧ 8 ≤ key then some ((key / 8, key % 8), rest) else none

/-- The first bytes and the rest, if there are so many. -/
def split? (n : Nat) (bytes : List UInt8) : Option (List UInt8 × List UInt8) :=
  if n ≤ bytes.length then some (bytes.take n, bytes.drop n) else none

/-- Reads a payload of a form other than a group. -/
def readPlain (form : Nat) (bytes : List UInt8) : Option (Payload × List UInt8) :=
  match form with
  | 0 => (readVarint bytes).map fun (n, rest) => (.varint n, rest)
  | 1 => (split? 8 bytes).map fun (content, rest) => (.fixed64 content, rest)
  | 2 => do
    let (size, rest) ← readVarint bytes
    let (content, rest) ← split? size rest
    return (.bytes content, rest)
  | 5 => (split? 4 bytes).map fun (content, rest) => (.fixed32 content, rest)
  | _ => none

/-- Skips the content of open groups up to the end of the outermost. The fields inside must not
lie in `limit` groups or more. Each step uses up a byte at least. -/
def skipGroups (limit : Nat) : Nat → List Nat → List UInt8 → Option (List UInt8)
  | _, [], bytes => some bytes
  | 0, _ :: _, _ => none
  | fuel + 1, number :: outer, bytes => do
    let ((inner, form), rest) ← readKey bytes
    if form = 4 then
      if inner = number then skipGroups limit fuel outer rest else none
    else if limit ≤ outer.length + 1 then none
    else if form = 3 then skipGroups limit fuel (inner :: number :: outer) rest
    else
      let (_, rest) ← readPlain form rest
      skipGroups limit fuel (number :: outer) rest

/-- Reads a field. -/
def readField (limit : Nat) (bytes : List UInt8) : Option (Field × List UInt8) := do
  let ((number, form), rest) ← readKey bytes
  if form = 3 then
    let rest ← skipGroups limit rest.length [number] rest
    return (⟨number, .group⟩, rest)
  else
    let (payload, rest) ← readPlain form rest
    return (⟨number, payload⟩, rest)

/-- Reads fields to the end. Each field uses up a byte at least. -/
def readFieldsWithin (limit : Nat) : Nat → List UInt8 → Option (List Field)
  | _, [] => some []
  | 0, _ :: _ => none
  | fuel + 1, bytes => do
    let (field, rest) ← readField limit bytes
    let fields ← readFieldsWithin limit fuel rest
    return field :: fields

/-- The fields that bytes are. -/
def readFields (limit : Nat) (bytes : List UInt8) : Option (List Field) :=
  readFieldsWithin limit bytes.length bytes

end ChatServer.Wire
