import ChatServer.Json.Numeral
import ChatServer.Json.Quoted

/-!
JSON values as they are written. A tree keeps strings as bodies and numbers as numerals, so a
reader can pass over a part that it does not need without asking whether that part stands for
a value. Parsing accepts the grammar.
-/

namespace ChatServer.Json

/-- A value as it is written. Members of an object keep their order, and a key may come twice. -/
inductive Tree where
  | null
  | bool (value : Bool)
  | number (numeral : Numeral)
  | string (body : List UInt8)
  | array (items : List Tree)
  | object (members : List (List UInt8 × Tree))

/-! ## Parsing -/

/-- The bytes between values: space, tab, line feed and carriage return. -/
def isBlank (b : UInt8) : Bool :=
  b == 0x20 || b == 0x09 || b == 0x0A || b == 0x0D

/-- The bytes after the blanks that they start with. -/
def skipBlanks (bytes : List UInt8) : List UInt8 :=
  bytes.dropWhile isBlank

def nullName : List UInt8 := [0x6E, 0x75, 0x6C, 0x6C]

def trueName : List UInt8 := [0x74, 0x72, 0x75, 0x65]

def falseName : List UInt8 := [0x66, 0x61, 0x6C, 0x73, 0x65]

/-- Reads a value that is no container, at the start of the bytes. -/
def readScalar (bytes : List UInt8) : Option (Tree × List UInt8) :=
  if let some rest := nullName.isPrefixOf? bytes then some (.null, rest)
  else if let some rest := trueName.isPrefixOf? bytes then some (.bool true, rest)
  else if let some rest := falseName.isPrefixOf? bytes then some (.bool false, rest)
  else (Numeral.read bytes).map fun (numeral, rest) => (.number numeral, rest)

/-- The bytes after blanks and one given byte. -/
def expect (b : UInt8) (bytes : List UInt8) : Option (List UInt8) :=
  match skipBlanks bytes with
  | first :: rest => if first = b then some rest else none
  | [] => none

mutual

/-- Reads a value after blanks, and gives what follows it. -/
def readValue : Nat → List UInt8 → Option (Tree × List UInt8)
  | 0, _ => none
  | fuel + 1, bytes =>
    match skipBlanks bytes with
    | [] => none
    | b :: rest =>
      if b = quote then
        (readBody rest).map fun (body, rest) => (.string body, rest)
      else if b = 0x5B then
        match expect 0x5D rest with
        | some rest => some (.array [], rest)
        | none => (readItems fuel rest).map fun (items, rest) => (.array items, rest)
      else if b = 0x7B then
        match expect 0x7D rest with
        | some rest => some (.object [], rest)
        | none => (readMembers fuel rest).map fun (members, rest) => (.object members, rest)
      else
        readScalar (b :: rest)

/-- Reads the items of an array up to its closing bracket. -/
def readItems : Nat → List UInt8 → Option (List Tree × List UInt8)
  | 0, _ => none
  | fuel + 1, bytes => do
    let (item, rest) ← readValue fuel bytes
    match expect 0x2C rest with
    | some rest =>
      let (items, rest) ← readItems fuel rest
      return (item :: items, rest)
    | none =>
      let rest ← expect 0x5D rest
      return ([item], rest)

/-- Reads the members of an object up to its closing brace. -/
def readMembers : Nat → List UInt8 → Option (List (List UInt8 × Tree) × List UInt8)
  | 0, _ => none
  | fuel + 1, bytes => do
    let rest ← expect quote bytes
    let (key, rest) ← readBody rest
    let rest ← expect 0x3A rest
    let (value, rest) ← readValue fuel rest
    match expect 0x2C rest with
    | some rest =>
      let (members, rest) ← readMembers fuel rest
      return ((key, value) :: members, rest)
    | none =>
      let rest ← expect 0x7D rest
      return ([(key, value)], rest)

end

/-- Reads one value and nothing else but blanks. No value is nested deeper than twice the number
of its bytes, so the reading never runs short. -/
def parse (bytes : List UInt8) : Option Tree := do
  let (tree, rest) ← readValue (2 * bytes.length + 2) bytes
  if (skipBlanks rest).isEmpty then some tree else none

/-! ## Values -/

namespace Tree

def string? : Tree → Option String
  | string body => text? body
  | _ => none

def int64? : Tree → Option Int
  | number numeral => numeral.int64?
  | _ => none

def strings? : Tree → Option (List String)
  | array items => items.mapM string?
  | _ => none

/-- The members of an object under the texts of their keys, if all keys are texts. -/
def members? : Tree → Option (List (String × Tree))
  | object members => members.mapM fun (key, value) => (text? key).map (·, value)
  | _ => none

end Tree

/-- The values of all members with a key. -/
def valuesOf (key : String) (members : List (String × Tree)) : List Tree :=
  (members.filter (·.1 == key)).map (·.2)

/-- The value of the last member with a key. -/
def last? (key : String) (members : List (String × Tree)) : Option Tree :=
  (valuesOf key members).getLast?

/-- Is there at most one member with the key? -/
def isUnique (key : String) (members : List (String × Tree)) : Bool :=
  (valuesOf key members).length ≤ 1

/-- The value of the only member with a key. -/
def only? (key : String) (members : List (String × Tree)) : Option Tree :=
  match valuesOf key members with
  | [value] => some value
  | _ => none

/-! ## Writing -/

/-- An object as it is written, from its keys and its written values. -/
def object (members : List (String × List UInt8)) : List UInt8 :=
  let written := members.map fun (key, value) => string key ++ 0x3A :: value
  0x7B :: (written.intersperse [0x2C]).flatten ++ [0x7D]

end ChatServer.Json
