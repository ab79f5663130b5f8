import ChatServer.Text.Hexadecimal
import ChatServer.Text.Utf8

/-!
Identifiers of users and messages: 128 bits. They are shown as 32 hexadecimal digits, written
in groups with hyphens in JSON, and read in four forms.
-/

namespace ChatServer

structure Uuid where
  bits : BitVec 128
  deriving DecidableEq, Inhabited

namespace Uuid

/-- The sizes of the groups of digits between hyphens. -/
def groups : List Nat := [8, 4, 4, 4, 12]

def digits (id : Uuid) : List Char :=
  (List.range 32).map fun i =>
    Char.ofNat (Text.hexByte ((id.bits.toNat >>> (4 * (31 - i))) % 16)).toNat

def simple (id : Uuid) : String :=
  .ofList id.digits

/-- The digits in groups with hyphens between them. -/
def hyphenate : List Nat → List Char → List Char
  | [], _ => []
  | [size], cs => cs.take size
  | size :: sizes, cs => cs.take size ++ '-' :: hyphenate sizes (cs.drop size)

/-- The identifier in groups. -/
def hyphenated (id : Uuid) : String :=
  .ofList (hyphenate groups id.digits)

/-- The identifier of 32 digits. -/
def ofDigits? (cs : List Char) : Option Uuid :=
  if cs.length = 32 then do
    let values ← cs.mapM fun c => if c.toNat < 128 then Text.hexValue? c.toUInt8 else none
    return ⟨BitVec.ofNat 128 (values.foldl (fun n v => 16 * n + v) 0)⟩
  else
    none

/-- The identifier of groups with hyphens at their places. -/
def ofHyphenated? (cs : List Char) : Option Uuid :=
  let bare := cs.filter (· ≠ '-')
  if hyphenate groups bare = cs then ofDigits? bare else none

/-- The text after a beginning that it must have, in small or capital letters of ASCII. -/
def after? (start : String) (cs : List Char) : Option (List Char) :=
  let size := start.toList.length
  if (cs.take size).map Char.toLower = start.toList then some (cs.drop size) else none

/-- The identifier of a text: digits alone, groups, groups in braces, or groups as a name. -/
def ofText? (text : String) : Option Uuid :=
  let cs := text.toList
  match after? "urn:uuid:" cs with
  | some rest => ofHyphenated? rest
  | none =>
    match after? "\x7b" cs with
    | some rest =>
      if rest.getLast? = some '\x7d' then ofHyphenated? rest.dropLast else none
    | none => if cs.length = 32 then ofDigits? cs else ofHyphenated? cs

end Uuid

end ChatServer
