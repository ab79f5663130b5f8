import ChatServer.Token.Algorithm
import ChatServer.Json.Passage
import ChatServer.Text.Split

/-!
Headers of tokens. A token is three parts between dots: a header, a payload and a signature.
The header is looked at before the signature is checked, to find the algorithm and the key. It
is read twice: leniently for the key, where the last of several members counts, and strictly,
where each known member comes once and has its type.
-/

namespace ChatServer.Token

def maxSize : Nat := 8192

def dot : UInt8 := 0x2E

structure Parts where
  header : List UInt8
  payload : List UInt8
  signature : List UInt8

/-- What the signature of a token is over: the first two parts with the dot between them. -/
def Parts.signed (parts : Parts) : List UInt8 :=
  parts.header ++ dot :: parts.payload

/-- The parts of a token that has exactly three. -/
def Parts.ofBytes? (bytes : List UInt8) : Option Parts :=
  match Text.fields dot bytes with
  | [header, payload, signature] => some ⟨header, payload, signature⟩
  | _ => none

/-- The JSON value that a part of a token holds. -/
def decodePart (part : List UInt8) : Option Json.Tree :=
  match Base64.urlSafe.decode part with
  | .ok bytes => Json.parse bytes
  | .error _ => none

/-- What a header says about the signature. -/
structure Header where
  algorithm : Algorithm
  /-- The id of the key; an empty id is none. -/
  keyId : Option String
  deriving DecidableEq

/-- Why no header can be found in a token, or why it is not accepted. -/
inductive HeaderFault where
  | tooLarge
  | malformed
  | unsupportedAlgorithm
  deriving DecidableEq

namespace Header

/-- The header in a JSON value. What is no text counts as missing. -/
def ofTree (tree : Json.Tree) : Except HeaderFault Header :=
  let members := (tree.members?).getD []
  match ((Json.last? "alg" members).bind Json.Tree.string?).bind Algorithm.ofName? with
  | none => .error .unsupportedAlgorithm
  | some algorithm =>
    .ok ⟨algorithm, ((Json.last? "kid" members).bind Json.Tree.string?).filter (· ≠ "")⟩

/-- Finds the header of a token, without checking the signature. -/
def inspect (token : String) : Except HeaderFault Header :=
  let bytes := Text.utf8 token
  if bytes.length > maxSize then .error .tooLarge
  else
    match Parts.ofBytes? bytes with
    | none => .error .malformed
    | some parts =>
      match (decodePart parts.header).filter (·.isReadable Json.Tree.maxDepth) with
      | none => .error .malformed
      | some tree => ofTree tree

/-! ## The strict reading -/

/-- Members that are a text or null, if they are there. -/
def textMembers : List String :=
  ["typ", "cty", "jku", "kid", "x5u", "x5t", "x5t#S256"]

def isText (tree : Json.Tree) : Bool :=
  tree.string?.isSome

/-- Null, or what `accepts` accepts. -/
def isNullOr (accepts : Json.Tree → Bool) : Json.Tree → Bool
  | .null => true
  | tree => accepts tree

/-- Does every member with the key pass, and is there at most one? -/
def hasAtMostOne (members : List (String × Json.Tree)) (key : String)
    (accepts : Json.Tree → Bool) : Bool :=
  Json.isUnique key members && (Json.valuesOf key members).all accepts

/-- The curves that a key can lie on. -/
def curves : List String := ["P-256", "P-384", "P-521", "Ed25519"]

/-- The algorithms that a key can be for. -/
def keyAlgorithms : List String :=
  ["HS256", "HS384", "HS512", "ES256", "ES384", "RS256", "RS384", "RS512", "PS256", "PS384",
    "PS512", "EdDSA", "RSA1_5", "RSA-OAEP", "RSA-OAEP-256"]

/-- The name of a choice: a text, or the one key of an object whose value stands for nothing. -/
def choice? (isNothing : Json.Tree → Bool) : Json.Tree → Option String
  | .object [(key, value)] => if isNothing value then Json.text? key else none
  | tree => tree.string?

def isNull : Json.Tree → Bool
  | .null => true
  | _ => false

def isNullOrEmpty : Json.Tree → Bool
  | .null | .object [] => true
  | _ => false

/-- A key written out in a header: a type with the members that belong to it, and members that
every key can have. -/
def isKey (tree : Json.Tree) : Bool :=
  match tree.members? with
  | none => false
  | some members =>
    let text (key : String) := (Json.only? key members).bind Json.Tree.string?
    let choice (key : String) := (Json.only? key members).bind (choice? isNull)
    let isCurve := (choice "crv").any curves.contains
    let typed := match choice "kty" with
      | some "EC" => isCurve && (text "x").isSome && (text "y").isSome
      | some "RSA" => (text "n").isSome && (text "e").isSome
      | some "oct" => (text "k").isSome
      | some "OKP" => isCurve && (text "x").isSome
      | _ => false
    typed
      && ["use", "kid", "x5u", "x5t", "x5t#S256"].all (hasAtMostOne members · (isNullOr isText))
      && ["key_ops", "x5c"].all (hasAtMostOne members · (isNullOr (·.strings?.isSome)))
      && hasAtMostOne members "alg"
          (isNullOr fun tree => (choice? isNullOrEmpty tree).any keyAlgorithms.contains)

/-- Do the members have their types that do not matter to the signature, each at most once? -/
def areTyped (members : List (String × Json.Tree)) : Bool :=
  textMembers.all (hasAtMostOne members · (isNullOr isText))
    && hasAtMostOne members "x5c" (isNullOr (·.strings?.isSome))
    && hasAtMostOne members "jwk" (isNullOr isKey)

/-- The header in a JSON value by the strict reading: an object with the algorithm once and every
other known member at most once. Members that are not known are passed over, and an empty id of a
key counts as one. -/
def strict? (tree : Json.Tree) : Option Header := do
  let members ← tree.members?
  let name ← (Json.only? "alg" members).bind (choice? isNull)
  let algorithm ← Algorithm.ofName? name
  if areTyped members then
    some ⟨algorithm, (Json.only? "kid" members).bind Json.Tree.string?⟩
  else
    none

/-! ## Writing -/

def write (header : Header) : List UInt8 :=
  let keyId := header.keyId.toList.map fun id => ("kid", Json.string id)
  Json.object (("typ", Json.string "JWT") :: ("alg", Json.string header.algorithm.name) :: keyId)

end Header

end ChatServer.Token
