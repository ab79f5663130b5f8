import ChatServer.Base64
import ChatServer.Failure
import ChatServer.Password.Cost
import ChatServer.Password.Digest
import ChatServer.Text.Natural
import ChatServer.Text.Split
import ChatServer.Text.Utf8

/-!
Hashes of passwords as text: a version, a cost, a salt and a digest. A password matches a hash
when its digest with the salt and at the cost of the hash is the digest of the hash.
-/

namespace ChatServer.Password

/-- Why a text is no hash, or a password cannot be compared with it. -/
inductive HashFault where
  | malformed (text : String)
  | unknownVersion (text : String)
  | malformedCost (text : String)
  | costOutOfRange (cost : Nat)
  | malformedSymbols (fault : Base64.Fault)
  deriving DecidableEq

def HashFault.message : HashFault → String
  | malformed text => "Invalid hash: " ++ text
  | unknownVersion text => "Invalid Prefix: " ++ text
  | malformedCost text => "Invalid Cost: " ++ text
  | costOutOfRange cost =>
    "Cost needs to be between " ++ toString minCost ++ " and " ++ toString maxCost ++ ", got "
      ++ toString cost
  | malformedSymbols fault => "Base64 error: " ++ fault.message

/-- The parts of a hash. Salt and digest are symbols still. -/
structure HashParts where
  cost : Nat
  salt : List UInt8
  digest : List UInt8
  deriving DecidableEq

/-- The versions that are known; all are computed alike. -/
def versions : List String := ["2y", "2b", "2a", "2x"]

def saltSymbols : Nat := 22

def digestSymbols : Nat := 31

/-- Is a place between two characters of a text, whose bytes these are? -/
def isBoundary (bytes : List UInt8) (place : Nat) : Bool :=
  match bytes[place]? with
  | some b => b < 0x80 || 0xC0 ≤ b
  | none => true

/-- Takes a hash apart. -/
def HashParts.ofText (text : String) : Except HashFault HashParts :=
  match (Text.fields '$' text.toList).filter (!·.isEmpty) with
  | [version, cost, symbols] =>
    if !versions.contains (.ofList version) then .error (.unknownVersion (.ofList version))
    else
      match Text.naturalBelow? UInt32.size cost with
      | none => .error (.malformedCost (.ofList cost))
      | some cost =>
        let bytes := Text.utf8 (.ofList symbols)
        if bytes.length = saltSymbols + digestSymbols && isBoundary bytes saltSymbols then
          .ok ⟨cost, bytes.take saltSymbols, bytes.drop saltSymbols⟩
        else
          .error (.malformed text)
  | _ => .error (.malformed text)

/-- Two digits at least. -/
def costText (cost : Nat) : String :=
  if cost < 10 then "0" ++ toString cost else toString cost

def HashParts.render (parts : HashParts) : String :=
  "$2b$" ++ costText parts.cost ++ "$"
    ++ .ofList ((parts.salt ++ parts.digest).map fun b => Char.ofNat b.toNat)

/-- The bytes that symbols of a hash stand for. -/
def decodeSymbols (symbols : List UInt8) : Except HashFault (List UInt8) :=
  (Base64.passwordHash.decode symbols).mapError .malformedSymbols

/-- Does a password match a hash? The salt is looked at first, then the cost, then the digest. -/
def matchesHash (password text : String) : Except HashFault Bool := do
  let parts ← HashParts.ofText text
  let salt ← decodeSymbols parts.salt
  if isCost parts.cost then
    let expected ← decodeSymbols parts.digest
    return digest parts.cost salt (Text.utf8 password) == expected
  else
    throw (.costOutOfRange parts.cost)

/-- The parts of the hash of a password at a cost with a salt of sixteen bytes. -/
def HashParts.ofPassword (cost : Nat) (salt : List UInt8) (password : String) : HashParts where
  cost
  salt := Base64.passwordHash.encode salt
  digest := Base64.passwordHash.encode (Password.digest cost salt (Text.utf8 password))

def hash (cost : Nat) (salt : List UInt8) (password : String) : Except Failure String :=
  if isNewCost cost then
    .ok (HashParts.ofPassword cost salt password).render
  else
    .error (.crypto ("Invalid bcrypt cost: " ++ toString cost ++ " (must be "
      ++ toString minNewCost ++ "-" ++ toString maxNewCost ++ ")"))

/-- Does a password match a stored hash? -/
def verify (password text : String) : Except Failure Bool :=
  (matchesHash password text).mapError fun fault =>
    .crypto ("Password verification failed: " ++ fault.message)

end ChatServer.Password
