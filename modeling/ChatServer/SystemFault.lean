import ChatServer.Text.Described

/-!
Faults of the system: why something that was asked of it, such as a file or a place to listen at,
cannot be had. Each has a number, a kind and a text.
-/

namespace ChatServer

inductive SystemFault where
  | notFound
  | denied
  | notADirectory
  | isADirectory
  | invalidArgument
  | nameTooLong
  | addressInUse
  | addressNotAvailable
  /-- A fault that has no name of its own here. -/
  | other (code : Nat) (message : String)
  deriving DecidableEq

namespace SystemFault

/-- The number that the system has for the fault. -/
def code : SystemFault → Nat
  | notFound => 2
  | denied => 13
  | notADirectory => 20
  | isADirectory => 21
  | invalidArgument => 22
  | nameTooLong => 36
  | addressInUse => 98
  | addressNotAvailable => 99
  | other code _ => code

def kind : SystemFault → String
  | notFound => "NotFound"
  | denied => "PermissionDenied"
  | notADirectory => "NotADirectory"
  | isADirectory => "IsADirectory"
  | invalidArgument => "InvalidInput"
  | nameTooLong => "InvalidFilename"
  | addressInUse => "AddrInUse"
  | addressNotAvailable => "AddrNotAvailable"
  | other _ _ => "Uncategorized"

def message : SystemFault → String
  | notFound => "No such file or directory"
  | denied => "Permission denied"
  | notADirectory => "Not a directory"
  | isADirectory => "Is a directory"
  | invalidArgument => "Invalid argument"
  | nameTooLong => "File name too long"
  | addressInUse => "Address already in use"
  | addressNotAvailable => "Cannot assign requested address"
  | other _ message => message

/-- The fault in words, with its number. -/
def text (fault : SystemFault) : String :=
  fault.message ++ " (os error " ++ toString fault.code ++ ")"

/-- The fault with all its parts. -/
def describe (fault : SystemFault) : String :=
  Text.record "Os" [("code", toString fault.code), ("kind", fault.kind),
    ("message", Text.quoted fault.message)]

/-- The faults with names of their own. -/
def named : List SystemFault :=
  [notFound, denied, notADirectory, isADirectory, invalidArgument, nameTooLong, addressInUse,
    addressNotAvailable]

def ofCode (code : Nat) (message : String) : SystemFault :=
  (named.find? (·.code == code)).getD (other code message)

/-- Faults with names of their own are found by their numbers. -/
theorem ofCode_code {fault : SystemFault} (h : fault ∈ named) (message : String)
    : ofCode fault.code message = fault := by
  simp only [named, List.mem_cons, List.not_mem_nil, or_false] at h
  rcases h with rfl | rfl | rfl | rfl | rfl | rfl | rfl | rfl <;> rfl

end SystemFault

end ChatServer
