import ChatServer.Net.Address
import ChatServer.SystemFault

/-!
Hosts, as far as one can listen at them: at an address that the host answers to, and at a number
at which nobody listens there yet. Who listens at all addresses of a host leaves none to others.
-/

namespace ChatServer.Net

namespace Address

/-- The address of version 4 that one of version 6 may stand for, or the address itself. -/
def unmapped : Address → Address
  | v6 [0, 0, 0, 0, 0, 0xFFFF, high, low] =>
    v4 (high / 256) (high % 256) (low / 256) (low % 256)
  | address => address

/-- The address that stands for all addresses of version 4. -/
def anyV4 : Address := v4 0 0 0 0

/-- The address that stands for all addresses. -/
def any : Address := v6 (List.replicate 8 0)

/-- The address of version 6 that leads back to the host. -/
def loopbackV6 : Address := v6 (List.replicate 7 0 ++ [1])

/-- Does every host answer to the address? So it is with those that lead back to the host and
those of groups of hosts. -/
def isEverywhere : Address → Bool
  | v4 a b c d =>
    a = 0 || a = 127 || (224 ≤ a && a < 240) || v4 a b c d = v4 255 255 255 255
  | address => address = any || address = loopbackV6

/-- Is the address one of version 6 that says too little, as it is that of a group of hosts or
belongs to one link? -/
def isPartial : Address → Bool
  | v6 (group :: _) => 0xFF00 ≤ group || (0xFE80 ≤ group && group < 0xFEC0)
  | _ => false

/-- Does the first of two addresses take in the second? -/
def covers (first second : Address) : Bool :=
  first = second || first = any || (first = anyV4 && second matches v4 _ _ _ _)

end Address

/-- Is there something that comes to both endpoints? Number 0 is any number that is free. -/
def Endpoint.collides (first second : Endpoint) : Bool :=
  let one := first.address.unmapped
  let other := second.address.unmapped
  first.number = second.number && first.number != 0 && (one.covers other || other.covers one)

/-- It does not matter which of two endpoints came first. -/
theorem Endpoint.collides_comm (first second : Endpoint)
    : first.collides second = second.collides first := by
  by_cases same : first.number = second.number
  · simp [collides, same, Bool.or_comm]
  · simp [collides, same, Ne.symm same]

/-- A host: which addresses are its own, and where somebody listens. -/
structure Host where
  isOwn : Address → Bool
  listeners : List Endpoint := []

namespace Host

/-- Why one cannot listen at an endpoint, if one cannot. -/
def listenFault? (host : Host) (endpoint : Endpoint) : Option SystemFault :=
  let address := endpoint.address.unmapped
  if address.isPartial then some .invalidArgument
  else if !address.isEverywhere && !host.isOwn address then some .addressNotAvailable
  else if host.listeners.any endpoint.collides then some .addressInUse
  else none

/-- The host when somebody listens at one more endpoint. -/
def listen (host : Host) (endpoint : Endpoint) : Host :=
  { host with listeners := endpoint :: host.listeners }

end Host

end ChatServer.Net
