import ChatServer.Live.Session

/-!
How clients read their mailboxes: one item at a time, where everything runs on after each, or
several at once.
-/

namespace ChatServer.Live.World

variable {σ : Type}

/-- Takes items one at a time, up to a number, and lets everything run on after each. -/
def readOneByOne (services : Services σ) (world : World σ) (number : Nat)
    : Nat → List Item × World σ
  | 0 => ([], world)
  | n + 1 =>
    match world.take number with
    | (none, world) => ([], world)
    | (some item, world) =>
      let (items, world) := readOneByOne services (world.settle services) number n
      (item :: items, world)

/-- Takes the items that are there, up to a number. -/
def takeBatch (world : World σ) (number : Nat) : Nat → List Item × World σ
  | 0 => ([], world)
  | n + 1 =>
    match world.take number with
    | (none, world) => ([], world)
    | (some item, world) =>
      let (items, world) := takeBatch world number n
      (item :: items, world)

def waiting (world : World σ) (number : Nat) : Nat :=
  match world.endpoints.channel? number with
  | some channel => channel.queue.length
  | none => 0

/-- A bound on the items that can come into a mailbox without new input: what is there, and for
each request left an acknowledgement and a delivery. -/
def readBound (world : World σ) (number : Nat) : Nat :=
  world.waiting number + 2 * (world.work + 1)

end ChatServer.Live.World
