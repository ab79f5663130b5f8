import ChatServer.Live.Client
import ChatServer.Rpc.Frame
import ChatServer.Wire.Message

/-!
How the items of a chat stream get to its client. Messages go out as frames, and frames go out in
chunks: a chunk takes in what waits in the mailbox until it is large enough. What a chunk leaves
behind still takes up room in the mailbox while everything runs on.

A client may also read along while its session works off requests that are all there from the
start. Then the two take turns: the session goes on until it waits or has used up its share of
work, and the client takes what has come.
-/

namespace ChatServer.Rpc

variable {σ : Type}

/-- How much one party does before it lets the others go on: so many steps of a session, or so
many items that are taken. -/
def share : Nat := 128

/-! ## Chunks -/

/-- The size in bytes from which on a chunk takes in no more. -/
def chunkSize : Nat := 32 * 1024

/-- The size of an item in a chunk. A status is no part of the body. -/
def itemSize : Live.Item → Nat
  | .message delivery =>
    (frame (Wire.encode Wire.MessageType.chatStreamResponse.kinds
      (delivery.messageId, delivery.sender, delivery.content, delivery.sentAt, ()))).length
  | .failure _ => 0

/-- Takes items out of a mailbox as long as there is room in the chunk, up to a number. -/
def takeChunk (world : Live.World σ) (number room : Nat) : Nat → List Live.Item × Live.World σ
  | 0 => ([], world)
  | n + 1 =>
    if room = 0 then ([], world)
    else
      match world.take number with
      | (none, world) => ([], world)
      | (some item, world) =>
        let (items, world) := takeChunk world number (room - itemSize item) n
        (item :: items, world)

/-- Takes a chunk and lets everything run on, for at most a number of rounds. -/
def readChunks (services : Live.Services σ) (world : Live.World σ) (number : Nat)
    : Nat → List Live.Item × Live.World σ
  | 0 => ([], world)
  | n + 1 =>
    let (chunk, world) := takeChunk world number chunkSize share
    if chunk.isEmpty then ([], world)
    else
      let (items, world) := readChunks services (world.settle services) number n
      (chunk ++ items, world)

/-- Takes all that comes into a mailbox until nothing more does. -/
def readAll (services : Live.Services σ) (world : Live.World σ) (number : Nat)
    : List Live.Item × Live.World σ :=
  readChunks services world number (world.readBound number)

/-! ## Reading along -/

/-- What the next turn of a session takes of its share: looking up a recipient, storing a message
and acknowledging it take a step each. -/
def turnCost (world : Live.World σ) (number : Nat) : Nat :=
  match world.sessions.get? number with
  | none => 0
  | some session =>
    match session.stage with
    | .checking _ | .storing _ | .acknowledging _ _ | .waiting _ _ => 1
    | _ => 0

/-- A session takes turns until it waits, or until what is left of its share is too little for the
next turn. -/
def runShare (services : Live.Services σ) (number : Nat)
    : Nat → Nat → Live.World σ → Nat × Live.World σ
  | 0, left, world => (left, world)
  | n + 1, left, world =>
    if left < turnCost world number then (share, world)
    else
      match world.turn services number with
      | some next => runShare services number n (left - turnCost world number) next
      | none => (share, world)

/-- A session and its client take turns, for at most a number of rounds. -/
def readAlongFor (services : Live.Services σ) (number : Nat)
    : Nat → Nat → Live.World σ → List Live.Item × Live.World σ
  | 0, _, world => ([], world)
  | n + 1, left, world =>
    let (left, world) := runShare services number (world.work + 1) left world
    let (batch, world) := world.takeBatch number (world.waiting number)
    if batch.isEmpty && (world.turn services number).isNone then ([], world)
    else
      let (items, world) := readAlongFor services number n left world
      (batch ++ items, world)

/-- Runs a session whose input is there from the start, while its client reads along. -/
def readAlong (services : Live.Services σ) (world : Live.World σ) (number : Nat)
    : List Live.Item × Live.World σ :=
  readAlongFor services number (world.readBound number + world.work) share world

end ChatServer.Rpc
