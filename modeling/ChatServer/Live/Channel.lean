/-!
Bounded channels. A channel holds items up to its capacity until the receiver takes them. Many
senders push without waiting and fail when there is no room; one sender, the owner, may wait. Room
that becomes free goes to the waiting owner first: it is kept for it until it has sent.
-/

namespace ChatServer.Live

/-- Why an item could not be pushed. -/
inductive DeliveryFault where
  | full
  | closed
  deriving DecidableEq, Inhabited

def DeliveryFault.message : DeliveryFault → String
  | full => "connection buffer full"
  | closed => "connection closed"

/-- Where the owner stands with its item. -/
inductive Turn where
  | idle
  | waiting
  /-- A place is kept for the owner. -/
  | granted
  deriving DecidableEq, Inhabited

/-- How many places are kept for the owner. -/
def Turn.places : Turn → Nat
  | granted => 1
  | _ => 0

/-- The turn of the owner when a place becomes free. -/
def Turn.afterPop : Turn → Turn
  | waiting => granted
  | turn => turn

/-- The greatest capacity that a channel can have. -/
def greatestCapacity : Nat := UInt64.size / 8 - 1

/-- Can a channel have this capacity? One without any room cannot be made. -/
def isCapacity (n : Nat) : Bool :=
  0 < n && n ≤ greatestCapacity

/-- A channel with room for `capacity` items. -/
structure Channel (ι : Type) where
  capacity : Nat
  queue : List ι := []
  owner : Turn := .idle
  /-- Is the receiver still there? -/
  isOpen : Bool := true

namespace Channel

variable {ι : Type}

/-- How many places are taken, by items and by what is kept for the owner. -/
def taken (channel : Channel ι) : Nat :=
  channel.queue.length + channel.owner.places

/-- Could an item be pushed? -/
def hasRoom (channel : Channel ι) : Bool :=
  channel.isOpen && channel.taken < channel.capacity

def enqueue (channel : Channel ι) (item : ι) : Channel ι :=
  { channel with queue := channel.queue ++ [item] }

def push (channel : Channel ι) (item : ι) : Option DeliveryFault × Channel ι :=
  if !channel.isOpen then (some .closed, channel)
  else if channel.hasRoom then (none, channel.enqueue item)
  else (some .full, channel)

/-- The owner gets in line for a place. -/
def await (channel : Channel ι) : Channel ι :=
  { channel with owner := .waiting }

/-- The owner sends its item into the place that was kept for it. -/
def fill (channel : Channel ι) (item : ι) : Channel ι :=
  { channel with owner := .idle }.enqueue item

/-- The owner gives up waiting, and what was kept for it is free again. -/
def withdraw (channel : Channel ι) : Channel ι :=
  { channel with owner := .idle }

/-- The receiver takes the first item; a waiting owner gets the place. -/
def pop (channel : Channel ι) : Option ι × Channel ι :=
  match channel.queue with
  | [] => (none, channel)
  | item :: queue =>
    (some item, { channel with queue, owner := channel.owner.afterPop })

/-- The receiver goes away, and what waits for it is lost. -/
def close (channel : Channel ι) : Channel ι :=
  { channel with isOpen := false, queue := [] }

/-- The items and the place kept for the owner do not exceed the capacity. -/
def Fits (channel : Channel ι) : Prop :=
  channel.taken ≤ channel.capacity

theorem Fits.push {channel : Channel ι} (h : channel.Fits) (item : ι)
    : (channel.push item).2.Fits := by
  unfold Channel.push
  split
  · exact h
  · split
    next room =>
      simp only [hasRoom, Bool.and_eq_true, decide_eq_true_eq] at room
      simp only [Fits, taken, enqueue, List.length_append, List.length_singleton] at *
      omega
    next => exact h

theorem Fits.pop {channel : Channel ι} (h : channel.Fits) : channel.pop.2.Fits := by
  unfold Channel.pop
  split
  · exact h
  next item queue found =>
    simp only [Fits, taken, found, List.length_cons] at *
    have places : channel.owner.afterPop.places ≤ channel.owner.places + 1 := by
      cases channel.owner <;> simp [Turn.afterPop, Turn.places]
    omega

/-- A failed push leaves the channel as it was. -/
theorem push_of_fault {channel : Channel ι} {item : ι} {fault : DeliveryFault}
    (h : (channel.push item).1 = some fault) : (channel.push item).2 = channel := by
  unfold push at *
  split
  · rfl
  · split
    next => simp_all
    next => rfl

end Channel

end ChatServer.Live
