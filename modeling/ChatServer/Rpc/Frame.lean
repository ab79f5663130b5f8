import ChatServer.BigEndian
import ChatServer.Status
import ChatServer.Wire.Codec

/-!
Frames: the messages in the body of a call. A frame is a byte that tells whether its message is
compressed, the size of the message in four bytes, the most significant first, and the message.
No compression is agreed on, so a frame that claims one is at fault. A body may be cut off between
a head and its message; what is cut off inside either is at fault.
-/

namespace ChatServer.Rpc

/-- What is wrong with a frame. -/
inductive FrameFault where
  | compressed
  | unknownFlag (flag : Nat)
  | tooLarge (size : Nat)
  | cutOff
  deriving DecidableEq

def greatestSize : Nat := 4 * 1024 * 1024

/-- The status of a call with a fault in its body. -/
def FrameFault.status : FrameFault → Status
  | compressed => ⟨.internal,
      "protocol error: received message with compressed-flag but no grpc-encoding was specified"⟩
  | unknownFlag flag => ⟨.internal,
      "protocol error: received message with invalid compression flag: " ++ toString flag
        ++ " (valid flags are 0 and 1), while sending request"⟩
  | tooLarge size => ⟨.outOfRange,
      "Error, decoded message length too large: found " ++ toString size
        ++ " bytes, the limit is: " ++ toString greatestSize ++ " bytes"⟩
  | cutOff => ⟨.internal, "Unexpected EOF decoding stream."⟩

/-- Reads the head of a frame: the size of its message, or what is wrong. -/
def readHead (flag : UInt8) (size : List UInt8) : Except FrameFault Nat :=
  if flag = 1 then .error .compressed
  else if flag ≠ 0 then .error (.unknownFlag flag.toNat)
  else if greatestSize < BigEndian.read size then .error (.tooLarge (BigEndian.read size))
  else .ok (BigEndian.read size)

/-- The contents of the frames in a body, up to the first fault. -/
def readFrames : List UInt8 → List (List UInt8) × Option FrameFault
  | [] => ([], none)
  | flag :: a :: b :: c :: d :: rest =>
    match readHead flag [a, b, c, d] with
    | .error fault => ([], some fault)
    | .ok size =>
      if size ≤ rest.length then
        let (contents, fault) := readFrames (rest.drop size)
        (rest.take size :: contents, fault)
      else if rest.isEmpty then ([], none)
      else ([], some .cutOff)
  | _ => ([], some .cutOff)
termination_by bytes => bytes.length
decreasing_by simp only [List.length_cons, List.length_drop]; omega

def frame (content : List UInt8) : List UInt8 :=
  0 :: BigEndian.write 4 content.length ++ content

/-- A frame in front of others is read first. -/
theorem readFrames_frame {content : List UInt8} (h : content.length ≤ greatestSize)
    (rest : List UInt8)
    : readFrames (frame content ++ rest)
      = (content :: (readFrames rest).1, (readFrames rest).2) := by
  have size : content.length < 1 <<< (8 * 4) := Nat.lt_of_le_of_lt h (by decide)
  have whole := BigEndian.read_write size
  simp only [frame, BigEndian.write, List.nil_append, List.cons_append] at whole ⊢
  rw [readFrames.eq_def]
  simp only [readHead, whole]
  rw [if_neg (by decide), if_neg (by decide), if_neg (by omega)]
  simp

/-- The messages of a body in order; a fault is the last. -/
def messagesIn (kinds : List Wire.Kind) (body : List UInt8)
    : List (Except Status (Wire.Values kinds)) :=
  let (contents, fault) := readFrames body
  let decoded := contents.map fun content =>
    match Wire.decode kinds content with
    | some values => .ok values
    | none => .error ⟨.internal, "failed to decode Protobuf message"⟩
  decoded ++ (fault.map fun fault => .error fault.status).toList

/-- The first message of a body without faults. -/
def firstMessage (kinds : List Wire.Kind) (body : List UInt8)
    : Except Status (Wire.Values kinds) := do
  match ← (messagesIn kinds body).mapM id with
  | first :: _ => .ok first
  | [] => .error ⟨.internal, "Missing request message."⟩

end ChatServer.Rpc
