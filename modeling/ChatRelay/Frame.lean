import ChatRelay.Transport

/-!
# Frames

What a client sends over an upgraded stream, and what the relay sends back. Each frame of a client
is one inbound item: a text, a life sign, a binary frame, the end of the stream, or a fault.
-/

namespace ChatRelay

/-- How a stream can break the rules of its framing. -/
inductive Defect where
  | invalidText
  | unmasked
  | unknownOpcode (opcode : Nat)
  | reservedBits
  | loneContinuation
  | oversizedControl
  /-- The stream is gone without a close frame. -/
  | reset
deriving DecidableEq

namespace Defect

def reason : Defect → String
  | .invalidText => "UTF-8 encoding error"
  | .unmasked => "WebSocket protocol error: Received an unmasked frame from client"
  | .unknownOpcode opcode => "WebSocket protocol error: Encountered invalid opcode: " ++ toString opcode
  | .reservedBits => "WebSocket protocol error: Reserved bits are non-zero"
  | .loneContinuation => "WebSocket protocol error: Continue frame but nothing to continue"
  | .oversizedControl =>
    "WebSocket protocol error: Control frame too big (payload must be 125 bytes or less)"
  | .reset => "WebSocket protocol error: Connection reset without closing handshake"

def fault (d : Defect) : TransportFault := ⟨d.reason⟩

end Defect

/-- A frame of a client; the fragments of a message count as one frame, where the last one is. -/
inductive Frame where
  | text (text : String)
  | binary (size : Nat)
  | ping (payload : String)
  | pong (payload : String)
  /-- A close frame with the number of bytes of its payload. -/
  | close (size : Nat)
  | broken (defect : Defect)
deriving DecidableEq

namespace Frame

/-- The most bytes that a ping, a pong or a close frame may carry. -/
def controlLimit : Nat := 125

/-- An inbound item for a control frame, unless the frame is too long. -/
def control (size : Nat) (item : Inbound) : Inbound :=
  if size ≤ controlLimit then item else .fault Defect.oversizedControl.fault

/-- What the relay reads when it reads a frame. Only control frames have a limit here; how large a
message or any other frame may be is for the library below to say, and left out. -/
def inbound : Frame → Inbound
  | .text line => .text line
  | .binary size => .binary size
  | .ping payload => control payload.utf8ByteSize .lifeSign
  | .pong payload => control payload.utf8ByteSize .lifeSign
  | .close size => control size .streamEnd
  | .broken defect => .fault defect.fault

/-- The payload that a frame asks to have sent back. -/
def reply? : Frame → Option String
  | .ping payload => if payload.utf8ByteSize ≤ controlLimit then some payload else none
  | _ => none

/-- A message in fragments with a ping between any two of them. The message is complete only behind
the last ping. -/
def fragmented (count : Nat) (between : Option String) (message : Frame) : List Frame :=
  match between with
  | some payload => List.replicate (count - 1) (.ping payload) ++ [message]
  | none => [message]

end Frame

inductive ServerFrame where
  | text (text : String)
  | ping
  | pong (payload : String)
  | close
deriving DecidableEq

end ChatRelay
