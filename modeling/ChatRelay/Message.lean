import ChatRelay.ConnectionId

/-!
# Chat messages

A message exists only while it is being broadcast. It carries the line as the client sent it and
the name that the client gave in its handshake.
-/

namespace ChatRelay

structure Message where
  sender : ConnectionId
  senderName : String
  text : String
deriving DecidableEq

namespace Message

def withSender (m : Message) : String := m.senderName ++ ": " ++ m.text

def render (m : Message) (showSender : Bool) : String :=
  if showSender then m.withSender else m.text

end Message

end ChatRelay
