import ChatRelay.Http.Exchange

/-!
# Upgrade requests

A request is upgraded to a chat connection if its headers ask for it in the right way. They are
looked at in a fixed order, and the first that is wrong decides the answer.
-/

namespace ChatRelay.Http

inductive UpgradeFault where
  | method
  | connection
  | protocol
  | version
  | key
deriving DecidableEq

namespace UpgradeFault

def message : UpgradeFault → String
  | .method => "Request method must be `GET`"
  | .connection => "Connection header did not include 'upgrade'"
  | .protocol => "`Upgrade` header did not include 'websocket'"
  | .version => "`Sec-WebSocket-Version` header did not include '13'"
  | .key => "`Sec-WebSocket-Key` header missing"

def response (fault : UpgradeFault) : Response :=
  .text (if fault = .method then 405 else 400) fault.message

end UpgradeFault

def occursIn (needle : List Char) : List Char → Bool
  | [] => needle.isEmpty
  | c :: rest => needle.isPrefixOf (c :: rest) || occursIn needle rest

namespace Request

/-- What is wrong with a request for an upgrade. -/
def upgradeFault? (r : Request) : Option UpgradeFault :=
  if r.method ≠ "GET" then some .method
  else if !(r.header? "connection").any (occursIn "upgrade".toList) then some .connection
  else if r.header? "upgrade" ≠ some "websocket".toList then some .protocol
  else if r.header? "sec-websocket-version" ≠ some "13".toList then some .version
  else if (r.header? "sec-websocket-key").isNone then some .key
  else none

end Request

def Response.switching : Response := { status := 101, upgrade := some "websocket" }

end ChatRelay.Http
