import ChatRelay.Http.Exchange
import ChatRelay.Metrics.Exposition

/-!
# Observability

Two paths from which the state of the relay can be read: the meters, and its health.
-/

namespace ChatRelay

namespace Health

def version : String := "0.1.0"

def json (uptime : Nat) (meters : Meters) : String :=
  "\x7b\"status\":\"healthy\",\"version\":\"" ++ version ++ "\",\"uptime_seconds\":"
    ++ toString uptime ++ ",\"connected_clients\":" ++ toString meters.connected.toInt ++ "\x7d"

end Health

namespace Observability

open Http (Request Response)

def metricsPath : String := "/metrics"

def healthPath : String := "/health"

/-- Answers a request after a number of seconds. Paths are compared as they are. -/
def answer (uptime : Nat) (meters : Meters) (request : Request) : Response :=
  if request.path = metricsPath.toList then
    request.read { status := 200, contentType := some "text/plain; version=0.0.4",
                   body := Exposition.text meters }
  else if request.path = healthPath.toList then
    request.read { status := 200, contentType := some "application/json",
                   body := Health.json uptime meters }
  else .notFound

end Observability

end ChatRelay
