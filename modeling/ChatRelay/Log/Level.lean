/-!
# Levels of log lines

A level limits the lines that come out: a limit lets through its own level and every more urgent
one. A filter without a limit lets nothing through.
-/

namespace ChatRelay.Log

inductive Level where
  | error
  | warn
  | info
  | debug
  | trace
deriving DecidableEq

namespace Level

/-- Larger is more verbose. -/
def verbosity : Level → Nat
  | .error => 1
  | .warn => 2
  | .info => 3
  | .debug => 4
  | .trace => 5

def text : Level → String
  | .error => "ERROR"
  | .warn => "WARN"
  | .info => "INFO"
  | .debug => "DEBUG"
  | .trace => "TRACE"

/-- From the most urgent level to the most verbose. -/
def all : List Level := [.error, .warn, .info, .debug, .trace]

end Level

end ChatRelay.Log
