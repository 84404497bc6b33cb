import ChatRelay.Text.Parts
import ChatRelay.Text.Quoted

/-!
# Routes

A route is the pattern of a path, taken apart at the slashes. A segment may end in a parameter,
which stands for one or more characters of the same segment; a last segment may stand for all that
is left of the path. A route that breaks these rules cannot be served.
-/

namespace ChatRelay.Http

inductive Segment where
  | literal (text : List Char)
  /-- A text, and behind it a parameter. -/
  | parameter (before : List Char)
  /-- All that is left of the path. -/
  | rest
deriving DecidableEq

inductive RouteFault where
  /-- It does not begin with a slash. -/
  | slashMissing
  /-- A parameter has no name. -/
  | unnamed
  /-- Two parameters share a segment. -/
  | crowded
  /-- Something stands beside a parameter for all that is left, or behind it. -/
  | restNotLast
  /-- The path is already served. -/
  | taken
deriving DecidableEq

abbrev Route := List Segment

def isMark (c : Char) : Bool := c = ':' || c = '*'

namespace Segment

/-- Reads one segment. A parameter goes on to the end of its segment. -/
def parse? (part : List Char) : Except RouteFault Segment :=
  let before := part.takeWhile fun c => !isMark c
  match part.drop before.length with
  | [] => .ok (.literal part)
  | mark :: name =>
    if name.any isMark then .error .crowded
    else if name.isEmpty then .error .unnamed
    else if mark = ':' then .ok (.parameter before)
    else if before.isEmpty then .ok .rest
    else .error .restNotLast

end Segment

namespace Route

/-- Nothing may follow a segment that stands for all that is left. -/
def restIsLast : Route → Bool
  | [] => true
  | [_] => true
  | segment :: rest => segment != .rest && restIsLast rest

def parse? (pattern : String) : Except RouteFault Route :=
  match pattern.toList with
  | '/' :: rest => do
    let route ← (Text.parts '/' rest).mapM Segment.parse?
    if restIsLast route then .ok route else .error .restNotLast
  | _ => .error .slashMissing

def fits : Route → List (List Char) → Bool
  | [], [] => true
  | [.rest], parts => !parts.isEmpty && parts != [[]]
  | .literal text :: route, part :: parts => text == part && fits route parts
  | .parameter before :: route, part :: parts =>
    before.isPrefixOf part && decide (before.length < part.length) && fits route parts
  | _, _ => false

def isOf (route : Route) (path : List Char) : Bool :=
  match path with
  | '/' :: rest => fits route (Text.parts '/' rest)
  | _ => false

end Route

namespace RouteFault

def message (pattern : String) : RouteFault → String
  | .slashMissing =>
    "Paths must start with a `/`" ++ if pattern.isEmpty then ". Use \"/\" for root routes" else ""
  | .unnamed => invalid "parameters must be registered with a name"
  | .crowded => invalid "only one parameter is allowed per path segment"
  | .restNotLast => invalid "catch-all parameters are only allowed at the end of a route"
  | .taken => "Overlapping method route. Handler for `GET " ++ pattern ++ "` already exists"
where
  invalid (reason : String) : String :=
    "Invalid route " ++ Text.quoted pattern ++ ": " ++ reason

end RouteFault

end ChatRelay.Http
