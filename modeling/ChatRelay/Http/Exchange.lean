import ChatRelay.Text.Parts

/-!
# Requests and responses

A request has a method, a target and headers, whose names are compared without regard to case. A
response has a status, a body, and the few headers that tell something.
-/

namespace ChatRelay.Http

structure Request where
  method : String := "GET"
  /-- The path, and behind a question mark the query. -/
  target : String
  headers : List (String × String) := []
deriving DecidableEq

structure Response where
  status : Nat
  allow : Option String := none
  contentType : Option String := none
  upgrade : Option String := none
  body : String := ""
deriving DecidableEq

namespace Request

def path (r : Request) : List Char := r.target.toList.takeWhile (· != '?')

/-- Blanks around the value of a header do not belong to it. -/
def isBlank (c : Char) : Bool := c = ' ' || c = '\t'

/-- The value of a header in lower case; only ASCII letters have a case here. -/
def header? (r : Request) (name : String) : Option (List Char) :=
  (r.headers.lookup name).map fun value =>
    (Text.trim isBlank value.toList).map Char.toLower

end Request

namespace Response

def plainText : String := "text/plain; charset=utf-8"

def text (status : Nat) (body : String) : Response :=
  { status, contentType := some plainText, body }

def notFound : Response := { status := 404 }

def methodNotAllowed : Response := { status := 405, allow := some "GET,HEAD" }

end Response

/-- Answers a request for something that can be read. Without `GET` only the headers are sent, and
no other method but `HEAD` is known. -/
def Request.read (r : Request) (get : Response) : Response :=
  if r.method = "GET" then get
  else if r.method = "HEAD" then { get with body := "" }
  else .methodNotAllowed

end ChatRelay.Http
