import ChatRelay.Log.Level
import ChatRelay.Text.Quoted

/-!
# Log lines

A line has a level, the target it belongs to, a message, and fields. It can be written in three
styles, which differ in how a field that holds a bare text is shown and in the order of the fields.
-/

namespace ChatRelay.Log

inductive Value where
  /-- A value with a form of its own. -/
  | shown (text : String)
  /-- A bare text. -/
  | literal (text : String)
  | count (n : Nat)
deriving DecidableEq

structure Line where
  level : Level
  target : String
  message : String
  fields : List (String × Value) := []
deriving DecidableEq

inductive Style where
  /-- Fields in the order of the line, bare texts as they are. -/
  | plain
  /-- Fields in the order of the line, bare texts in quotes. -/
  | quoted
  /-- Fields in the order of their names, bare texts as they are. -/
  | byName
deriving DecidableEq

def Value.text (style : Style) : Value → String
  | .shown text => text
  | .literal text => if style = .quoted then Text.quoted text else text
  | .count n => toString n

namespace Line

def without (line : Line) (name : String) : Line :=
  { line with fields := line.fields.filter fun field => field.1 != name }

/-- Inserts a field before the first one with a later name. -/
def insertByName (field : String × Value) : List (String × Value) → List (String × Value)
  | [] => [field]
  | other :: rest =>
    if field.1 ≤ other.1 then field :: other :: rest else other :: insertByName field rest

def ordered (style : Style) (fields : List (String × Value)) : List (String × Value) :=
  if style = .byName then fields.foldr insertByName [] else fields

def body (line : Line) (style : Style) : String :=
  line.target ++ ": " ++ line.message
    ++ String.join ((ordered style line.fields).map fun field =>
      " " ++ field.1 ++ "=" ++ field.2.text style)

def text (line : Line) (style : Style) : String :=
  line.level.text ++ " " ++ line.body style

end Line

end ChatRelay.Log
