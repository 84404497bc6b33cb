import ChatRelay.Toml.Node

/-!
# Excerpts

Where a document has a fault: line and column, the line itself, and a row of carets below the place.
Columns count characters, the row of carets bytes; the row ends with the line.
-/

namespace ChatRelay.Toml

def spaces (n : Nat) : String := String.ofList (List.replicate n ' ')

def byteCount (cs : List Char) : Nat := (cs.map Char.utf8Size).foldr (· + ·) 0

def lastLine (cs : List Char) : List Char := (cs.reverse.takeWhile (· != '\n')).reverse

/-- The message about a fault at a place of a text. -/
def excerpt (text : String) (span : Span) (message : String) : String :=
  let cs := text.toList
  let before := cs.take (cs.length - span.start)
  let marked := (cs.drop before.length).take (span.start - span.stop)
  let line := before.count '\n' + 1
  let column := (lastLine before).length
  let content := lastLine before ++ (cs.drop before.length).takeWhile (· != '\n')
  let carets := max 1 (min (byteCount marked) (byteCount content - column))
  let gutter := spaces ((toString line).length + 1) ++ "|"
  "TOML parse error at line " ++ toString line ++ ", column " ++ toString (column + 1) ++ "\n"
    ++ gutter ++ "\n"
    ++ toString line ++ " | " ++ String.ofList content ++ "\n"
    ++ gutter ++ spaces (column + 1) ++ String.ofList (List.replicate carets '^') ++ "\n"
    ++ message ++ "\n"

end ChatRelay.Toml
