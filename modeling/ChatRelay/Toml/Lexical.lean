import ChatRelay.Text.Digits
import ChatRelay.Toml.Node

/-!
# Lexical elements of documents

Blanks, comments, line ends, keys and strings. A reader takes the characters still to come and
yields what it read together with the rest; no element is returned where the text is no document.
-/

namespace ChatRelay.Toml

/-- A reader of the characters still to come. -/
abbrev Reader (α : Type) := List Char → Option (α × List Char)

def isBlank (c : Char) : Bool := c == ' ' || c == '\t'

def skipBlanks (cs : List Char) : List Char := cs.dropWhile isBlank

def isCommentChar (c : Char) : Bool :=
  c == '\t' || (decide (0x20 ≤ c.toNat) && c.toNat != 0x7f)

def newline? : List Char → Option (List Char)
  | '\n' :: rest => some rest
  | '\r' :: '\n' :: rest => some rest
  | _ => none

def skipComment : List Char → List Char
  | '#' :: rest => rest.dropWhile isCommentChar
  | cs => cs

/-- The rest behind the end of a line: blanks, perhaps a comment, and a newline or the end. -/
def lineEnd? (cs : List Char) : Option (List Char) :=
  match skipComment (skipBlanks cs) with
  | [] => some []
  | rest => newline? rest

def skipLines : Nat → List Char → List Char
  | 0, cs => cs
  | fuel + 1, cs =>
    let rest := skipComment (skipBlanks cs)
    match newline? rest with
    | some rest => skipLines fuel rest
    | none => rest

/-- What may stand unescaped in a string: no controls but the tab. -/
def isStringChar (c : Char) : Bool := isCommentChar c

/-- The character with a number given in hexadecimal digits; surrogates are no characters. -/
def scalar? (digits : List Char) : Option Char := do
  let n ← digits.foldlM (fun n c => (Digits.hexValue? c).map fun d => 16 * n + d) 0
  if h : n.isValidChar then some (Char.ofNatAux n h) else none

/-- The character that an escape stands for, behind its backslash. -/
def escaped? : Reader Char
  | 'b' :: rest => some ('\x08', rest)
  | 'f' :: rest => some ('\x0c', rest)
  | 'n' :: rest => some ('\n', rest)
  | 'r' :: rest => some ('\r', rest)
  | 't' :: rest => some ('\t', rest)
  | '"' :: rest => some ('"', rest)
  | '\\' :: rest => some ('\\', rest)
  | 'u' :: a :: b :: c :: d :: rest => (scalar? [a, b, c, d]).map fun x => (x, rest)
  | 'U' :: a :: b :: c :: d :: e :: f :: g :: h :: rest =>
    (scalar? [a, b, c, d, e, f, g, h]).map fun x => (x, rest)
  | _ => none

/-- The inside of a string in double quotes on one line, up to and with its closing quote. -/
def basicBody : Nat → Reader (List Char)
  | 0, _ => none
  | fuel + 1, cs => match cs with
    | '"' :: rest => some ([], rest)
    | '\\' :: rest => do
      let (c, rest) ← escaped? rest
      let (body, rest) ← basicBody fuel rest
      some (c :: body, rest)
    | c :: rest =>
      if isStringChar c then do
        let (body, rest) ← basicBody fuel rest
        some (c :: body, rest)
      else none
    | [] => none

def literalBody : Reader (List Char)
  | '\'' :: rest => some ([], rest)
  | c :: rest =>
    if isStringChar c then (literalBody rest).map fun (body, rest) => (c :: body, rest) else none
  | [] => none

/-- Behind a backslash at the end of a line: the rest without the blanks and newlines that follow,
of which at least one newline is needed. -/
def continuation? (cs : List Char) : Option (List Char) :=
  (newline? (skipBlanks cs)).map fun rest =>
    rest.dropWhile fun c => isBlank c || c == '\n' || c == '\r'

/-- Whether carriage returns stand only in front of line feeds in the blanks and newlines at the
start. -/
def blankRunIsSound : List Char → Bool
  | '\r' :: '\n' :: rest => blankRunIsSound rest
  | '\r' :: _ => false
  | c :: rest => if isBlank c || c == '\n' then blankRunIsSound rest else true
  | [] => true

/-- The quotes at the end of a string over several lines: three close it, and up to two more in
front of these belong to the text. -/
def closing? (quote : Char) (cs : List Char) : Option (List Char × List Char) :=
  let run := (cs.takeWhile (· == quote)).length
  if run < 3 then none
  else
    let taken := min run 5
    some (List.replicate (taken - 3) quote, cs.drop taken)

/-- The inside of a string over several lines in double quotes. -/
def basicLines : Nat → Reader (List Char)
  | 0, _ => none
  | fuel + 1, cs =>
    match closing? '"' cs with
    | some done => some done
    | none => match cs with
      | '\\' :: rest =>
        match continuation? rest with
        | some next => if blankRunIsSound rest then basicLines fuel next else none
        | none => do
          let (c, rest) ← escaped? rest
          let (body, rest) ← basicLines fuel rest
          some (c :: body, rest)
      | c :: rest =>
        match newline? cs with
        | some next => (basicLines fuel next).map fun (body, rest) => ('\n' :: body, rest)
        | none =>
          if isStringChar c then
            (basicLines fuel rest).map fun (body, rest) => (c :: body, rest)
          else none
      | [] => none

def literalLines : Nat → Reader (List Char)
  | 0, _ => none
  | fuel + 1, cs =>
    match closing? '\'' cs with
    | some done => some done
    | none => match newline? cs with
      | some next => (literalLines fuel next).map fun (body, rest) => ('\n' :: body, rest)
      | none => match cs with
        | c :: rest =>
          if isStringChar c then
            (literalLines fuel rest).map fun (body, rest) => (c :: body, rest)
          else none
        | [] => none

/-- The rest without a newline at its very start. -/
def dropNewline (cs : List Char) : List Char := (newline? cs).getD cs

/-- A string of any of the four kinds. -/
def string? (cs : List Char) : Option (String × List Char) :=
  let text := fun (r : List Char × List Char) => (String.ofList r.1, r.2)
  match cs with
  | '"' :: '"' :: '"' :: rest => (basicLines (rest.length + 1) (dropNewline rest)).map text
  | '\'' :: '\'' :: '\'' :: rest => (literalLines (rest.length + 1) (dropNewline rest)).map text
  | '"' :: rest => (basicBody (rest.length + 1) rest).map text
  | '\'' :: rest => (literalBody rest).map text
  | _ => none

def isBareKeyChar (c : Char) : Bool :=
  (decide (c.toNat < 0x80) && c.isAlphanum) || c == '-' || c == '_'

/-- One part of a key: bare, or in quotes on one line. -/
def keyPart? (cs : List Char) : Option (Key × List Char) :=
  let place := fun (r : List Char × List Char) =>
    ((⟨String.ofList r.1, cs.length, r.2.length⟩ : Key), r.2)
  match cs with
  | '"' :: rest => (basicBody (rest.length + 1) rest).map place
  | '\'' :: rest => (literalBody rest).map place
  | _ =>
    let bare := cs.takeWhile isBareKeyChar
    if bare.isEmpty then none else some (place (bare, cs.drop bare.length))

/-- The parts of a key between points, with blanks around each. -/
def keyParts : Nat → Reader (List Key)
  | 0, _ => none
  | fuel + 1, cs => do
    let (key, rest) ← keyPart? (skipBlanks cs)
    match skipBlanks rest with
    | '.' :: rest => do
      let (keys, rest) ← keyParts fuel rest
      some (key :: keys, rest)
    | rest => some ([key], rest)

/-- The number of levels that a document may have. -/
def maxDepth : Nat := 80

/-- A key with fewer parts than there may be levels. -/
def key? (cs : List Char) : Option (List Key × List Char) := do
  let (keys, rest) ← keyParts (cs.length + 1) cs
  if keys.length < maxDepth then some (keys, rest) else none

end ChatRelay.Toml
