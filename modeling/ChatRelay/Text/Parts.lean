/-!
# Parts of texts

Texts taken apart at a mark, and texts without the blanks around them.
-/

namespace ChatRelay.Text

/-- The parts of a text between its marks; there is always one part more than marks. -/
def parts (mark : Char) : List Char → List (List Char)
  | [] => [[]]
  | c :: rest =>
    if c = mark then [] :: parts mark rest
    else match parts mark rest with
      | [] => [[c]]
      | part :: more => (c :: part) :: more

/-- A text without the blanks at its start and end. -/
def trim (isBlank : Char → Bool) (text : List Char) : List Char :=
  ((text.dropWhile isBlank).reverse.dropWhile isBlank).reverse

end ChatRelay.Text
