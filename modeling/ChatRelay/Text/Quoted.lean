import ChatRelay.Text.CharacterClass

/-!
# Quoted texts

A text between double quotes in which every character can be seen: quotes, backslashes and the
common controls have short escapes, and what has no visible form stands as its number in
hexadecimal.
-/

namespace ChatRelay.Text

/-- The digits of a number in hexadecimal, small letters. -/
def hex (n : Nat) : List Char := Nat.toDigits 16 n

def quotedChar (c : Char) : List Char :=
  match c with
  | '"' => ['\\', '"']
  | '\\' => ['\\', '\\']
  | '\n' => ['\\', 'n']
  | '\r' => ['\\', 'r']
  | '\t' => ['\\', 't']
  | '\x00' => ['\\', '0']
  | c =>
    if isUnseen c || isExtending c then ['\\', 'u', '\x7b'] ++ hex c.toNat ++ ['\x7d'] else [c]

def quoted (text : String) : String :=
  String.ofList ('"' :: text.toList.flatMap quotedChar ++ ['"'])

end ChatRelay.Text
