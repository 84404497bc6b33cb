/-!
# Decimal numerals

Natural numbers as they stand in JSON texts, log lines and metric samples: digits only, and no
zero in front of another digit.
-/

namespace ChatRelay.Decimal

/-- The value of a row of digits, most significant digit first. -/
def value (digits : List Char) : Nat :=
  digits.foldl (fun n c => 10 * n + (c.toNat - '0'.toNat)) 0

/-- Reads a whole row of characters as a numeral without leading zeros. -/
def read? : List Char → Option Nat
  | [] => none
  | ['0'] => some 0
  | '0' :: _ => none
  | digits => if digits.all Char.isDigit then some (value digits) else none

end ChatRelay.Decimal
