/-!
# Durations

Lengths of time are counted in whole milliseconds. The text of a duration uses the largest unit
that leaves a nonzero whole part, and a fraction without trailing zeros.
-/

namespace ChatRelay.Duration

def seconds (n : Nat) : Nat := 1000 * n

/-- The digits of a fraction of a second in thousandths, without trailing zeros. -/
def fraction (millis : Nat) : List Char :=
  let digits := [millis / 100 % 10, millis / 10 % 10, millis % 10]
  ((digits.reverse.dropWhile (· == 0)).reverse).map fun d => Char.ofNat ('0'.toNat + d)

/-- The text of a duration: `2s`, `1.5s`, `500ms`, and `0ns` for none at all. -/
def text (millis : Nat) : String :=
  if 1000 ≤ millis then
    let whole := toString (millis / 1000)
    match fraction (millis % 1000) with
    | [] => whole ++ "s"
    | digits => whole ++ "." ++ String.ofList digits ++ "s"
  else if 0 < millis then toString millis ++ "ms"
  else "0ns"

end ChatRelay.Duration
