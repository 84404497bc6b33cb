import ChatRelay.Binary64.Basic

/-!
# The shortest decimal

The text of a number has the fewest digits that read back as that number, and of the texts with so
few digits the one nearest to it. It is always positional: there is never an exponent.
-/

namespace ChatRelay.Binary64

/-- A positive rational number, and the ends of the interval of rationals that round to it, over
one denominator. The ends belong to the interval when `closed` holds. -/
structure Neighbourhood where
  low : Nat
  value : Nat
  high : Nat
  den : Nat
  closed : Bool

/-- The rationals that round to `m * 2 ^ e`. The gap below a power of two is half the gap above. -/
def neighbourhood (m : Nat) (e : Int) : Neighbourhood :=
  let below := if m = Nat.pow 2 52 ∧ -1074 < e then 1 else 2
  let (factor, den) := match e - 2 with
    | .ofNat k => (Nat.pow 2 k, 1)
    | .negSucc k => (1, Nat.pow 2 (k + 1))
  { low := (4 * m - below) * factor
    value := 4 * m * factor
    high := (4 * m + 2) * factor
    den := den
    closed := m % 2 = 0 }

/-- Whether `d * 10 ^ p` lies in the interval. -/
def Neighbourhood.holds (n : Neighbourhood) (d : Nat) (p : Int) : Bool :=
  let (x, den) := match p with
    | .ofNat k => (d * Nat.pow 10 k * n.den, 1)
    | .negSucc k => (d * n.den, Nat.pow 10 (k + 1))
  if n.closed then decide (n.low * den ≤ x) && decide (x ≤ n.high * den)
  else decide (n.low * den < x) && decide (x < n.high * den)

def Neighbourhood.inUnits (n : Neighbourhood) : Int → Nat × Nat
  | .ofNat k => (n.value, n.den * Nat.pow 10 k)
  | .negSucc k => (n.value * Nat.pow 10 (k + 1), n.den)

/-- The multiple of `10 ^ p` in the interval that is nearest to the value, if there is one beside
the value. -/
def Neighbourhood.nearest? (n : Neighbourhood) (p : Int) : Option Nat :=
  let (num, den) := n.inUnits p
  let d := num / den
  match n.holds d p, n.holds (d + 1) p with
  | true, true => some (if 2 * (num % den) ≤ den then d else d + 1)
  | true, false => some d
  | false, true => some (d + 1)
  | false, false => none

/-- The number of places that a quotient below one has to be moved to reach one, at most `fuel`. -/
def leadingPlaces : Nat → Nat → Nat → Nat
  | 0, _, _ => 0
  | fuel + 1, num, den => if den ≤ num then 0 else leadingPlaces fuel (10 * num) den + 1

/-- The count of digits before the point; zero or negative for numbers below one. -/
def Neighbourhood.integerDigits (n : Neighbourhood) : Int :=
  if n.den ≤ n.value then ((toString (n.value / n.den)).length : Int)
  else 1 - (leadingPlaces 400 n.value n.den : Int)

/-- Tries ever finer decimal grids, from `count` digits on; the last try has 17 digits, which always
suffice. -/
def Neighbourhood.search (n : Neighbourhood) (integerDigits : Int) : Nat → Nat → Nat × Int
  | 0, count =>
    let p := integerDigits - count
    ((n.nearest? p).getD (n.value / n.den), p)
  | fuel + 1, count =>
    let p := integerDigits - count
    match n.nearest? p with
    | some d => (d, p)
    | none => n.search integerDigits fuel (count + 1)

/-- Moves a last zero digit into the power of ten. Only the number above a row of nines has one:
on the first grid, whose multiples otherwise have one digit. -/
def dropZero : Nat × Int → Nat × Int
  | (d, p) => if d % 10 = 0 then (d / 10, p + 1) else (d, p)

/-- Digits and power of ten of the shortest decimal that reads back. -/
def shortest (m : Nat) (e : Int) : Nat × Int :=
  let n := neighbourhood m e
  dropZero (n.search n.integerDigits 16 1)

def zeros (n : Nat) : String := String.ofList (List.replicate n '0')

def positional (d : Nat) : Int → String
  | .ofNat k => toString d ++ zeros k
  | .negSucc k =>
    let digits := (toString d).toList
    let places := k + 1
    if places < digits.length then
      String.ofList (digits.take (digits.length - places)) ++ "."
        ++ String.ofList (digits.drop (digits.length - places))
    else "0." ++ zeros (places - digits.length) ++ String.ofList digits

/-- The text of a significand at an exponent. An integer up to `2 ^ 53` is its own shortest
decimal. -/
def magnitudeText (m : Nat) (e : Int) : String :=
  match magnitude? m e with
  | some n =>
    if n ≤ Nat.pow 2 53 then toString n
    else let (d, p) := shortest m e; positional d p
  | none => let (d, p) := shortest m e; positional d p

def text : Binary64 → String
  | .nan => "NaN"
  | .infinite false => "inf"
  | .infinite true => "-inf"
  | .finite negative m e => (if negative then "-" else "") ++ magnitudeText m e

end ChatRelay.Binary64
