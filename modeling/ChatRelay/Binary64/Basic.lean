/-!
# Binary floating point

Numbers of 64 bits with a significand of 53 bits, as exact values: a finite number is a natural
significand times a power of two. Every result is rounded to the nearest number, and of two equally
near ones to the one with the even significand. Nothing here uses the machine's own arithmetic.
-/

namespace ChatRelay

/-- A finite number has the value `significand * 2 ^ exponent`, with the sign as given. It is held
with the largest significand below `2 ^ 53` that the exponent, at least `-1074`, permits. -/
inductive Binary64 where
  | nan
  | infinite (negative : Bool)
  | finite (negative : Bool) (significand : Nat) (exponent : Int)
deriving DecidableEq

namespace Binary64

def zero : Binary64 := .finite false 0 (-1074)

/-- The natural number nearest to a quotient; a half goes to the even neighbour. -/
def roundQuotient (num den : Nat) : Nat :=
  let q := num / den
  let r := num % den
  if 2 * r < den then q else if den < 2 * r then q + 1 else q + q % 2

/-- Numerator and denominator of `num / den / 2 ^ e`. -/
def scaled (num den : Nat) : Int → Nat × Nat
  | .ofNat k => (num, den * Nat.pow 2 k)
  | .negSucc k => (num * Nat.pow 2 (k + 1), den)

/-- The exponent at which a positive quotient has a significand of 53 bits, or `-1074` for smaller
quotients. -/
def exponentOf (num den : Nat) : Int :=
  let guess : Int := (num.log2 : Int) - (den.log2 : Int)
  let (n, d) := scaled num den guess
  max (-1074) ((if n < d then guess - 1 else guess) - 52)

/-- The number nearest to `num / den`. -/
def ofQuotient (negative : Bool) (num den : Nat) : Binary64 :=
  if num = 0 then .finite negative 0 (-1074)
  else
    let e := exponentOf num den
    let (n, d) := scaled num den e
    let m := roundQuotient n d
    let (m, e) := if m = Nat.pow 2 53 then (Nat.pow 2 52, e + 1) else (m, e)
    if 971 < e then .infinite negative else .finite negative m e

def ofNat (n : Nat) : Binary64 := ofQuotient false n 1

def ofInt (n : Int) : Binary64 := ofQuotient (decide (n < 0)) n.natAbs 1

/-- The number nearest to `m * 10 ^ e`. What has its first digit more than four hundred places from
the point is out of range on either side. -/
def ofScientific (negative : Bool) (m : Nat) (e : Int) : Binary64 :=
  let size : Int := ((toString m).length : Int) + e
  if m = 0 ∨ size < -400 then .finite negative 0 (-1074)
  else if 400 < size then .infinite negative
  else match e with
    | .ofNat k => ofQuotient negative (m * Nat.pow 10 k) 1
    | .negSucc k => ofQuotient negative m (Nat.pow 10 (k + 1))

def ofDecimal (mantissa : Int) (places : Nat) : Binary64 :=
  ofScientific (decide (mantissa < 0)) mantissa.natAbs (-(places : Int))

/-- A significand with its sign, at an exponent not above its own. -/
def aligned (negative : Bool) (m : Nat) (e least : Int) : Int :=
  let n : Int := m * Nat.pow 2 (e - least).toNat
  if negative then -n else n

/-- The number nearest to the exact value `n * 2 ^ e`. -/
def ofScaled (negativeZero : Bool) (n : Int) (e : Int) : Binary64 :=
  if n = 0 then .finite negativeZero 0 (-1074)
  else match e with
    | .ofNat k => ofQuotient (decide (n < 0)) (n.natAbs * Nat.pow 2 k) 1
    | .negSucc k => ofQuotient (decide (n < 0)) n.natAbs (Nat.pow 2 (k + 1))

def add : Binary64 → Binary64 → Binary64
  | .nan, _ => .nan
  | _, .nan => .nan
  | .infinite s, .infinite t => if s = t then .infinite s else .nan
  | .infinite s, .finite .. => .infinite s
  | .finite .., .infinite t => .infinite t
  | .finite s m e, .finite t n f =>
    let least := min e f
    ofScaled (s && t) (aligned s m e least + aligned t n f least) least

instance : Add Binary64 := ⟨add⟩

/-- The order of numbers; nothing is in order with what is not a number. -/
def le : Binary64 → Binary64 → Bool
  | .nan, _ => false
  | _, .nan => false
  | .infinite s, .infinite t => s || !t
  | .infinite s, .finite .. => s
  | .finite .., .infinite t => !t
  | .finite s m e, .finite t n f =>
    let least := min e f
    decide (aligned s m e least ≤ aligned t n f least)

/-- The value as a natural number, if it is one when the sign is dropped. -/
def magnitude? (m : Nat) : Int → Option Nat
  | .ofNat k => some (m * Nat.pow 2 k)
  | .negSucc k => if m % Nat.pow 2 (k + 1) = 0 then some (m / Nat.pow 2 (k + 1)) else none

/-- The value with its fraction dropped, or the nearest end of the signed range of 64 bits. -/
def truncate : Binary64 → Int
  | .nan => 0
  | .infinite true => -Nat.pow 2 63
  | .infinite false => Nat.pow 2 63 - 1
  | .finite negative m e =>
    let n : Int := match e with
      | .ofNat k => m * Nat.pow 2 k
      | .negSucc k => m / Nat.pow 2 (k + 1)
    max (-Nat.pow 2 63) (min (Nat.pow 2 63 - 1) (if negative then -n else n))

end Binary64

end ChatRelay
