import ChatRelay.Toml.Lexical

/-!
# Numbers and dates

Integers in four bases, floating-point numbers, and dates and times. Of a date only that it is one
matters here; its value is not kept.
-/

namespace ChatRelay.Toml

open Digits (valueIn)

/-- The digits after the first of a row, where a single underscore may stand between two digits. -/
def moreDigits (isDigit : Char → Bool) : Reader (List Char)
  | '_' :: c :: rest =>
    if isDigit c then (moreDigits isDigit rest).map fun (ds, rest) => (c :: ds, rest) else none
  | '_' :: [] => none
  | c :: rest =>
    if isDigit c then (moreDigits isDigit rest).map fun (ds, rest) => (c :: ds, rest)
    else some ([], c :: rest)
  | [] => some ([], [])

def digits? (isDigit : Char → Bool) : Reader (List Char)
  | c :: rest =>
    if isDigit c then (moreDigits isDigit rest).map fun (ds, rest) => (c :: ds, rest) else none
  | [] => none

/-- A decimal integer without its sign: no zero stands in front of another digit. -/
def decimal? : Reader (List Char)
  | '0' :: rest => some (['0'], rest)
  | cs => digits? Char.isDigit cs

/-- The integers that a document can hold. -/
def inRange (n : Int) : Bool := decide (-(Nat.pow 2 63 : Int) ≤ n) && decide (n < Nat.pow 2 63)

/-- Whether a minus sign stands here, and the rest behind the sign if there is one. -/
def sign : List Char → Bool × List Char
  | '+' :: rest => (false, rest)
  | '-' :: rest => (true, rest)
  | cs => (false, cs)

def exponent? (cs : List Char) : Option (Int × List Char) := do
  let (negative, rest) := sign cs
  let (ds, rest) ← digits? Char.isDigit rest
  let n : Int := valueIn 10 ds
  some (if negative then -n else n, rest)

inductive Numeral where
  | integer (n : Int)
  | float (x : Binary64)

/-- A floating-point number; too large a positive one is none. -/
def checkedFloat (x : Binary64) (rest : List Char) : Option (Numeral × List Char) :=
  if x = .infinite false then none else some (.float x, rest)

/-- What follows the integer part: a fraction, an exponent, both, or neither. -/
def afterInteger (negative : Bool) (whole : List Char) (cs : List Char) :
    Option (Numeral × List Char) :=
  match cs with
  | '.' :: rest => do
    let (part, rest) ← digits? Char.isDigit rest
    let m := valueIn 10 (whole ++ part)
    match rest with
    | 'e' :: rest | 'E' :: rest => do
      let (e, rest) ← exponent? rest
      checkedFloat (.ofScientific negative m (e - part.length)) rest
    | rest => checkedFloat (.ofScientific negative m (-(part.length : Int))) rest
  | 'e' :: rest | 'E' :: rest => do
    let (e, rest) ← exponent? rest
    checkedFloat (.ofScientific negative (valueIn 10 whole) e) rest
  | rest =>
    let n : Int := valueIn 10 whole
    let n := if negative then -n else n
    if inRange n then some (.integer n, rest) else none

def based? (base : Nat) (isDigit : Char → Bool) (cs : List Char) :
    Option (Numeral × List Char) := do
  let (ds, rest) ← digits? isDigit cs
  let n : Int := valueIn base ds
  if inRange n then some (.integer n, rest) else none

def numeral? (cs : List Char) : Option (Numeral × List Char) :=
  match cs with
  | '0' :: 'x' :: rest => based? 16 Digits.isHex rest
  | '0' :: 'o' :: rest => based? 8 Digits.isOctal rest
  | '0' :: 'b' :: rest => based? 2 (fun c => c == '0' || c == '1') rest
  | _ =>
    let (negative, rest) := sign cs
    match rest with
    | 'i' :: 'n' :: 'f' :: rest => some (.float (.infinite negative), rest)
    | 'n' :: 'a' :: 'n' :: rest => some (.float .nan, rest)
    | rest => do
      let (whole, rest) ← decimal? rest
      afterInteger negative whole rest

def two? : Reader Nat
  | a :: b :: rest => if a.isDigit && b.isDigit then some (valueIn 10 [a, b], rest) else none
  | _ => none

def daysIn (year month : Nat) : Nat :=
  if month = 2 then
    if year % 4 = 0 ∧ (year % 100 ≠ 0 ∨ year % 400 = 0) then 29 else 28
  else if month = 4 ∨ month = 6 ∨ month = 9 ∨ month = 11 then 30
  else 31

/-- Month and day behind the year and its dash. -/
def monthDay? (year : Nat) (cs : List Char) : Option (List Char) := do
  let (month, rest) ← two? cs
  match rest with
  | '-' :: rest => do
    let (day, rest) ← two? rest
    if 1 ≤ month ∧ month ≤ 12 ∧ 1 ≤ day ∧ day ≤ daysIn year month then some rest else none
  | _ => none

/-- Minutes and seconds behind the hour and its colon. -/
def minuteSecond? (hour : Nat) (cs : List Char) : Option (List Char) := do
  let (minute, rest) ← two? cs
  match rest with
  | ':' :: rest => do
    let (second, rest) ← two? rest
    if hour ≤ 23 ∧ minute ≤ 59 ∧ second ≤ 60 then
      match rest with
      | '.' :: c :: rest => if c.isDigit then some (rest.dropWhile Char.isDigit) else none
      | rest => some rest
    else none
  | _ => none

/-- A time from the start of its hour; `none` inside where no time begins here. -/
def time? (cs : List Char) : Option (Option (List Char)) :=
  match two? cs with
  | some (hour, ':' :: rest) => (minuteSecond? hour rest).map some
  | _ => some none

/-- The rest behind a distance from universal time, if there is one. -/
def zone? (cs : List Char) : Option (List Char) :=
  match cs with
  | 'Z' :: rest | 'z' :: rest => some rest
  | '+' :: rest | '-' :: rest => do
    let (hour, rest) ← two? rest
    match rest with
    | ':' :: rest => do
      let (minute, rest) ← two? rest
      if hour ≤ 23 ∧ minute ≤ 59 then some rest else none
    | _ => none
  | rest => some rest

/-- The rest behind the time of a day that may follow a date. -/
def timeOfDay? (cs : List Char) : Option (List Char) :=
  match cs with
  | c :: rest =>
    if c == 'T' || c == 't' || c == ' ' then
      match time? rest with
      | some (some rest) => zone? rest
      | some none => some cs
      | none => none
    else some cs
  | [] => some []

/-- A date or time; `none` inside where neither begins here, so that a number may. -/
def datetime? (cs : List Char) : Option (Option (List Char)) :=
  match cs with
  | a :: b :: c :: d :: '-' :: rest =>
    if [a, b, c, d].all Char.isDigit then
      match monthDay? (valueIn 10 [a, b, c, d]) rest with
      | some rest => (timeOfDay? rest).map some
      | none => none
    else some none
  | _ => time? cs

end ChatRelay.Toml
