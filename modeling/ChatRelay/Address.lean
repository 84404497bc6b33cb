import ChatRelay.Text.Decimal
import ChatRelay.Text.Digits
import ChatRelay.Text.Parts

/-!
# Addresses

The address of a listener is the number of a machine and a port. `ofText?` reads the strict form of
such an address, in which nothing is looked up; a machine's resolver also knows looser forms.
-/

namespace ChatRelay

/-- The number of a machine: four bytes, or eight groups of two bytes and the scope they are valid
in. -/
inductive IpAddress where
  | v4 (bytes : List Nat)
  | v6 (groups : List Nat) (scope : Nat)
deriving DecidableEq

structure SocketAddress where
  ip : IpAddress
  port : Nat
deriving DecidableEq

namespace IpAddress

open Digits (valueIn)
open Text (parts)

def isUnspecified : IpAddress → Bool
  | .v4 bytes => bytes.all (· == 0)
  | .v6 groups _ => groups.all (· == 0)

def byte? (digits : List Char) : Option Nat :=
  match Decimal.read? digits with
  | some n => if n < 256 then some n else none
  | none => none

def bytes? (text : List Char) : Option (List Nat) :=
  match (parts '.' text).mapM byte? with
  | some bytes => if bytes.length = 4 then some bytes else none
  | none => none

/-- A group of one to four hexadecimal digits. -/
def group? (digits : List Char) : Option Nat :=
  if !digits.isEmpty && digits.length ≤ 4 && digits.all Digits.isHex then some (valueIn 16 digits)
  else none

/-- The groups of a text between colons. The last part may be four bytes, which make two groups. -/
def groupsOf? (bytesAllowed : Bool) : List (List Char) → Option (List Nat)
  | [] => some []
  | [part] => match bytes? part with
    | some [a, b, c, d] => if bytesAllowed then some [256 * a + b, 256 * c + d] else none
    | _ => (group? part).map fun g => [g]
  | part :: rest => do
    let g ← group? part
    let groups ← groupsOf? bytesAllowed rest
    return g :: groups

/-- The groups of a text that may be empty. -/
def side? (bytesAllowed : Bool) (text : List Char) : Option (List Nat) :=
  if text.isEmpty then some [] else groupsOf? bytesAllowed (parts ':' text)

/-- The texts before and behind the first double colon. -/
def atGap? : List Char → Option (List Char × List Char)
  | ':' :: ':' :: rest => some ([], rest)
  | c :: rest => (atGap? rest).map fun (before, behind) => (c :: before, behind)
  | [] => none

/-- Eight groups; a double colon stands for one or more groups of zeros. -/
def groups? (text : List Char) : Option (List Nat) :=
  match atGap? text with
  | none => match side? true text with
    | some groups => if groups.length = 8 then some groups else none
    | none => none
  | some (before, behind) => do
    let head ← side? false before
    let tail ← side? true behind
    if head.length + tail.length ≤ 7 then
      return head ++ List.replicate (8 - head.length - tail.length) 0 ++ tail
    else none

/-- A number of a machine in brackets, with its scope if there is one. -/
def bracketed? (text : List Char) : Option IpAddress :=
  match text with
  | '[' :: rest =>
    if rest.getLast? = some ']' then
      let inner := rest.dropLast
      match parts '%' inner with
      | [plain] => (groups? plain).map fun groups => .v6 groups 0
      | [plain, scope] => do
        let groups ← groups? plain
        if !scope.isEmpty && scope.all Char.isDigit && Decimal.value scope < UInt32.size then
          return .v6 groups (Decimal.value scope)
        else none
      | _ => none
    else none
  | _ => none

/-- A number in decimal, in octal behind a zero, or in hexadecimal behind `0x`. -/
def number? : List Char → Option Nat
  | '0' :: x :: digits =>
    if x = 'x' || x = 'X' then
      if !digits.isEmpty && digits.all Digits.isHex then some (valueIn 16 digits) else none
    else if (x :: digits).all Digits.isOctal then some (valueIn 8 (x :: digits))
    else none
  | digits => Decimal.read? digits

/-- The bytes of a number, the highest first. -/
def bytesOf : Nat → Nat → List Nat
  | 0, _ => []
  | count + 1, n => n / Nat.pow 256 count % 256 :: bytesOf count n

/-- One to four numbers between dots: all but the last are bytes, and the last fills what is left. -/
def loose? (text : List Char) : Option IpAddress :=
  match (parts '.' text).mapM number? with
  | none => none
  | some numbers =>
    let leading := numbers.dropLast
    let count := 4 - leading.length
    match numbers.getLast? with
    | some last =>
      if numbers.length ≤ 4 && leading.all (· < 256) && last < Nat.pow 256 count then
        some (.v4 (leading ++ bytesOf count last))
      else none
    | none => none

/-- The number that a resolver finds for the name of a machine, where it can tell without asking. -/
def resolve? (name : List Char) : Option IpAddress :=
  if name = "localhost".toList then some (.v4 [127, 0, 0, 1])
  else match loose? name with
    | some ip => some ip
    | none => (groups? name).map fun groups => .v6 groups 0

def dotted (bytes : List Nat) : String := ".".intercalate (bytes.map toString)

def colons (groups : List Nat) : String :=
  ":".intercalate (groups.map fun g => String.ofList (Nat.toDigits 16 g))

def zeros (groups : List Nat) : Nat := (groups.takeWhile (· == 0)).length

/-- The first of the longest runs of zeros, as its place and length. -/
def longestGap : Nat → List Nat → Nat × Nat
  | _, [] => (0, 0)
  | place, g :: rest =>
    let here := (place, zeros (g :: rest))
    let later := longestGap (place + 1) rest
    if later.2 ≤ here.2 then here else later

def groupsText (groups : List Nat) : String :=
  match groups with
  | [0, 0, 0, 0, 0, 0xffff, a, b] =>
    "::ffff:" ++ dotted [a / 256, a % 256, b / 256, b % 256]
  | _ =>
    let (place, length) := longestGap 0 groups
    if 1 < length then colons (groups.take place) ++ "::" ++ colons (groups.drop (place + length))
    else colons groups

end IpAddress

namespace SocketAddress

def atLastColon? (text : List Char) : Option (List Char × List Char) :=
  let behind := (text.reverse.takeWhile (· != ':')).reverse
  match text.reverse.drop behind.length with
  | _ :: before => some (before.reverse, behind)
  | [] => none

def port? (digits : List Char) : Option Nat :=
  match Decimal.read? digits with
  | some n => if n < UInt16.size then some n else none
  | none => none

/-- Reads an address in its strict form. -/
def ofText? (text : String) : Option SocketAddress := do
  let (host, digits) ← atLastColon? text.toList
  let port ← port? digits
  match IpAddress.bytes? host with
  | some bytes => return ⟨.v4 bytes, port⟩
  | none => return ⟨← IpAddress.bracketed? host, port⟩

/-- Reads an address in its strict form, or asks the resolver. -/
def resolve? (text : String) : Option SocketAddress :=
  match ofText? text with
  | some address => some address
  | none => do
    let (host, digits) ← atLastColon? text.toList
    return ⟨← IpAddress.resolve? host, ← port? digits⟩

def text (a : SocketAddress) : String :=
  match a.ip with
  | .v4 bytes => IpAddress.dotted bytes ++ ":" ++ toString a.port
  | .v6 groups 0 => "[" ++ IpAddress.groupsText groups ++ "]:" ++ toString a.port
  | .v6 groups scope =>
    "[" ++ IpAddress.groupsText groups ++ "%" ++ toString scope ++ "]:" ++ toString a.port

def collides (a b : SocketAddress) : Bool :=
  a.port == b.port && (a.ip == b.ip || a.ip.isUnspecified || b.ip.isUnspecified)

end SocketAddress

end ChatRelay
