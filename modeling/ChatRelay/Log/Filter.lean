import ChatRelay.Log.Level

/-!
# Log filters

A filter is a list of directives between commas. A directive names a target, a limit, or both; it
applies to every target that begins with its own. The directive with the longest target decides.
-/

namespace ChatRelay.Log

/-- A limit of `none` lets nothing through. -/
structure Directive where
  target : String
  limit : Option Level
deriving DecidableEq

/-- The directives, none of them for the same target as another. -/
abbrev Filter := List Directive

namespace Filter

def lower (text : String) : String := text.map Char.toLower

/-- Reads a limit: the name of a level in any case, `off`, or a digit from zero to five. -/
def limit? (text : String) : Option (Option Level) :=
  match lower text with
  | "off" | "0" => some none
  | "error" | "1" => some (some .error)
  | "warn" | "2" => some (some .warn)
  | "info" | "3" => some (some .info)
  | "debug" | "4" => some (some .debug)
  | "trace" | "5" => some (some .trace)
  | _ => none

/-- Reads one directive that is not empty. A target alone gets everything; a limit alone, also
behind a bare equals sign, holds for every target. -/
def directive? (text : String) : Option Directive :=
  let chars := text.toList
  let target := String.ofList (chars.takeWhile (· != '='))
  match chars.dropWhile (· != '=') with
  | [] => match limit? text with
    | some limit => some ⟨"", limit⟩
    | none => some ⟨text, some .trace⟩
  | _ :: limit =>
    if limit.isEmpty then if target.isEmpty then none else some ⟨target, some .trace⟩
    else (limit? (String.ofList limit)).map fun limit => ⟨target, limit⟩

/-- Adds a directive in place of an earlier one for the same target. -/
def add (filter : Filter) (d : Directive) : Filter :=
  filter.filter (fun old => old.target != d.target) ++ [d]

/-- Reads a filter; one faulty directive spoils it. -/
def ofText? (text : String) : Option Filter :=
  ((text.splitOn ",").filter fun part => !part.isEmpty).foldl
    (fun filter part => do
      let filter ← filter
      let d ← directive? part
      pure (filter.add d))
    (some [])

def applying (filter : Filter) (target : String) : List Directive :=
  filter.filter fun d => d.target.toList.isPrefixOf target.toList

/-- The applying directive with the longest target. -/
def deciding? (filter : Filter) (target : String) : Option Directive :=
  (filter.applying target).foldl
    (fun best d => match best with
      | none => some d
      | some b => if b.target.length < d.target.length then some d else some b)
    none

/-- Whether a line of this level and target comes out. -/
def lets (filter : Filter) (level : Level) (target : String) : Bool :=
  match filter.deciding? target with
  | some ⟨_, some limit⟩ => decide (level.verbosity ≤ limit.verbosity)
  | _ => false

end Filter

end ChatRelay.Log
