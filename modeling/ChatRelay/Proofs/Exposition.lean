import ChatRelay.Metrics.Exposition
import ChatRelay.Proofs.Text
import ChatRelay.Proofs.Toml.Spelling
import ChatRelay.Text.Decimal
import Mathlib.Data.List.Forall2

/-!
# Reading the meters

How a scraper reads the text in which the meters are exposed: line by line, each value as an
integer. It finds the families that were written, in their order, as long as the names are plain
and each value is written as an integer.
-/

namespace ChatRelay

namespace Decimal

open Toml (spellNatural)

theorem value_spellNatural (n : Nat) : value (spellNatural n) = n := by
  rw [value, Toml.spellNatural_eq, ← Nat.ofDigitChars_eq_foldl]
  exact Nat.ofDigitChars_ten_toDigits

/-- A number is read as it is written. -/
theorem read?_toString (n : Nat) : read? (toString n).toList = some n := by
  change read? (spellNatural n) = some n
  have digits := Toml.spellNatural_digits n
  rcases Toml.spellNatural_cases n with ⟨rfl, zero⟩ | ⟨c, ds, spelt, other⟩
  · rw [zero]
    rfl
  · have all : (spellNatural n).all Char.isDigit = true := List.all_eq_true.mpr digits
    have same := value_spellNatural n
    rw [spelt] at all same ⊢
    rw [read?, if_pos all, same]
    · simp
    · exact fun same => other (List.cons.inj same).1
    · exact fun tail same => other (List.cons.inj same).1

end Decimal

namespace Exposition

structure Point where
  name : String
  bound : Option String := none
  value : Int
deriving DecidableEq

structure Group where
  name : String
  help : String
  kind : Kind
  points : List Point
deriving DecidableEq

inductive Line where
  | help (name text : String)
  | kind (name : String) (kind : Kind)
  | sample (point : Point)

def kind? (cs : List Char) : Option Kind :=
  [Kind.gauge, .counter, .histogram].find? fun kind => kind.text.toList == cs

def value? : List Char → Option Int
  | '-' :: digits => (Decimal.read? digits).map fun n => -(n : Int)
  | digits => (Decimal.read? digits).map fun n => (n : Int)

/-- The name of a sample, and the bound that it may have between braces. -/
def label? (cs : List Char) : Option (String × Option String) :=
  match Text.parts '\x7b' cs with
  | [name] => some (.ofList name, none)
  | [name, label] => match Text.parts '"' label with
    | [['l', 'e', '='], bound, ['\x7d']] => some (.ofList name, some (.ofList bound))
    | _ => none
  | _ => none

def line? (cs : List Char) : Option Line :=
  match Text.parts ' ' cs with
  | ['#'] :: command :: name :: words =>
    let rest := [' '].intercalate words
    if command = "HELP".toList then some (.help (.ofList name) (.ofList rest))
    else if command = "TYPE".toList then (kind? rest).map fun kind => .kind (.ofList name) kind
    else none
  | [label, value] => do
    let (name, bound) ← label? label
    let value ← value? value
    some (.sample { name, bound, value })
  | _ => none

/-- The samples at the start, and the families behind them. A family begins with its help and its
kind. -/
def collect : List Line → Option (List Point × List Group)
  | [] => some ([], [])
  | .sample point :: rest => do
    let (points, groups) ← collect rest
    some (point :: points, groups)
  | .help name help :: .kind name' kind :: rest => do
    let (points, groups) ← collect rest
    if name = name' then some ([], { name, help, kind, points } :: groups) else none
  | _ => none

/-- The families of a text, if every sample belongs to one. Empty lines mean nothing. -/
def read? (text : String) : Option (List Group) := do
  let lines ← ((Text.parts '\n' text.toList).filter fun line => !line.isEmpty).mapM line?
  match ← collect lines with
  | ([], groups) => some groups
  | _ => none

theorem toString_digits (n : Nat) : ∀ c ∈ (toString n).toList, c.isDigit = true :=
  Toml.spellNatural_digits n

theorem toList_negSucc (n : Nat) :
    (toString (Int.negSucc n)).toList = '-' :: (toString (n + 1)).toList :=
  String.toList_append

/-- An integer is read as it is written. -/
theorem value?_toString (z : Int) : value? (toString z).toList = some z := by
  cases z with
  | ofNat n =>
    change value? (toString n).toList = some (Int.ofNat n)
    rw [value?, Decimal.read?_toString]
    · rfl
    · intro digits same
      have sign := toString_digits n '-' (same ▸ List.mem_cons_self)
      cases sign
  | negSucc n =>
    rw [toList_negSucc, value?, Decimal.read?_toString]
    rfl

theorem value_unmarked (z : Int) {mark : Char} (other : mark.isDigit = false) (sign : mark ≠ '-') :
    mark ∉ (toString z).toList := by
  have unmarked (n : Nat) : mark ∉ (toString n).toList := by
    intro here
    rw [toString_digits n mark here] at other
    cases other
  cases z with
  | ofNat n => exact unmarked n
  | negSucc n =>
    rw [toList_negSucc, List.mem_cons, not_or]
    exact ⟨sign, unmarked (n + 1)⟩

/-- A word without the marks that part a line. -/
def IsPlain (word : String) : Prop := ∀ mark ∈ [' ', '\n', '"', '\x7b'], mark ∉ word.toList

instance (word : String) : Decidable (IsPlain word) := List.decidableBAll _ _

def IsLine (text : String) (line : Line) : Prop :=
  ∃ cs, text.toList = cs ++ ['\n'] ∧ '\n' ∉ cs ∧ cs ≠ [] ∧ line? cs = some line

theorem read_lines {texts : List String} {lines : List Line}
    (read : List.Forall₂ IsLine texts lines) :
    ((Text.parts '\n' (texts.flatMap String.toList)).filter fun line => !line.isEmpty).mapM line? =
      some lines := by
  induction read with
  | nil => rfl
  | @cons text line texts lines first _ ih =>
    obtain ⟨cs, same, unmarked, some, read⟩ := first
    have shown : (!cs.isEmpty) = true := by simpa using some
    rw [List.flatMap_cons, same, List.append_assoc, List.singleton_append,
      Text.parts_append unmarked, List.filter_cons, if_pos shown, List.mapM_cons, read, ih]
    rfl

/-- What is read of a sample: its names, and its value if that is written as an integer. -/
structure Sample.Tells (s : Sample) (p : Point) : Prop where
  name : p.name = s.name
  bound : p.bound = s.bound
  value : s.value.text = toString p.value
  plain : IsPlain s.name
  plainBound : ∀ bound, s.bound = some bound → IsPlain bound

theorem label?_name {name : String} (plain : IsPlain name) :
    label? name.toList = some (name, none) := by
  rw [label?, Text.parts_of_unmarked (plain '\x7b' (by simp))]
  simp

theorem label?_bound {name bound : String} (plain : IsPlain name) (plainBound : IsPlain bound) :
    label? (name ++ ("\x7ble=\"" ++ bound ++ "\"\x7d")).toList = some (name, some bound) := by
  have split : (name ++ ("\x7ble=\"" ++ bound ++ "\"\x7d")).toList =
      name.toList ++ '\x7b' :: (['l', 'e', '='] ++ '"' :: (bound.toList ++ '"' :: ['\x7d'])) := by
    simp
  have inner : '\x7b' ∉ ['l', 'e', '='] ++ '"' :: (bound.toList ++ '"' :: ['\x7d']) := by
    simpa using plainBound '\x7b' (by simp)
  have quoted : Text.parts '"' (['l', 'e', '='] ++ '"' :: (bound.toList ++ '"' :: ['\x7d'])) =
      [['l', 'e', '='], bound.toList, ['\x7d']] := by
    rw [Text.parts_append (by simp), Text.parts_append (plainBound '"' (by simp))]
    rfl
  rw [label?, split, Text.parts_append (plain '\x7b' (by simp)), Text.parts_of_unmarked inner]
  dsimp only
  rw [quoted]
  simp

/-- A sample is read as it was written, be it in a bucket or not. -/
theorem isLine_of_label {s : Sample} {p : Point} (label : String)
    (written : s.line = label ++ " " ++ s.value.text ++ "\n")
    (value : s.value.text = toString p.value)
    (read : label? label.toList = some (p.name, p.bound)) (spaceless : ' ' ∉ label.toList)
    (oneLine : '\n' ∉ label.toList) : IsLine s.line (.sample p) := by
  have number : value? s.value.text.toList = some p.value := value ▸ value?_toString p.value
  have spaceless' : ' ' ∉ s.value.text.toList :=
    value ▸ value_unmarked p.value (by decide) (by decide)
  have oneLine' : '\n' ∉ s.value.text.toList :=
    value ▸ value_unmarked p.value (by decide) (by decide)
  refine ⟨label.toList ++ ' ' :: s.value.text.toList, ?_, ?_, by simp, ?_⟩
  · simp [written]
  · simp [oneLine, oneLine']
  · rw [line?, Text.parts_append spaceless, Text.parts_of_unmarked spaceless']
    simp [read, number]

theorem Sample.Tells.isLine {s : Sample} {p : Point} (tells : s.Tells p) :
    IsLine s.line (.sample p) := by
  have plain := tells.plain
  cases bound : s.bound with
  | none =>
    refine isLine_of_label s.name ?_ tells.value ?_ (plain _ (by simp)) (plain _ (by simp))
    · simp [Sample.line, bound]
    · rw [label?_name plain, tells.name, tells.bound, bound]
  | some b =>
    have plainBound := tells.plainBound b bound
    have unmarked : ∀ mark ∈ [' ', '\n'],
        mark ∉ (s.name ++ ("\x7ble=\"" ++ b ++ "\"\x7d")).toList := by
      intro mark here
      have known : mark ∈ [' ', '\n', '"', '\x7b'] := List.mem_append_left ['"', '\x7b'] here
      have apart : mark ∉ "\x7ble=\"".toList ∧ mark ∉ "\"\x7d".toList := by
        rcases List.mem_pair.1 here with rfl | rfl <;> decide
      simp only [String.toList_append, List.mem_append, not_or]
      exact ⟨plain mark known, ⟨apart.1, plainBound mark known⟩, apart.2⟩
    refine isLine_of_label (s.name ++ ("\x7ble=\"" ++ b ++ "\"\x7d")) ?_ tells.value ?_
      (unmarked _ (by simp)) (unmarked _ (by simp))
    · simp [Sample.line, bound]
    · rw [label?_bound plain plainBound, tells.name, tells.bound, bound]

section Comment

variable {name : String} (plain : IsPlain name)

include plain

theorem line?_comment (command : List Char) (spaceless : ' ' ∉ command) (rest : List Char) :
    Text.parts ' ' ('#' :: ' ' :: (command ++ ' ' :: (name.toList ++ ' ' :: rest))) =
      ['#'] :: command :: name.toList :: Text.parts ' ' rest := by
  have start : '#' :: ' ' :: (command ++ ' ' :: (name.toList ++ ' ' :: rest)) =
      ['#'] ++ ' ' :: (command ++ ' ' :: (name.toList ++ ' ' :: rest)) := rfl
  rw [start, Text.parts_append (by simp), Text.parts_append spaceless,
    Text.parts_append (plain ' ' (by simp))]

theorem isLine_help {help : String} (oneLine : '\n' ∉ help.toList) :
    IsLine ("# HELP " ++ name ++ " " ++ help ++ "\n") (.help name help) := by
  have nameLine := plain '\n' (by simp)
  refine ⟨'#' :: ' ' :: ("HELP".toList ++ ' ' :: (name.toList ++ ' ' :: help.toList)), ?_, ?_,
    by simp, ?_⟩
  · simp
  · simp [nameLine, oneLine]
  · rw [line?, line?_comment plain _ (by decide)]
    simp [Text.intercalate_parts]

theorem isLine_kind (kind : Kind) :
    IsLine ("# TYPE " ++ name ++ " " ++ kind.text ++ "\n") (.kind name kind) := by
  have nameLine := plain '\n' (by simp)
  refine ⟨'#' :: ' ' :: ("TYPE".toList ++ ' ' :: (name.toList ++ ' ' :: kind.text.toList)), ?_, ?_,
    by simp, ?_⟩
  · simp
  · cases kind <;> simp [nameLine, Kind.text]
  · have known : kind? kind.text.toList = some kind := by cases kind <;> decide
    rw [line?, line?_comment plain _ (by decide)]
    simp [Text.intercalate_parts, known]

end Comment

structure Family.Tells (f : Family) (g : Group) : Prop where
  name : g.name = f.name
  help : g.help = f.help
  kind : g.kind = f.kind
  samples : List.Forall₂ Sample.Tells f.samples g.points
  plain : IsPlain f.name
  oneLine : '\n' ∉ f.help.toList

def Family.lines (f : Family) : List String :=
  ("# HELP " ++ f.name ++ " " ++ f.help ++ "\n") ::
    ("# TYPE " ++ f.name ++ " " ++ f.kind.text ++ "\n") :: f.samples.map Sample.line

def Group.lines (g : Group) : List Line :=
  .help g.name g.help :: .kind g.name g.kind :: g.points.map .sample

theorem Family.toList_text (f : Family) : f.text.toList = f.lines.flatMap String.toList := by
  unfold text
  simp [lines, String.toList_append, String.toList_join]

theorem Family.Tells.lines {f : Family} {g : Group} (tells : f.Tells g) :
    List.Forall₂ IsLine f.lines g.lines := by
  rw [Group.lines, tells.name, tells.help, tells.kind]
  refine .cons (isLine_help tells.plain tells.oneLine) (.cons (isLine_kind tells.plain f.kind) ?_)
  rw [List.forall₂_map_left_iff, List.forall₂_map_right_iff]
  exact tells.samples.imp fun _ _ sample => sample.isLine

theorem collect_samples (points : List Point) {rest : List Line} {groups : List Group}
    (later : collect rest = some ([], groups)) :
    collect (points.map .sample ++ rest) = some (points, groups) := by
  induction points with
  | nil => exact later
  | cons point points ih =>
    rw [List.map_cons, List.cons_append, collect, ih]
    rfl

theorem collect_groups (groups : List Group) :
    collect (groups.flatMap Group.lines) = some ([], groups) := by
  induction groups with
  | nil => rfl
  | cons g groups ih =>
    simp [Group.lines, collect, collect_samples g.points ih]

theorem isLine_families {families : List Family} {groups : List Group}
    (tells : List.Forall₂ Family.Tells families groups) :
    List.Forall₂ IsLine (families.flatMap Family.lines) (groups.flatMap Group.lines) := by
  induction tells with
  | nil => exact .nil
  | cons first _ ih =>
    rw [List.flatMap_cons, List.flatMap_cons]
    exact List.rel_append first.lines ih

/-- The families of a text are read as they were written, in their order. -/
theorem read?_families {families : List Family} {groups : List Group}
    (tells : List.Forall₂ Family.Tells families groups) :
    read? (String.join (families.map Family.text)) = some groups := by
  have text : (String.join (families.map Family.text)).toList =
      (families.flatMap Family.lines).flatMap String.toList := by
    rw [String.toList_join, List.flatMap_map, List.flatMap_assoc]
    exact List.flatMap_congr fun f _ => f.toList_text
  rw [read?, text, read_lines (isLine_families tells)]
  simp [collect_groups]

example : read? "# HELP a is b\n# TYPE a histogram\na_bucket\x7ble=\"+Inf\"\x7d 7\n\na_sum -5\n" =
    some [{ name := "a", help := "is b", kind := .histogram,
            points := [⟨"a_bucket", some "+Inf", 7⟩, ⟨"a_sum", none, -5⟩] }] := by decide +kernel

end Exposition

end ChatRelay
