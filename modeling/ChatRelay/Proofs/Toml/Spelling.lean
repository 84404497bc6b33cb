import ChatRelay.Toml.Value
import Mathlib.Data.List.Basic

/-!
# Spelling values and keys

How a text, a truth value and a natural number are spelt in a document, and that they are read as
what was spelt, whatever comes behind the line. A text stands in double quotes on one line, with
quotes, backslashes and controls escaped.
-/

namespace ChatRelay.Toml

def isControl (c : Char) : Bool :=
  decide (c.toNat < 0x20) || (decide (0x7f ≤ c.toNat) && decide (c.toNat < 0xa0))

/-- The last four digits of a number in hexadecimal. -/
def hexDigits (n : Nat) : List Char :=
  [n / 4096 % 16, n / 256 % 16, n / 16 % 16, n % 16].map Nat.digitChar

def escape (c : Char) : List Char :=
  match c with
  | '"' => ['\\', '"']
  | '\\' => ['\\', '\\']
  | '\x08' => ['\\', 'b']
  | '\t' => ['\\', 't']
  | '\n' => ['\\', 'n']
  | '\x0c' => ['\\', 'f']
  | '\r' => ['\\', 'r']
  | c => if isControl c then '\\' :: 'u' :: hexDigits c.toNat else [c]

def spellText (text : String) : List Char := '"' :: (text.toList.flatMap escape ++ ['"'])

def spellTruth (b : Bool) : List Char :=
  if b then ['t', 'r', 'u', 'e'] else ['f', 'a', 'l', 's', 'e']

def spellNatural (n : Nat) : List Char := (toString n).toList

theorem scalar?_hexDigits {n : Nat} (small : n < 0xa0) :
    scalar? (hexDigits n) = some (Char.ofNat n) := by
  have all : ∀ n < 0xa0, scalar? (hexDigits n) = some (Char.ofNat n) := by decide +kernel
  exact all n small

section Body

variable {c : Char} {rest : List Char}

theorem basicBody_escaped {cs : List Char} (read : escaped? cs = some (c, rest)) (fuel : Nat) :
    basicBody (fuel + 1) ('\\' :: cs) =
      (basicBody fuel rest).map fun (body, after) => (c :: body, after) := by
  cases inside : basicBody fuel rest <;> simp [basicBody, read, inside]

theorem basicBody_plain (unquoted : c ≠ '"') (unescaped : c ≠ '\\')
    (allowed : isStringChar c = true) (fuel : Nat) : basicBody (fuel + 1) (c :: rest) =
      (basicBody fuel rest).map fun (body, after) => (c :: body, after) := by
  rw [basicBody, if_pos allowed]
  · cases basicBody fuel rest <;> rfl
  · exact unquoted
  · exact unescaped

end Body

theorem isStringChar_of_visible {c : Char} (visible : isControl c = false) :
    isStringChar c = true := by
  simp only [isControl, isStringChar, isCommentChar] at visible ⊢
  grind

/-- An escaped character is read back. -/
theorem basicBody_escape (c : Char) (fuel : Nat) (rest : List Char) :
    basicBody (fuel + 1) (escape c ++ rest) =
      (basicBody fuel rest).map fun (body, after) => (c :: body, after) := by
  unfold escape
  split
  case h_8 unquoted unescaped _ _ _ _ _ =>
    split
    · rename_i control
      refine basicBody_escaped ?_ fuel
      have small : c.toNat < 0xa0 := by
        simp only [isControl] at control
        grind
      have digits := scalar?_hexDigits small
      rw [Char.ofNat_toNat] at digits
      exact congrArg (Option.map fun x => (x, rest)) digits
    · rename_i visible
      exact basicBody_plain unquoted unescaped
        (isStringChar_of_visible (Bool.eq_false_iff.mpr visible)) fuel
  all_goals exact basicBody_escaped rfl fuel

theorem escape_ne_nil (c : Char) : escape c ≠ [] := by
  unfold escape
  split <;> try split
  all_goals simp

/-- A string is read up to the quote behind its last escaped character. -/
theorem basicBody_flatMap (cs : List Char) {fuel : Nat} (enough : cs.length < fuel)
    (rest : List Char) : basicBody fuel (cs.flatMap escape ++ '"' :: rest) = some (cs, rest) := by
  induction cs generalizing fuel with
  | nil =>
    obtain ⟨fuel, rfl⟩ := Nat.exists_eq_succ_of_ne_zero (Nat.ne_of_gt enough)
    rfl
  | cons c cs ih =>
    obtain ⟨fuel, rfl⟩ := Nat.exists_eq_succ_of_ne_zero (Nat.ne_of_gt (Nat.zero_lt_of_lt enough))
    rw [List.flatMap_cons, List.append_assoc, basicBody_escape, ih (Nat.lt_of_succ_lt_succ enough)]
    rfl

/-- Of pieces that are not empty there are no more than there are characters in them. -/
theorem length_le_flatten {pieces : List (List Char)} (some : ∀ piece ∈ pieces, piece ≠ []) :
    pieces.length ≤ pieces.flatten.length := by
  induction pieces with
  | nil => exact Nat.le_refl _
  | cons piece rest ih =>
    obtain ⟨first, later⟩ := List.forall_mem_cons.mp some
    have := List.length_pos_iff.mpr first
    have := ih later
    rw [List.flatten_cons, List.length_append, List.length_cons]
    omega

/-- No escaped character begins with a quote. -/
theorem escape_head (c : Char) (more : List Char) : escape c ≠ '"' :: more := by
  unfold escape
  split
  case h_8 unquoted _ _ _ _ _ _ =>
    split
    · simp
    · intro same
      exact unquoted (List.cons.inj same).1
  all_goals simp

theorem string?_basic {cs : List Char} (single : ∀ more, cs ≠ '"' :: '"' :: more) :
    string? ('"' :: cs) =
      (basicBody (cs.length + 1) cs).map fun (body, rest) => (String.ofList body, rest) := by
  rw [string?]
  intro more same
  exact single more same

/-- A text is read as it was spelt. -/
theorem string?_spellText (text : String) (rest : List Char) :
    string? (spellText text ++ '\n' :: rest) = some (text, '\n' :: rest) := by
  have spelt : spellText text ++ '\n' :: rest =
      '"' :: (text.toList.flatMap escape ++ '"' :: '\n' :: rest) := by
    simp [spellText]
  have single : ∀ more, text.toList.flatMap escape ++ '"' :: '\n' :: rest ≠ '"' :: '"' :: more := by
    intro more
    cases text.toList with
    | nil => simp
    | cons c cs =>
      intro same
      obtain ⟨a, after, head⟩ := List.exists_cons_of_ne_nil (escape_ne_nil c)
      rw [List.flatMap_cons, List.append_assoc, head] at same
      refine escape_head c after ?_
      rw [head, (List.cons.inj same).1]
  have enough : text.toList.length <
      (text.toList.flatMap escape ++ '"' :: '\n' :: rest).length + 1 := by
    have some : ∀ piece ∈ text.toList.map escape, piece ≠ [] :=
      List.forall_mem_map.mpr fun c _ => escape_ne_nil c
    have few := length_le_flatten some
    rw [List.length_map, ← List.flatMap_def] at few
    rw [List.length_append]
    omega
  rw [spelt, string?_basic single, basicBody_flatMap text.toList enough]
  simp

example : spellText "\"\\\n\x1b" =
    ['"', '\\', '"', '\\', '\\', '\\', 'n', '\\', 'u', '0', '0', '1', 'b', '"'] := by decide

section Digits

variable {ds : List Char} (digits : ∀ c ∈ ds, c.isDigit = true) (rest : List Char)

include digits

theorem moreDigits_digits :
    moreDigits Char.isDigit (ds ++ '\n' :: rest) = some (ds, '\n' :: rest) := by
  induction ds with
  | nil => rfl
  | cons c ds ih =>
    obtain ⟨first, later⟩ := List.forall_mem_cons.mp digits
    have other : c ≠ '_' := by
      rintro rfl
      cases first
    rw [List.cons_append, moreDigits, if_pos first, ih later]
    · rfl
    · exact fun _ _ same _ => other same
    · exact fun same _ => other same

/-- What comes behind the digits is the end of the line. -/
theorem eq_newline_of_digits (front : List Char) {back : List Char} {c : Char}
    (frontDigits : ∀ c ∈ front, c.isDigit = true) (other : c.isDigit = false)
    (same : ds ++ '\n' :: rest = front ++ c :: back) : c = '\n' := by
  have dropped := congrArg (List.dropWhile Char.isDigit) same
  rw [List.dropWhile_append_of_pos digits, List.dropWhile_append_of_pos frontDigits,
    List.dropWhile_cons_of_neg (by decide), List.dropWhile_cons_of_neg (by simp [other])] at dropped
  exact (List.cons.inj dropped).1.symm

/-- No date and no time begins with digits behind which the line ends. -/
theorem datetime?_digits : datetime? (ds ++ '\n' :: rest) = some none := by
  unfold datetime?
  split
  · rename_i a b c d back same
    split
    · rename_i allDigits
      cases eq_newline_of_digits digits rest [a, b, c, d] (List.all_eq_true.mp allDigits)
        (by decide) same
    · rfl
  · unfold time?
    split
    · rename_i hour back first
      unfold two? at first
      split at first
      · rename_i a b back same
        split at first
        · rename_i bothDigits
          obtain ⟨-, rfl⟩ := Prod.mk.inj (Option.some.inj first)
          have front : ∀ c ∈ [a, b], c.isDigit = true := by simpa using bothDigits
          cases eq_newline_of_digits digits rest [a, b] front (by decide) same
        · cases first
      · cases first
    · rfl

end Digits

section Natural

theorem spellNatural_eq (n : Nat) : spellNatural n = Nat.toDigits 10 n := by
  rw [spellNatural, Nat.toString_eq_repr, Nat.toList_repr]

theorem spellNatural_digits (n : Nat) : ∀ c ∈ spellNatural n, c.isDigit = true := by
  rw [spellNatural_eq]
  exact fun c here => Nat.isDigit_of_mem_toDigits (by decide) (by decide) here

/-- Only the numeral of zero begins with a zero. -/
theorem spellNatural_cases (n : Nat) : (n = 0 ∧ spellNatural n = ['0']) ∨
    ∃ c ds, spellNatural n = c :: ds ∧ c ≠ '0' := by
  simp only [spellNatural_eq]
  induction n using Nat.strongRecOn with
  | ind n ih =>
    by_cases small : n < 10
    · have all : ∀ m < 10, m = 0 ∨ Nat.digitChar m ≠ '0' := by decide
      rw [Nat.toDigits_of_lt_base small]
      rcases all n small with rfl | other
      · exact Or.inl ⟨rfl, rfl⟩
      · exact Or.inr ⟨_, _, rfl, other⟩
    · have large : 10 ≤ n := Nat.le_of_not_lt small
      rw [Nat.toDigits_of_base_le (by decide) large]
      rcases ih (n / 10) (by omega) with ⟨zero, -⟩ | ⟨c, ds, spelt, other⟩
      · omega
      · exact Or.inr ⟨c, ds ++ [(n % 10).digitChar], by rw [spelt]; rfl, other⟩

theorem valueIn_spellNatural (n : Nat) : Digits.valueIn 10 (spellNatural n) = n := by
  have same : ∀ m, ∀ c ∈ spellNatural n, 10 * m + (Digits.hexValue? c).getD 0 =
      10 * m + (c.toNat - '0'.toNat) := by
    intro m c here
    rw [Digits.hexValue?, if_pos (spellNatural_digits n c here)]
    rfl
  calc Digits.valueIn 10 (spellNatural n)
      = (spellNatural n).foldl (fun m c => 10 * m + (c.toNat - '0'.toNat)) 0 :=
        List.foldl_ext _ _ _ same
    _ = Nat.ofDigitChars 10 (Nat.toDigits 10 n) 0 := by
        rw [Nat.ofDigitChars_eq_foldl, spellNatural_eq]
    _ = n := Nat.ofDigitChars_ten_toDigits

/-- A number that the end of the line follows is an integer. -/
theorem afterInteger_newline (whole rest : List Char) :
    afterInteger false whole ('\n' :: rest) = if inRange (Digits.valueIn 10 whole) then
      some (.integer (Digits.valueIn 10 whole), '\n' :: rest) else none := by
  rw [afterInteger] <;> simp

variable (n : Nat) (rest : List Char)

theorem decimal?_spellNatural :
    decimal? (spellNatural n ++ '\n' :: rest) = some (spellNatural n, '\n' :: rest) := by
  have digits := spellNatural_digits n
  rcases spellNatural_cases n with ⟨-, zero⟩ | ⟨c, ds, spelt, other⟩
  · rw [zero]
    rfl
  · rw [spelt] at digits ⊢
    obtain ⟨first, later⟩ := List.forall_mem_cons.mp digits
    rw [List.cons_append, decimal?, digits?, if_pos first, moreDigits_digits later]
    · rfl
    · exact fun _ same => other (List.cons.inj same).1

variable {rest}

/-- What begins with the digits of a number goes on with another digit or ends the line. -/
theorem spellNatural_ne (front : List Char) (frontDigits : ∀ c ∈ front, c.isDigit = true) {c : Char}
    (other : c.isDigit = false) (apart : c ≠ '\n') (more : List Char) :
    spellNatural n ++ '\n' :: rest ≠ front ++ c :: more := fun same =>
  apart (eq_newline_of_digits (spellNatural_digits n) rest front frontDigits other same)

variable (rest)

theorem sign_spellNatural :
    sign (spellNatural n ++ '\n' :: rest) = (false, spellNatural n ++ '\n' :: rest) := by
  have start {c : Char} (other : c.isDigit = false) (apart : c ≠ '\n') (more : List Char) :
      spellNatural n ++ '\n' :: rest ≠ c :: more := spellNatural_ne n [] (by simp) other apart more
  rw [sign]
  · exact start (by decide) (by decide)
  · exact start (by decide) (by decide)

theorem numeral?_spellNatural {n : Nat} (small : n < Nat.pow 2 63) (rest : List Char) :
    numeral? (spellNatural n ++ '\n' :: rest) = some (.integer n, '\n' :: rest) := by
  have mark {c : Char} (other : c.isDigit = false) (apart : c ≠ '\n') (more : List Char) :
      spellNatural n ++ '\n' :: rest ≠ '0' :: c :: more :=
    spellNatural_ne n ['0'] (by simp) other apart more
  have start {c : Char} (other : c.isDigit = false) (apart : c ≠ '\n') (more : List Char) :
      spellNatural n ++ '\n' :: rest ≠ c :: more := spellNatural_ne n [] (by simp) other apart more
  have fits : inRange n = true := by
    simp only [inRange, Bool.and_eq_true, decide_eq_true_eq]
    omega
  rw [numeral?, sign_spellNatural]
  · dsimp only
    split
    · rename_i same
      cases start (by decide) (by decide) _ same
    · rename_i same
      cases start (by decide) (by decide) _ same
    · rw [decimal?_spellNatural, Option.bind_eq_bind, Option.bind_some]
      dsimp only
      rw [afterInteger_newline, valueIn_spellNatural, if_pos fits]
  · exact mark (by decide) (by decide)
  · exact mark (by decide) (by decide)
  · exact mark (by decide) (by decide)

end Natural

section Value

variable (depth : Nat)

theorem value?_of_scalar {c : Char} (noArray : c ≠ '[') (noTable : c ≠ '\x7b') (cs : List Char) :
    value? depth (c :: cs) = scalarValue? (c :: cs) := by
  rw [value?]
  · exact fun _ same => noArray (List.cons.inj same).1
  · exact fun _ same => noTable (List.cons.inj same).1

variable (rest : List Char)

theorem value?_spellText (text : String) : ∃ span,
    value? depth (spellText text ++ '\n' :: rest) = some (.string span text, '\n' :: rest) := by
  obtain ⟨cs, quoted⟩ : ∃ cs, spellText text ++ '\n' :: rest = '"' :: cs := ⟨_, rfl⟩
  have read := string?_spellText text rest
  rw [quoted] at read ⊢
  refine ⟨⟨('"' :: cs).length, ('\n' :: rest).length⟩, ?_⟩
  rw [value?_of_scalar depth (by decide) (by decide), scalarValue?, read]
  rfl

theorem value?_spellTruth (b : Bool) : ∃ span,
    value? depth (spellTruth b ++ '\n' :: rest) = some (.boolean span b, '\n' :: rest) := by
  cases b with
  | true => exact ⟨_, (value?_of_scalar depth (by decide) (by decide) _).trans rfl⟩
  | false => exact ⟨_, (value?_of_scalar depth (by decide) (by decide) _).trans rfl⟩

theorem value?_spellNatural {n : Nat} (small : n < Nat.pow 2 63) : ∃ span,
    value? depth (spellNatural n ++ '\n' :: rest) = some (.integer span n, '\n' :: rest) := by
  have start {c : Char} (other : c.isDigit = false) (apart : c ≠ '\n') (more : List Char) :
      spellNatural n ++ '\n' :: rest ≠ c :: more := spellNatural_ne n [] (by simp) other apart more
  refine ⟨⟨(spellNatural n ++ '\n' :: rest).length, ('\n' :: rest).length⟩, ?_⟩
  rw [value?, scalarValue?, datetime?_digits (spellNatural_digits n), numeral?_spellNatural small]
  · rfl
  all_goals first
    | exact start (by decide) (by decide)
    | exact fun _ => start (by decide) (by decide) _

end Value

/-- A character of a kind to which no blank belongs is no blank. -/
theorem isBlank_of_kind {kind : Char → Bool} (noSpace : kind ' ' = false)
    (noTab : kind '\t' = false) {c : Char} (here : kind c = true) : isBlank c = false := by
  cases blank : isBlank c with
  | false => rfl
  | true =>
    rcases (Bool.or_eq_true _ _).mp blank with space | tab
    · rw [beq_iff_eq.mp space, noSpace] at here
      cases here
    · rw [beq_iff_eq.mp tab, noTab] at here
      cases here

theorem skipBlanks_spellNatural (n : Nat) (rest : List Char) :
    skipBlanks (spellNatural n ++ rest) = spellNatural n ++ rest := by
  cases spelt : spellNatural n with
  | nil => exact absurd ((spellNatural_eq n).symm.trans spelt) Nat.toDigits_ne_nil
  | cons c ds =>
    have digit := spellNatural_digits n c (by simp [spelt])
    have visible : isBlank c = false := isBlank_of_kind rfl rfl digit
    rw [List.cons_append, skipBlanks, List.dropWhile_cons_of_neg (by simp [visible])]

/-- The key can stand in a document as it is. -/
def IsBare (name : String) : Prop := name ≠ "" ∧ ∀ c ∈ name.toList, isBareKeyChar c = true

instance (name : String) : Decidable (IsBare name) :=
  @instDecidableAnd _ _ inferInstance
    (List.decidableBAll (fun c => isBareKeyChar c = true) name.toList)

theorem isBlank_of_bare {c : Char} (bare : isBareKeyChar c = true) : isBlank c = false :=
  isBlank_of_kind rfl rfl bare

section Bare

variable {name : String} (bare : IsBare name)

include bare

theorem IsBare.cases : ∃ c cs, name.toList = c :: cs ∧ isBareKeyChar c = true := by
  cases spelt : name.toList with
  | nil => exact absurd (String.toList_eq_nil_iff.mp spelt) bare.1
  | cons c cs => exact ⟨c, cs, rfl, bare.2 c (by simp [spelt])⟩

/-- A text that begins with the key begins with none of the other characters. -/
theorem IsBare.ne_cons {q : Char} (other : isBareKeyChar q = false) {rest : List Char}
    (more : List Char) : name.toList ++ rest ≠ q :: more := by
  obtain ⟨c, cs, spelt, first⟩ := bare.cases
  rw [spelt]
  intro same
  rw [(List.cons.inj same).1, other] at first
  cases first

theorem IsBare.ne_nil {rest : List Char} : name.toList ++ rest ≠ [] := by
  obtain ⟨c, cs, spelt, -⟩ := bare.cases
  simp [spelt]

theorem keyPart?_bare {c : Char} (other : isBareKeyChar c = false) (rest : List Char) : ∃ span,
    keyPart? (name.toList ++ c :: rest) = some (⟨name, span⟩, c :: rest) := by
  have taken : (name.toList ++ c :: rest).takeWhile isBareKeyChar = name.toList := by
    rw [List.takeWhile_append_of_pos bare.2, List.takeWhile_cons_of_neg (by simp [other]),
      List.append_nil]
  refine ⟨⟨(name.toList ++ c :: rest).length, (c :: rest).length⟩, ?_⟩
  rw [keyPart?]
  · simp [taken, bare.1]
  · exact bare.ne_cons (by decide)
  · exact bare.ne_cons (by decide)

theorem skipBlanks_bare (rest : List Char) :
    skipBlanks (name.toList ++ rest) = name.toList ++ rest := by
  obtain ⟨c, cs, spelt, first⟩ := bare.cases
  rw [spelt, List.cons_append, skipBlanks,
    List.dropWhile_cons_of_neg (by simp [isBlank_of_bare first])]

/-- A key of one part is read up to the next character that is not blank. -/
theorem key?_bare {c : Char} (other : isBareKeyChar c = false) {rest next : List Char}
    (skipped : skipBlanks (c :: rest) = next) (noPoint : ∀ more, next ≠ '.' :: more) :
    ∃ span, key? (name.toList ++ c :: rest) = some ([⟨name, span⟩], next) := by
  obtain ⟨span, read⟩ := keyPart?_bare bare other rest
  refine ⟨span, ?_⟩
  have parts (fuel : Nat) :
      keyParts (fuel + 1) (name.toList ++ c :: rest) = some ([⟨name, span⟩], next) := by
    rw [keyParts, skipBlanks_bare bare, read, Option.bind_eq_bind, Option.bind_some]
    dsimp only
    rw [skipped]
    split
    · rename_i more
      exact absurd rfl (noPoint more)
    · rfl
  rw [key?, parts]
  rfl

end Bare

end ChatRelay.Toml
