import ChatRelay.Http.Route
import ChatRelay.Proofs.Text
import Mathlib.Data.List.TakeWhile

/-!
# Patterns that can be served

A pattern is a route if each of its marks is in order where it stands: a name follows it in its
segment, no second mark does, and a star makes up the last segment together with its name.
-/

namespace ChatRelay

namespace Http

/-- A mark of a pattern is in order where it stands. -/
structure MarkFits (before : List Char) (mark : Char) (after : List Char) : Prop where
  named : after.takeWhile (· ≠ '/') ≠ []
  /-- No other mark follows in the segment. -/
  single : ∀ c ∈ after.takeWhile (· ≠ '/'), isMark c = false
  /-- A star begins its segment. -/
  whole : mark = '*' → before.getLast? = some '/'
  /-- A star is in the last segment. -/
  last : mark = '*' → '/' ∉ after

def MarksFit (ahead text : List Char) : Prop :=
  ∀ before mark after, text = before ++ mark :: after → isMark mark = true →
    MarkFits (ahead ++ before) mark after

theorem mark_cases {mark : Char} (marked : isMark mark = true) : mark = ':' ∨ mark = '*' := by
  simpa [isMark] using marked

/-- Where the first mark of a text stands, if it has any. -/
theorem plain_or_marked (text : List Char) : (∀ c ∈ text, isMark c = false) ∨
    ∃ before mark after, text = before ++ mark :: after ∧ isMark mark = true ∧
      ∀ c ∈ before, isMark c = false := by
  cases found : text.find? isMark with
  | none => exact Or.inl fun c hc => by simpa using List.find?_eq_none.mp found c hc
  | some mark =>
    obtain ⟨marked, before, after, split, plain⟩ := List.find?_eq_some_iff_append.mp found
    exact Or.inr ⟨before, mark, after, split, marked, fun c hc => by simpa using plain c hc⟩

namespace Segment

theorem parse?_of_plain {part : List Char} (plain : ∀ c ∈ part, isMark c = false) :
    parse? part = .ok (.literal part) := by
  have whole : part.takeWhile (fun c => !isMark c) = part :=
    List.takeWhile_eq_self_iff.mpr fun c hc => by simp [plain c hc]
  simp [parse?, whole]

theorem parse?_of_marked {before name : List Char} {mark : Char}
    (plain : ∀ c ∈ before, isMark c = false) (marked : isMark mark = true) :
    parse? (before ++ mark :: name) =
      if name.any isMark then .error .crowded
      else if name.isEmpty then .error .unnamed
      else if mark = ':' then .ok (.parameter before)
      else if before.isEmpty then .ok .rest
      else .error .restNotLast := by
  have upTo : (before ++ mark :: name).takeWhile (fun c => !isMark c) = before := by
    rw [List.takeWhile_append_of_pos fun c hc => by simp [plain c hc]]
    simp [marked]
  simp [parse?, upTo]

/-- Of a segment with a mark, what follows the mark decides whether it can be read. -/
theorem parse?_of_marked_iff {before name : List Char} {mark : Char}
    (plain : ∀ c ∈ before, isMark c = false) (marked : isMark mark = true) :
    (∃ segment, parse? (before ++ mark :: name) = .ok segment) ↔
      name ≠ [] ∧ (∀ c ∈ name, isMark c = false) ∧ (mark = '*' → before = []) := by
  rw [parse?_of_marked plain marked]
  by_cases single : ∀ c ∈ name, isMark c = false
  · have alone : ¬ name.any isMark = true := by simpa using single
    rw [if_neg alone]
    cases name with
    | nil => simp
    | cons c rest =>
      rcases mark_cases marked with rfl | rfl
      · simpa using single
      · cases before <;> simp_all
  · have crowded : name.any isMark = true := by simpa using single
    simp [crowded, single]

/-- Only a star stands for all that is left. -/
theorem rest_iff {part : List Char} {segment : Segment} (read : parse? part = .ok segment) :
    segment = .rest ↔ '*' ∈ part := by
  rcases plain_or_marked part with plain | ⟨before, mark, name, rfl, marked, plain⟩
  · rw [parse?_of_plain plain] at read
    cases read
    refine iff_of_false (by simp) fun among => ?_
    cases plain '*' among
  · obtain ⟨-, single, -⟩ := (parse?_of_marked_iff plain marked).mp ⟨segment, read⟩
    have other {text : List Char} (unmarked : ∀ c ∈ text, isMark c = false) : '*' ∉ text :=
      fun among => by cases unmarked '*' among
    have only : '*' ∈ before ++ mark :: name ↔ mark = '*' := by
      simp [other plain, other single, eq_comm]
    rw [parse?_of_marked plain marked, if_neg (by simpa using single)] at read
    rw [only]
    rcases mark_cases marked with rfl | rfl
    · split at read <;> cases read
      simp
    · split at read
      · cases read
      · rw [if_neg (by decide)] at read
        split at read <;> cases read
        simp

end Segment

/-- In a text with one mark there is one way to point at a mark. -/
theorem only_mark {before name before' after : List Char} {mark mark' : Char}
    (plain : ∀ c ∈ before, isMark c = false) (plain' : ∀ c ∈ name, isMark c = false)
    (marked : isMark mark' = true) (same : before ++ mark :: name = before' ++ mark' :: after) :
    before' = before ∧ mark' = mark ∧ after = name := by
  have absent {text : List Char} (unmarked : ∀ c ∈ text, isMark c = false) : mark' ∉ text := by
    intro among
    rw [unmarked mark' among] at marked
    cases marked
  rcases List.append_eq_append_iff.mp same with ⟨more, rfl, rest⟩ | ⟨more, rfl, rest⟩
  · cases more with
    | nil => simp_all
    | cons first more =>
      obtain ⟨-, rfl⟩ := List.cons.inj rest
      exact absurd (by simp) (absent plain')
  · cases more with
    | nil => simp_all
    | cons first more =>
      obtain ⟨rfl, -⟩ := List.cons.inj rest
      exact absurd (by simp) (absent plain)

section Segments

variable {ahead part : List Char} (slashless : '/' ∉ part)

include slashless

theorem takeWhile_of_slashless (rest : List Char) : part.takeWhile (· ≠ '/') = part ∧
    (part ++ '/' :: rest).takeWhile (· ≠ '/') = part := by
  have all : ∀ c ∈ part, decide (c ≠ '/') = true := by
    intro c hc
    simpa using fun same : c = '/' => slashless (same ▸ hc)
  refine ⟨List.takeWhile_eq_self_iff.mpr all, ?_⟩
  rw [List.takeWhile_append_of_pos all]
  simp

/-- A text without slashes ends in a slash if there is nothing behind the slash that is ahead. -/
theorem ends_iff (slash : ahead.getLast? = some '/') :
    (ahead ++ part).getLast? = some '/' ↔ part = [] := by
  constructor
  · intro last
    cases ends : part.getLast? with
    | none => exact List.getLast?_eq_none_iff.mp ends
    | some c =>
      rw [List.getLast?_append, ends] at last
      obtain rfl : c = '/' := by simpa using last
      exact absurd (List.mem_of_getLast? ends) slashless
  · rintro rfl
    rwa [List.append_nil]

/-- A segment can be read if its marks are in order. -/
theorem segment_iff (slash : ahead.getLast? = some '/') :
    (∃ segment, Segment.parse? part = .ok segment) ↔ MarksFit ahead part := by
  rcases plain_or_marked part with plain | ⟨before, mark, name, rfl, marked, plain⟩
  · refine iff_of_true ⟨_, Segment.parse?_of_plain plain⟩ ?_
    rintro before mark after rfl marked
    rw [plain mark (by simp)] at marked
    cases marked
  · have behind : '/' ∉ name := fun among => slashless (by simp [among])
    have begins : (ahead ++ before).getLast? = some '/' ↔ before = [] :=
      ends_iff (fun among => slashless (by simp [among])) slash
    obtain ⟨upTo, -⟩ := takeWhile_of_slashless behind []
    rw [Segment.parse?_of_marked_iff plain marked]
    constructor
    · rintro ⟨named, single, whole⟩ before' mark' after same marked'
      obtain ⟨rfl, rfl, rfl⟩ := only_mark plain single marked' same
      exact ⟨by rwa [upTo], by rwa [upTo], fun star => begins.mpr (whole star), fun _ => behind⟩
    · intro fit
      have fits := fit before mark name rfl marked
      exact ⟨upTo ▸ fits.named, upTo ▸ fits.single, fun star => begins.mp (fits.whole star)⟩

/-- A mark of a segment is in order before another segment as well, unless it is a star. -/
theorem markFits_append {before more : List Char} {mark : Char} :
    MarkFits before mark (part ++ '/' :: more) ↔ MarkFits before mark part ∧ mark ≠ '*' := by
  obtain ⟨upTo, upTo'⟩ := takeWhile_of_slashless slashless more
  constructor
  · intro fits
    have star : mark ≠ '*' := fun same => fits.last same (by simp)
    exact ⟨⟨upTo.trans upTo'.symm ▸ fits.named, upTo.trans upTo'.symm ▸ fits.single,
      fits.whole, fun same => absurd same star⟩, star⟩
  · rintro ⟨fits, star⟩
    exact ⟨upTo'.trans upTo.symm ▸ fits.named, upTo'.trans upTo.symm ▸ fits.single,
      fits.whole, fun same => absurd same star⟩

/-- The marks of a pattern are in order if those of the first segment are, with no star among them,
and those of the rest. -/
theorem marksFit_append (more : List Char) :
    MarksFit ahead (part ++ '/' :: more) ↔
      MarksFit ahead part ∧ '*' ∉ part ∧ MarksFit (ahead ++ part ++ ['/']) more := by
  constructor
  · intro fit
    have first : ∀ before mark after, part = before ++ mark :: after → isMark mark = true →
        MarkFits (ahead ++ before) mark after ∧ mark ≠ '*' := by
      rintro before mark after rfl marked
      have behind : '/' ∉ after := fun among => slashless (by simp [among])
      exact (markFits_append behind).mp (fit before mark (after ++ '/' :: more) (by simp) marked)
    refine ⟨fun before mark after split marked => (first before mark after split marked).1, ?_, ?_⟩
    · intro among
      obtain ⟨before, after, split⟩ := List.append_of_mem among
      exact (first before '*' after split rfl).2 rfl
    · rintro before mark after rfl marked
      have fits := fit (part ++ '/' :: before) mark after (by simp) marked
      simpa using fits
  · rintro ⟨fit, starless, rest⟩ before mark after split marked
    rcases List.append_eq_append_iff.mp split with ⟨gap, rfl, behind⟩ | ⟨gap, rfl, behind⟩
    · cases gap with
      | nil =>
        obtain ⟨rfl, -⟩ := List.cons.inj behind
        cases marked
      | cons first gap =>
        obtain ⟨rfl, rfl⟩ := List.cons.inj behind
        simpa using rest gap mark after rfl marked
    · cases gap with
      | nil =>
        obtain ⟨rfl, -⟩ := List.cons.inj behind
        cases marked
      | cons first gap =>
        obtain ⟨rfl, rfl⟩ := List.cons.inj behind
        have behind : '/' ∉ gap := fun among => slashless (by simp [among])
        refine (markFits_append behind).mpr ⟨fit before mark gap rfl marked, ?_⟩
        rintro rfl
        exact starless (by simp)

end Segments

/-- The first part is read, and then the others. -/
theorem mapM_cons_ok {part : List Char} {more : List (List Char)} {route : Route} :
    (part :: more).mapM Segment.parse? = .ok route ↔ ∃ segment,
      Segment.parse? part = .ok segment ∧ ∃ segments, more.mapM Segment.parse? = .ok segments ∧
        route = segment :: segments := by
  rw [List.mapM_cons]
  cases Segment.parse? part with
  | error fault => simp [bind, Except.bind]
  | ok segment =>
    cases more.mapM Segment.parse? with
    | error fault => simp [bind, Except.bind]
    | ok segments => simp [bind, Except.bind, pure, Except.pure, eq_comm]

theorem mapM_ne_nil {more : List (List Char)} {segments : Route} (some : more ≠ [])
    (read : more.mapM Segment.parse? = .ok segments) : segments ≠ [] := by
  cases more with
  | nil => exact absurd rfl some
  | cons part rest =>
    obtain ⟨segment, -, segments, -, rfl⟩ := mapM_cons_ok.mp read
    simp

theorem restIsLast_cons {segment : Segment} {route : Route} (more : route ≠ []) :
    Route.restIsLast (segment :: route) = true ↔
      segment ≠ .rest ∧ Route.restIsLast route = true := by
  cases route with
  | nil => exact absurd rfl more
  | cons next rest => simp [Route.restIsLast]

/-- What follows a slash can be read as a route if its marks are in order. -/
theorem route_iff {ahead text : List Char} (slash : ahead.getLast? = some '/') :
    (∃ route, (Text.parts '/' text).mapM Segment.parse? = .ok route ∧
      Route.restIsLast route = true) ↔ MarksFit ahead text := by
  induction size : text.length using Nat.strong_induction_on generalizing ahead text with
  | h size ih =>
    by_cases among : '/' ∈ text
    · obtain ⟨part, more, rfl, slashless⟩ := List.eq_append_cons_of_mem among
      have rest : (∃ route, (Text.parts '/' more).mapM Segment.parse? = .ok route ∧
          Route.restIsLast route = true) ↔ MarksFit (ahead ++ part ++ ['/']) more :=
        ih more.length (by simp at size; omega) (by simp) rfl
      rw [Text.parts_append slashless, marksFit_append slashless, ← segment_iff slashless slash,
        ← rest]
      constructor
      · rintro ⟨route, read, last⟩
        obtain ⟨segment, first, segments, others, rfl⟩ := mapM_cons_ok.mp read
        have more : segments ≠ [] := mapM_ne_nil (Text.parts_ne_nil _ _) others
        obtain ⟨starless, last⟩ := (restIsLast_cons more).mp last
        exact ⟨⟨segment, first⟩, fun star => starless ((Segment.rest_iff first).mpr star),
          segments, others, last⟩
      · rintro ⟨⟨segment, first⟩, starless, segments, others, last⟩
        have more : segments ≠ [] := mapM_ne_nil (Text.parts_ne_nil _ _) others
        refine ⟨segment :: segments, mapM_cons_ok.mpr ⟨segment, first, segments, others, rfl⟩, ?_⟩
        exact (restIsLast_cons more).mpr
          ⟨fun star => starless ((Segment.rest_iff first).mp star), last⟩
    · rw [Text.parts_of_unmarked among, ← segment_iff among slash]
      constructor
      · rintro ⟨route, read, -⟩
        obtain ⟨segment, first, -⟩ := mapM_cons_ok.mp read
        exact ⟨segment, first⟩
      · rintro ⟨segment, first⟩
        exact ⟨[segment], mapM_cons_ok.mpr ⟨segment, first, [], rfl, rfl⟩, rfl⟩

/-- A slash at the beginning is no mark. -/
theorem marksFit_slash {text : List Char} : MarksFit [] ('/' :: text) ↔ MarksFit ['/'] text := by
  constructor
  · rintro fit before mark after rfl marked
    exact fit ('/' :: before) mark after rfl marked
  · intro fit before mark after split marked
    cases before with
    | nil =>
      obtain ⟨rfl, -⟩ := List.cons.inj split
      cases marked
    | cons first before =>
      obtain ⟨rfl, rfl⟩ := List.cons.inj split
      exact fit before mark after rfl marked

/-- A pattern is a route if it begins with a slash and its marks are in order. -/
theorem parse?_ok_iff {pattern : String} :
    (∃ route, Route.parse? pattern = .ok route) ↔
      pattern.toList.head? = some '/' ∧ MarksFit [] pattern.toList := by
  unfold Route.parse?
  split
  · rename_i rest begins
    have read : (∃ route, ((Text.parts '/' rest).mapM Segment.parse? >>= fun route =>
        if Route.restIsLast route = true then Except.ok route else .error .restNotLast) =
          .ok route) ↔ ∃ route, (Text.parts '/' rest).mapM Segment.parse? = .ok route ∧
            Route.restIsLast route = true := by
      cases (Text.parts '/' rest).mapM Segment.parse? with
      | error fault => simp [bind, Except.bind]
      | ok route => cases last : Route.restIsLast route <;> simp [bind, Except.bind, last]
    have slash : ['/'].getLast? = some '/' := rfl
    rw [begins, read, route_iff slash, marksFit_slash]
    simp
  · rename_i other
    refine iff_of_false (by simp) fun ⟨slash, _⟩ => ?_
    cases text : pattern.toList with
    | nil => simp [text] at slash
    | cons first rest =>
      obtain rfl : first = '/' := by simpa [text] using slash
      exact other rest text

end Http

end ChatRelay
