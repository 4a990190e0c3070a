import Mathlib.Data.List.TakeWhile
import MarkupJsx.Proofs.Style.ValueText

/-!
# Quoted strings as a pattern

The end of a quoted string can also be told by a pattern: behind the opening quote, as few times as
possible, a quote with a backslash or any character of the line, and then a quote
(`Pattern.quotedString`).  It can match in several ways, and what is meant is the way that is tried
first, so the matches have an order.

* `Pattern.rests` are the texts behind all matches of a pattern at the front of a text, in the order
  in which they are tried.
* `Pattern.attempt` looks for the first match after which something else can go on, and goes back to
  the last choice where nothing can.  It finds the first of the matches in order
  (`Pattern.attempt_eq_findSome?`).

The scanner never goes back.  It passes a quote with a backslash, and only where nothing behind it
closes the string it lets that quote do so.  This is the choice that the pattern comes back to:
there the backslash is a character like any other and the string ends at the quote, before all that
is tried with the quote left inside (`rests_closing_cons`).  So the scanner finds the first match
(`quoted?_eq_firstMatch?`).
-/

namespace MarkupJsx
namespace Style

/-! ## Patterns -/

/-- A pattern for the front of a text. -/
inductive Pattern where
  /-- One character of some kind. -/
  | letter (accepts : Char → Bool)
  /-- One pattern, and behind it another one. -/
  | sequence (first second : Pattern)
  /-- One pattern, or else another one. -/
  | choice (first second : Pattern)
  /-- A pattern any number of times, as few as possible. -/
  | lazyStar (body : Pattern)

namespace Pattern

/-- What is left of a text behind each match of a pattern, in the order in which the matches are
tried.  A round of a repetition has to take something from the text. -/
def rests : Pattern → List Char → List (List Char)
  | letter _, [] => []
  | letter accepts, c :: rest => if accepts c then [rest] else []
  | sequence first second, text => (first.rests text).flatMap fun rest => second.rests rest
  | choice first second, text => first.rests text ++ second.rests text
  | lazyStar body, text =>
    text :: (body.rests text).flatMap fun rest =>
      if rest.length < text.length then (lazyStar body).rests rest else []
termination_by pattern text => (pattern, text.length)

/-- The first match of a pattern after which `next` finds an answer, and that answer.  Where `next`
finds none, the last choice that was made is taken back. -/
def attempt {α : Type} : Pattern → (next : List Char → Option α) → List Char → Option α
  | letter _, _, [] => none
  | letter accepts, next, c :: rest => if accepts c then next rest else none
  | sequence first second, next, text => first.attempt (fun rest => second.attempt next rest) text
  | choice first second, next, text => (first.attempt next text).or (second.attempt next text)
  | lazyStar body, next, text =>
    (next text).or <| body.attempt
      (fun rest => if rest.length < text.length then (lazyStar body).attempt next rest else none)
      text
termination_by pattern _ text => (pattern, text.length)

/-- The length of the first match of a pattern at the front of a text. -/
def firstMatch? (pattern : Pattern) (text : List Char) : Option Nat :=
  pattern.attempt (fun rest => some (text.length - rest.length)) text

theorem findSome?_flatMap {α β γ : Type} (items : List α) (f : α → List β) (g : β → Option γ) :
    (items.flatMap f).findSome? g = items.findSome? fun item => (f item).findSome? g := by
  induction items with
  | nil => rfl
  | cons item items ih =>
    rw [List.flatMap_cons, List.findSome?_append, ih, List.findSome?_cons]
    cases (f item).findSome? g <;> rfl

/-- **Going back finds the first of all matches.**  The induction is on the pattern, and for a
repetition on the length of the text as well. -/
theorem attempt_eq_findSome? {α : Type} (pattern : Pattern) (next : List Char → Option α)
    (text : List Char) : pattern.attempt next text = (pattern.rests text).findSome? next := by
  induction pattern generalizing next text with
  | letter accepts =>
    cases text with
    | nil => rw [attempt, rests, List.findSome?_nil]
    | cons c rest =>
      rw [attempt, rests]
      split
      · rw [List.findSome?_cons, List.findSome?_nil]
        cases next rest <;> rfl
      · rw [List.findSome?_nil]
  | sequence first second ihFirst ihSecond =>
    simp only [attempt, rests, ihFirst, ihSecond, findSome?_flatMap]
  | choice first second ihFirst ihSecond =>
    rw [attempt, rests, ihFirst, ihSecond, List.findSome?_append]
  | lazyStar body ih =>
    induction hlength : text.length using Nat.strongRecOn generalizing text with
    | ind length ihLength =>
      have hround : ∀ rest : List Char,
          (if rest.length < text.length then (lazyStar body).attempt next rest else none) =
            List.findSome? next
              (if rest.length < text.length then (lazyStar body).rests rest else []) := by
        intro rest
        split
        · rename_i hlt
          exact ihLength rest.length (hlength ▸ hlt) rest rfl
        · rfl
      rw [attempt, rests, ih, List.findSome?_cons, findSome?_flatMap]
      simp only [hround]
      cases next text <;> rfl

/-- The length of the first match says what is left behind it. -/
theorem firstMatch?_eq_map_head? (pattern : Pattern) (text : List Char) :
    pattern.firstMatch? text =
      (pattern.rests text).head?.map fun rest => text.length - rest.length := by
  rw [firstMatch?, attempt_eq_findSome?]
  cases pattern.rests text <;> rfl

/-- What matches inside a string: a quote with a backslash, or else any character of the line. -/
def inside (quote : Char) : Pattern :=
  .choice (.sequence (.letter (· == '\\')) (.letter (· == quote))) (.letter fun c => !isLineEnd c)

/-- What matches up to the end of a string, behind its opening quote. -/
def closing (quote : Char) : Pattern :=
  .sequence (.lazyStar (inside quote)) (.letter (· == quote))

/-- What matches a quoted string. -/
def quotedString (quote : Char) : Pattern :=
  .sequence (.letter (· == quote)) (closing quote)

theorem rests_letter_beq_cons (quote c : Char) (rest : List Char) :
    (letter (· == quote)).rests (c :: rest) = if c = quote then [rest] else [] := by
  simp only [rests, beq_iff_eq]

theorem rests_quotedString_cons (quote : Char) (rest : List Char) :
    (quotedString quote).rests (quote :: rest) = (closing quote).rests rest := by
  rw [quotedString, rests, rests_letter_beq_cons, if_pos rfl, List.flatMap_singleton]

theorem rests_inside_cons (quote c : Char) (rest : List Char) :
    (inside quote).rests (c :: rest) =
      (if c = '\\' ∧ rest.head? = some quote then [rest.tail] else []) ++
        if isLineEnd c then [] else [rest] := by
  have hescaped : (sequence (letter (· == '\\')) (letter (· == quote))).rests (c :: rest) =
      if c = '\\' ∧ rest.head? = some quote then [rest.tail] else [] := by
    rw [rests, rests_letter_beq_cons]
    by_cases hc : c = '\\'
    · rw [if_pos hc, List.flatMap_singleton]
      cases rest with
      | nil => simp [rests]
      | cons next rest => simp [rests_letter_beq_cons, hc]
    · simp [hc]
  rw [inside, rests, hescaped, rests]
  cases isLineEnd c <;> rfl

theorem rests_closing_nil (quote : Char) : (closing quote).rests [] = [] := by
  simp [closing, inside, rests]

/-- **What can be done at a character,** in order: end the string at a quote, pass a quote that has
this backslash before it, and pass the character alone. -/
theorem rests_closing_cons (quote c : Char) (rest : List Char) :
    (closing quote).rests (c :: rest) =
      (if c = quote then [rest] else []) ++
        ((if c = '\\' ∧ rest.head? = some quote then (closing quote).rests rest.tail else []) ++
          if isLineEnd c then [] else (closing quote).rests rest) := by
  have htail : rest.tail.length < (c :: rest).length := by
    rw [List.length_tail, List.length_cons]
    omega
  have hrest : rest.length < (c :: rest).length := Nat.lt_succ_self _
  have hrounds : (lazyStar (inside quote)).rests (c :: rest) =
      (c :: rest) ::
        ((if c = '\\' ∧ rest.head? = some quote then (lazyStar (inside quote)).rests rest.tail
          else []) ++
          if isLineEnd c then [] else (lazyStar (inside quote)).rests rest) := by
    rw [rests, rests_inside_cons, List.flatMap_append]
    congr 2
    · split
      · rw [List.flatMap_singleton, if_pos htail]
      · rfl
    · split
      · rfl
      · rw [List.flatMap_singleton, if_pos hrest]
  rw [closing, rests, hrounds, List.flatMap_cons, List.flatMap_append, rests_letter_beq_cons]
  congr 2
  · split
    · rw [rests]
    · rfl
  · split
    · rfl
    · rw [rests]

/-- **The scanner finds the first match.**  The induction is along the scanner: where nothing closes
the string behind a quote with a backslash, this quote is what the pattern comes back to. -/
theorem head?_rests_closing (quote : Char) (text : List Char) :
    ((closing quote).rests text).head? = (quoted? quote text).map text.drop := by
  fun_induction quoted? quote text with
  | case1 => rw [rests_closing_nil]; rfl
  | case2 => rw [rests_closing_cons, if_pos rfl]; rfl
  | case3 c hc =>
    rw [rests_closing_cons, if_neg hc, if_neg (by simp), rests_closing_nil, ite_self]
    rfl
  | case4 next rest => rw [rests_closing_cons, if_pos rfl]; rfl
  | case5 c next rest hc hline =>
    have hbackslash : c ≠ '\\' := by
      rintro rfl
      exact absurd hline (by decide)
    rw [rests_closing_cons, if_neg hc, if_neg (fun h => hbackslash h.1), if_pos hline]
    rfl
  | case6 c next rest hc hline hescaped more hmore ih =>
    obtain ⟨rfl, rfl⟩ := hescaped
    rw [hmore] at ih
    rw [rests_closing_cons, if_neg hc, if_pos ⟨rfl, rfl⟩, List.nil_append, List.tail_cons,
      List.head?_append, ih]
    rfl
  | case7 c next rest hc hline hescaped hnone ih =>
    obtain ⟨rfl, rfl⟩ := hescaped
    rw [hnone, Option.map_none, List.head?_eq_none_iff] at ih
    rw [rests_closing_cons, if_neg hc, if_pos ⟨rfl, rfl⟩, if_neg hline, List.tail_cons, ih,
      rests_closing_cons, if_pos rfl]
    rfl
  | case8 c next rest hc hline hescaped ih =>
    rw [rests_closing_cons, if_neg hc, if_neg (by simpa using hescaped), if_neg hline,
      List.nil_append, List.nil_append, ih, Option.map_map]
    rfl

end Pattern

/-! ## Where a string ends -/

/-- Nothing closes a string exactly if there is no further quote on the line. -/
theorem quoted?_eq_none_iff {quote : Char} (hq : IsQuote quote) (text : List Char) :
    quoted? quote text = none ↔ quote ∉ text.takeWhile fun c => !isLineEnd c := by
  have measured := measures_quoted? hq text
  constructor
  · intro hnone hmem
    obtain ⟨left, right, hline, hleft⟩ := List.eq_append_cons_of_mem hmem
    have hcloses : Closes quote (left ++ [quote]) := by
      refine ⟨left, rfl, fun c hc => ?_, fun front back hinner => ?_⟩
      · have hline : c ∈ text.takeWhile fun c => !isLineEnd c :=
          hline ▸ List.mem_append_left _ hc
        simpa using List.mem_takeWhile_imp hline
      · exact absurd (hinner ▸ List.mem_append_right front List.mem_cons_self) hleft
    have hprefix : left ++ [quote] <+: text := by
      refine List.IsPrefix.trans ⟨right, ?_⟩ (List.takeWhile_prefix fun c => !isLineEnd c)
      rw [List.append_assoc, List.singleton_append, hline]
    rw [hnone] at measured
    exact measured _ hprefix hcloses
  · intro hmem
    cases hcount : quoted? quote text with
    | none => rfl
    | some count =>
      rw [hcount] at measured
      obtain ⟨body, ⟨rest, rfl⟩, ⟨inner, rfl, hinner, -⟩, -, -⟩ := measured
      refine absurd ?_ hmem
      have hline : ∀ c ∈ inner ++ [quote], (!isLineEnd c) = true := by
        intro c hc
        rcases List.mem_append.1 hc with hc | hc
        · rw [hinner c hc]
          rfl
        · rw [List.mem_singleton.1 hc, hq.isLineEnd_eq_false]
          rfl
      rw [List.takeWhile_append_of_pos hline]
      simp

/-- What is counted of a text stands on one line. -/
theorem isLineEnd_of_mem_take_quoted? {quote : Char} (hq : IsQuote quote) {text : List Char}
    {count : Nat} (h : quoted? quote text = some count) :
    count ≤ text.length ∧ ∀ c ∈ text.take count, isLineEnd c = false := by
  have measured := measures_quoted? hq text
  rw [h] at measured
  obtain ⟨body, ⟨rest, rfl⟩, ⟨inner, rfl, hinner, -⟩, rfl, -⟩ := measured
  refine ⟨by simp, fun c hc => ?_⟩
  rw [List.take_left] at hc
  rcases List.mem_append.1 hc with hc | hc
  · exact hinner c hc
  · rw [List.mem_singleton.1 hc]
    exact hq.isLineEnd_eq_false

/-- **A quoted string is the first match of a pattern.**  Take a text that starts with a quote.  The
scanner says how long the quoted string is, its quotes included.  This is the length of the match
that going back finds for the pattern, and what is left behind it is left behind the first of all
matches, in the order in which they are tried; there is no string exactly if there is no match.  The
string stays on its line, and there is none exactly if there is no further quote on the line. -/
theorem quoted?_eq_firstMatch? {quote : Char} (hq : IsQuote quote) (rest : List Char) :
    let text := quote :: rest
    let count := (quoted? quote rest).map (· + 1)
    count = (Pattern.quotedString quote).firstMatch? text ∧
    ((Pattern.quotedString quote).rests text).head? = count.map text.drop ∧
    (∀ n ∈ count, n ≤ text.length ∧ ∀ c ∈ text.take n, isLineEnd c = false) ∧
    (count = none ↔ quote ∉ rest.takeWhile fun c => !isLineEnd c) := by
  intro text count
  have hstring : ∀ n ∈ count, n ≤ text.length ∧ ∀ c ∈ text.take n, isLineEnd c = false := by
    intro n hn
    obtain ⟨inner, hinner, rfl⟩ := Option.map_eq_some_iff.1 hn
    obtain ⟨hle, hline⟩ := isLineEnd_of_mem_take_quoted? hq hinner
    refine ⟨Nat.succ_le_succ hle, List.forall_mem_cons.2 ⟨hq.isLineEnd_eq_false, hline⟩⟩
  have hleft : ((Pattern.quotedString quote).rests text).head? = count.map text.drop := by
    rw [Pattern.rests_quotedString_cons, Pattern.head?_rests_closing, Option.map_map]
    rfl
  refine ⟨?_, hleft, hstring, ?_⟩
  · rw [Pattern.firstMatch?_eq_map_head?, hleft, Option.map_map]
    cases hcount : count with
    | none => rfl
    | some n =>
      have hle : n ≤ text.length := (hstring n hcount).1
      rw [Option.map_some, Function.comp_apply, List.length_drop, Nat.sub_sub_self hle]
  · rw [← quoted?_eq_none_iff hq, Option.map_eq_none_iff]

/-- All quotes of the line but the first have a backslash, so that the last of them ends the string,
and the one on the next line does not count. -/
theorem quoted?_eq_firstMatch?_escapes :
    IsQuote '\x27' ∧
      let rest := "a\\'\\\\\\'b\n'".toList
      let text := '\x27' :: rest
      (quoted? '\x27' rest).map (· + 1) = some 8 ∧
      (Pattern.quotedString '\x27').firstMatch? text = some 8 ∧
      ((Pattern.quotedString '\x27').rests text).head? = some "b\n'".toList ∧
      (∀ c ∈ text.take 8, isLineEnd c = false) := by
  have hq : IsQuote '\x27' := Or.inl rfl
  refine ⟨hq, ?_⟩
  intro rest text
  obtain ⟨hlength, hleft, hline, -⟩ := quoted?_eq_firstMatch? hq rest
  have hcount : (quoted? '\x27' rest).map (· + 1) = some 8 := by decide
  refine ⟨hcount, hlength.symm.trans hcount, ?_, (hline 8 hcount).2⟩
  rw [hleft, hcount]
  rfl

end Style
end MarkupJsx
