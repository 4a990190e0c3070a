import Mathlib.Data.List.Infix
import MarkupJsx.Style.Value

/-!
# The pieces of a value

A value is told here by its pieces and not by the counting that finds them.  A quoted string goes
as far as anything closes it: a quote closes the string if it is on the same line and all quotes
before it have a backslash in front of them (`Closes`), and the last quote that does so is the one
that counts.  So a quote without a backslash ends the string, and where there is none on the line,
the last quote with a backslash does.  A group goes to the next closing parenthesis.  A quote or an
opening parenthesis stands for itself only where nothing closes it (`Piece`).

Whether pieces are the right ones depends on the text behind them, which is why `Piece` and
`ValueText` look at it as well.

* `measures_quoted?`: the scanner finds the longest text that closes a quoted string.
* `exists_piece`, `Piece.pieceTail_eq`: the pieces are those that `pieceTail` measures.
* `valueText_takeValue`, `takeValue_append_of_valueText`: a value is all the pieces up to the end, a
  semicolon or a closing brace.
-/

namespace MarkupJsx
namespace Style

/-- The characters that open quoted strings. -/
def IsQuote (c : Char) : Prop :=
  c = '\x27' ∨ c = '\x22'

/-- A text that can stand behind an opening quote and end a quoted string: it ends with the quote,
it stays on one line, and every quote before the last has a backslash in front of it. -/
def Closes (quote : Char) (body : List Char) : Prop :=
  ∃ inner, body = inner ++ [quote] ∧ (∀ c ∈ inner, isLineEnd c = false) ∧
    ∀ left right, inner = left ++ quote :: right → left.getLast? = some '\\'

/-- A piece of a value, with the text that follows it. -/
inductive Piece : List Char → List Char → Prop
  | quoted {quote : Char} {body rest : List Char} (isQuote : IsQuote quote)
      (closes : Closes quote body)
      (longest : ∀ longer, longer <+: body ++ rest → Closes quote longer →
        longer.length ≤ body.length) :
      Piece (quote :: body) rest
  | group {inner rest : List Char} (first : ')' ∉ inner) :
      Piece ('(' :: (inner ++ [')'])) rest
  | single {c : Char} {rest : List Char} (goesOn : endsValue c = false)
      (noString : IsQuote c → ∀ body, body <+: rest → ¬Closes c body)
      (noGroup : c = '(' → ')' ∉ rest) :
      Piece [c] rest

/-- A value, with the text that follows it: pieces up to a character that ends values, or up to
the end of the text. -/
inductive ValueText : List Char → List Char → Prop
  | nil {rest : List Char} (ends : ∀ c ∈ rest.head?, endsValue c) : ValueText [] rest
  | cons {piece value rest : List Char} (first : Piece piece (value ++ rest))
      (others : ValueText value rest) : ValueText (piece ++ value) rest

/-! ## Quoted strings -/

namespace IsQuote

variable {quote : Char}

theorem isLineEnd_eq_false (h : IsQuote quote) : isLineEnd quote = false := by
  rcases h with rfl | rfl <;> rfl

theorem endsValue_eq_false (h : IsQuote quote) : endsValue quote = false := by
  rcases h with rfl | rfl <;> rfl

theorem ne_backslash (h : IsQuote quote) : quote ≠ '\\' := by
  rcases h with rfl | rfl <;> decide

theorem ne_parenthesis (h : IsQuote quote) : quote ≠ '(' := by
  rcases h with rfl | rfl <;> decide

end IsQuote

theorem not_closes_nil (quote : Char) : ¬Closes quote [] := by
  rintro ⟨inner, h, -, -⟩
  simp at h

/-- The last character of what closes a string is the quote. -/
theorem closes_singleton_iff {quote c : Char} : Closes quote [c] ↔ c = quote := by
  constructor
  · rintro ⟨inner, h, -, -⟩
    simpa using congrArg List.getLast? h
  · rintro rfl
    exact ⟨[], rfl, by simp, by simp⟩

/-- A quote in front of more text does not have a backslash before it. -/
theorem not_closes_quote_cons (quote c : Char) (rest : List Char) :
    ¬Closes quote (quote :: c :: rest) := by
  rintro ⟨inner, h, -, escaped⟩
  cases inner with
  | nil => simp at h
  | cons first inner =>
    have hf : quote = first := (List.cons.inj h).1
    have := escaped [] inner (by rw [hf, List.nil_append])
    simp at this

/-- What closes a string stays on its line. -/
theorem not_closes_of_isLineEnd {quote c : Char} (hq : IsQuote quote) (hc : isLineEnd c)
    (rest : List Char) : ¬Closes quote (c :: rest) := by
  rintro ⟨inner, h, line, -⟩
  cases inner with
  | nil =>
    have hf : c = quote := (List.cons.inj h).1
    rw [hf, hq.isLineEnd_eq_false] at hc
    cases hc
  | cons first inner =>
    have hf : c = first := (List.cons.inj h).1
    have := line first (List.mem_cons_self ..)
    rw [← hf, hc] at this
    cases this

/-- Behind a quote with a backslash, the string starts as if it were new. -/
theorem closes_escaped_iff {quote : Char} (hq : IsQuote quote) (rest : List Char) :
    Closes quote ('\\' :: quote :: rest) ↔ rest = [] ∨ Closes quote rest := by
  constructor
  · rintro ⟨inner, h, line, escaped⟩
    match inner with
    | [] => simp at h
    | [_] =>
      have hrest : rest = [] := by simpa using (List.cons.inj (List.cons.inj h).2).2
      exact .inl hrest
    | first :: second :: inner =>
      simp only [List.cons_append, List.cons.injEq] at h
      obtain ⟨rfl, rfl, rfl⟩ := h
      refine .inr ⟨inner, rfl, fun c hc => line c (by simp [hc]), fun left right hi => ?_⟩
      have hlast := escaped ('\\' :: quote :: left) right (by simp [hi])
      cases left with
      | nil => exact absurd (by simpa using hlast) hq.ne_backslash
      | cons x left => simpa using hlast
  · rintro (rfl | ⟨inner, rfl, line, escaped⟩)
    · refine ⟨['\\'], rfl, by simp [isLineEnd], fun left right hi => ?_⟩
      cases left with
      | nil => exact absurd (List.cons.inj hi).1.symm hq.ne_backslash
      | cons x left => simp at hi
    · refine ⟨'\\' :: quote :: inner, rfl, ?_, fun left right hi => ?_⟩
      · intro c hc
        rcases List.mem_cons.1 hc with rfl | hc
        · rfl
        · rcases List.mem_cons.1 hc with rfl | hc
          · exact hq.isLineEnd_eq_false
          · exact line c hc
      · match left with
        | [] => exact absurd (List.cons.inj hi).1.symm hq.ne_backslash
        | [x] =>
          have hx : '\\' = x := (List.cons.inj hi).1
          rw [← hx, List.getLast?_singleton]
        | x :: y :: left =>
          simp only [List.cons_append, List.cons.injEq] at hi
          have hlast := escaped left right hi.2.2
          rw [List.getLast?_cons, List.getLast?_cons, hlast, Option.getD_some, Option.getD_some]

/-- Any other character is passed. -/
theorem closes_cons_iff {quote c : Char} {body : List Char} (hc : c ≠ quote)
    (hl : isLineEnd c = false) (he : ¬(c = '\\' ∧ body.head? = some quote)) :
    Closes quote (c :: body) ↔ Closes quote body := by
  constructor
  · rintro ⟨inner, h, line, escaped⟩
    cases inner with
    | nil => exact absurd (List.cons.inj h).1 hc
    | cons first inner =>
      obtain ⟨rfl, rfl⟩ := List.cons.inj h
      refine ⟨inner, rfl, fun d hd => line d (by simp [hd]), fun left right hi => ?_⟩
      have hlast := escaped (c :: left) right (by simp [hi])
      cases left with
      | nil => exact absurd ⟨by simpa using hlast, by simp [hi]⟩ he
      | cons x left => simpa using hlast
  · rintro ⟨inner, rfl, line, escaped⟩
    refine ⟨c :: inner, rfl, ?_, fun left right hi => ?_⟩
    · intro d hd
      rcases List.mem_cons.1 hd with rfl | hd
      · exact hl
      · exact line d hd
    · cases left with
      | nil => exact absurd (List.cons.inj hi).1 hc
      | cons x left =>
        have hlast := escaped left right (List.cons.inj hi).2
        rw [List.getLast?_cons, hlast, Option.getD_some]

/-- What closes a string at the front of a text starts with its first character. -/
theorem Closes.exists_cons {quote c : Char} {body rest : List Char} (h : Closes quote body)
    (hp : body <+: c :: rest) : ∃ tail, body = c :: tail ∧ tail <+: rest := by
  rcases List.prefix_cons_iff.1 hp with rfl | hp
  · exact absurd h (not_closes_nil quote)
  · exact hp

/-- What closes a string at the front of a text that starts with a backslash and a quote. -/
theorem Closes.exists_escaped {quote : Char} (hq : IsQuote quote) {body rest : List Char}
    (h : Closes quote body) (hp : body <+: '\\' :: quote :: rest) :
    ∃ tail, body = '\\' :: quote :: tail ∧ (tail = [] ∨ tail <+: rest ∧ Closes quote tail) := by
  obtain ⟨tail, rfl, ht⟩ := h.exists_cons hp
  rcases List.prefix_cons_iff.1 ht with rfl | ⟨tail, rfl, ht'⟩
  · exact absurd (closes_singleton_iff.1 h).symm hq.ne_backslash
  · exact ⟨tail, rfl, ((closes_escaped_iff hq tail).1 h).imp_right fun h => ⟨ht', h⟩⟩

/-- What a count says about a quoted string: it is the length of the longest text that closes the
string, and there is no count where nothing closes it. -/
def Measures (quote : Char) (text : List Char) : Option Nat → Prop
  | none => ∀ body, body <+: text → ¬Closes quote body
  | some count => ∃ body, body <+: text ∧ Closes quote body ∧ body.length = count ∧
      ∀ longer, longer <+: text → Closes quote longer → longer.length ≤ count

namespace Measures

variable {quote c next : Char} {rest : List Char}

theorem nil (quote : Char) : Measures quote [] none := by
  intro body hp h
  rw [List.prefix_nil.1 hp] at h
  exact not_closes_nil quote h

/-- A quote without a backslash before it ends the string, and nothing longer does. -/
theorem quote_cons (quote : Char) (rest : List Char) : Measures quote (quote :: rest) (some 1) := by
  refine ⟨[quote], ⟨rest, rfl⟩, closes_singleton_iff.2 rfl, rfl, fun longer hp h => ?_⟩
  obtain ⟨tail, rfl, -⟩ := h.exists_cons hp
  cases tail with
  | nil => exact Nat.le_refl _
  | cons d tail => exact absurd h (not_closes_quote_cons quote d tail)

/-- A quote with a backslash before it ends the string if nothing behind it does. -/
theorem escaped (hq : IsQuote quote) {count : Option Nat} (h : Measures quote rest count) :
    Measures quote ('\\' :: quote :: rest) (some (count.getD 0 + 2)) := by
  cases count with
  | none =>
    refine ⟨['\\', quote], by simp, (closes_escaped_iff hq []).2 (.inl rfl), rfl,
      fun longer hp hc => ?_⟩
    obtain ⟨tail, rfl, rfl | ⟨ht, hc⟩⟩ := hc.exists_escaped hq hp
    · exact Nat.le_refl _
    · exact absurd hc (h tail ht)
  | some more =>
    obtain ⟨body, hp, hb, hlen, longest⟩ := h
    refine ⟨'\\' :: quote :: body, by simpa using hp, (closes_escaped_iff hq body).2 (.inr hb),
      by simp [hlen], fun longer hp hc => ?_⟩
    obtain ⟨tail, rfl, rfl | ⟨ht, hc⟩⟩ := hc.exists_escaped hq hp
    · simp
    · simpa using longest tail ht hc

/-- Any other character counts for one. -/
theorem cons (hc : c ≠ quote) (hl : isLineEnd c = false)
    (he : ¬(c = '\\' ∧ rest.head? = some quote)) {count : Option Nat}
    (h : Measures quote rest count) : Measures quote (c :: rest) (count.map (· + 1)) := by
  have pass : ∀ body, body <+: rest → (Closes quote (c :: body) ↔ Closes quote body) := by
    intro body hp
    refine closes_cons_iff hc hl fun ⟨hs, hh⟩ => he ⟨hs, ?_⟩
    obtain ⟨last, rfl⟩ := hp
    rw [List.head?_append, hh]
    rfl
  cases count with
  | none =>
    intro body hp hb
    obtain ⟨tail, rfl, ht⟩ := hb.exists_cons hp
    exact h tail ht ((pass tail ht).1 hb)
  | some more =>
    obtain ⟨body, hp, hb, hlen, longest⟩ := h
    refine ⟨c :: body, by simpa using hp, (pass body hp).2 hb, by simp [hlen],
      fun longer hp hb => ?_⟩
    obtain ⟨tail, rfl, ht⟩ := hb.exists_cons hp
    simpa using longest tail ht ((pass tail ht).1 hb)

end Measures

/-- The scanner finds the longest text that closes a string.  The induction is along the scanner:
behind a quote with a backslash, it starts again. -/
theorem measures_quoted? {quote : Char} (hq : IsQuote quote) (text : List Char) :
    Measures quote text (quoted? quote text) := by
  fun_induction quoted? quote text with
  | case1 => exact .nil quote
  | case2 => exact .quote_cons quote []
  | case3 c hc =>
    intro body hp h
    obtain ⟨tail, rfl, ht⟩ := h.exists_cons hp
    rw [List.prefix_nil.1 ht] at h
    exact hc (closes_singleton_iff.1 h)
  | case4 next rest => exact .quote_cons quote (next :: rest)
  | case5 c next rest hc hl =>
    intro body hp h
    obtain ⟨tail, rfl, -⟩ := h.exists_cons hp
    exact not_closes_of_isLineEnd hq hl tail h
  | case6 c next rest hc hl he more hm ih =>
    obtain ⟨rfl, rfl⟩ := he
    rw [hm] at ih
    exact ih.escaped hq
  | case7 c next rest hc hl he hm ih =>
    obtain ⟨rfl, rfl⟩ := he
    rw [hm] at ih
    exact ih.escaped hq
  | case8 c next rest hc hl he ih => exact ih.cons hc (by simpa using hl) (by simpa using he)

/-! ## Groups -/

theorem closed?_eq_none_iff {text : List Char} : closed? text = none ↔ ')' ∉ text := by
  induction text with
  | nil => simp [closed?]
  | cons c rest ih =>
    by_cases hc : c = ')'
    · simp [closed?, hc]
    · have hc' : ')' ≠ c := fun h => hc h.symm
      simp [closed?, hc, hc', ih]

theorem closed?_append {inner : List Char} (h : ')' ∉ inner) (rest : List Char) :
    closed? (inner ++ ')' :: rest) = some (inner.length + 1) := by
  induction inner with
  | nil => rfl
  | cons c inner ih =>
    have hc : c ≠ ')' := fun hc => h (hc ▸ List.mem_cons_self ..)
    have hi : ')' ∉ inner := fun hi => h (List.mem_cons_of_mem _ hi)
    rw [List.cons_append, closed?, if_neg hc, ih hi, Option.map_some, List.length_cons]

/-! ## Pieces -/

theorem pieceTail_of_isQuote {c : Char} (h : IsQuote c) (rest : List Char) :
    pieceTail c rest = (quoted? c rest).getD 0 :=
  if_pos h

theorem pieceTail_parenthesis (rest : List Char) : pieceTail '(' rest = (closed? rest).getD 0 :=
  rfl

theorem pieceTail_of_ne {c : Char} (hq : ¬IsQuote c) (hp : c ≠ '(') (rest : List Char) :
    pieceTail c rest = 0 :=
  (if_neg hq).trans (if_neg hp)

/-- A piece takes what it says from the text. -/
theorem Piece.pieceTail_eq {c : Char} {tail rest : List Char} (h : Piece (c :: tail) rest) :
    pieceTail c (tail ++ rest) = tail.length := by
  cases h with
  | quoted isQuote closes longest =>
    rw [pieceTail_of_isQuote isQuote]
    have measured := measures_quoted? isQuote (tail ++ rest)
    cases hm : quoted? c (tail ++ rest) with
    | none =>
      rw [hm] at measured
      exact absurd closes (measured tail (List.prefix_append tail rest))
    | some count =>
      rw [hm] at measured
      obtain ⟨body, hp, hb, rfl, maximal⟩ := measured
      exact Nat.le_antisymm (longest body hp hb)
        (maximal tail (List.prefix_append tail rest) closes)
  | @group inner rest first =>
    rw [pieceTail_parenthesis, List.append_assoc, List.singleton_append, closed?_append first,
      Option.getD_some, List.length_append, List.length_singleton]
  | single _ noString noGroup =>
    rw [List.nil_append]
    by_cases hq : IsQuote c
    · rw [pieceTail_of_isQuote hq]
      have measured := measures_quoted? hq rest
      cases hm : quoted? c rest with
      | none => rfl
      | some count =>
        rw [hm] at measured
        obtain ⟨body, hp, hb, -, -⟩ := measured
        exact absurd hb (noString hq body hp)
    · by_cases hp : c = '('
      · subst hp
        rw [pieceTail_parenthesis, closed?_eq_none_iff.2 (noGroup rfl)]
        rfl
      · exact pieceTail_of_ne hq hp rest

/-- A piece does not start with a character that ends values. -/
theorem Piece.endsValue_eq_false {c : Char} {tail rest : List Char} (h : Piece (c :: tail) rest) :
    endsValue c = false := by
  cases h with
  | quoted isQuote => exact isQuote.endsValue_eq_false
  | group => rfl
  | single goesOn => exact goesOn

/-- What is measured at the front of a text is a piece. -/
theorem exists_piece {c : Char} (hc : endsValue c = false) (text : List Char) :
    ∃ tail rest, text = tail ++ rest ∧ pieceTail c text = tail.length ∧ Piece (c :: tail) rest := by
  by_cases hq : IsQuote c
  · rw [pieceTail_of_isQuote hq]
    have measured := measures_quoted? hq text
    cases hm : quoted? c text with
    | none =>
      rw [hm] at measured
      exact ⟨[], text, rfl, rfl,
        .single hc (fun _ => measured) fun hp => absurd hp hq.ne_parenthesis⟩
    | some count =>
      rw [hm] at measured
      obtain ⟨body, ⟨rest, rfl⟩, closes, rfl, longest⟩ := measured
      exact ⟨body, rest, rfl, rfl, .quoted hq closes longest⟩
  · by_cases hp : c = '('
    · subst hp
      rw [pieceTail_parenthesis]
      by_cases hm : ')' ∈ text
      · obtain ⟨inner, rest, rfl, first⟩ := List.eq_append_cons_of_mem hm
        rw [closed?_append first]
        exact ⟨inner ++ [')'], rest, by simp, by simp, .group first⟩
      · rw [closed?_eq_none_iff.2 hm]
        exact ⟨[], text, rfl, rfl, .single hc (fun h => absurd h hq) fun _ => hm⟩
    · rw [pieceTail_of_ne hq hp]
      exact ⟨[], text, rfl, rfl, .single hc (fun h => absurd h hq) fun h => absurd h hp⟩

theorem Piece.exists_cons {piece rest : List Char} (h : Piece piece rest) :
    ∃ c tail, piece = c :: tail := by
  cases h with
  | quoted => exact ⟨_, _, rfl⟩
  | group => exact ⟨_, _, rfl⟩
  | single => exact ⟨_, _, rfl⟩

/-! ## Values -/

/-- What is read as a value is a value. -/
theorem valueText_takeValue (text : List Char) :
    ValueText (takeValue text).1 (takeValue text).2 := by
  fun_induction takeValue text with
  | case1 => exact .nil (by simp)
  | case2 c rest hc => exact .nil (by simpa using hc)
  | case3 c rest hc count tail ih =>
    obtain ⟨front, behind, rfl, hcount, piece⟩ := exists_piece (by simpa using hc) rest
    have hcount : count = front.length := hcount
    have hbehind : tail.1 ++ tail.2 = behind := by
      rw [takeValue_append, hcount, List.drop_left]
    rw [hcount, List.take_left]
    have first : Piece (c :: front) (tail.1 ++ tail.2) := by rwa [hbehind]
    exact .cons first ih

/-- A value is read to its end and no further. -/
theorem takeValue_append_of_valueText {value rest : List Char} (h : ValueText value rest) :
    takeValue (value ++ rest) = (value, rest) := by
  induction h with
  | @nil rest ends =>
    cases rest with
    | nil => exact takeValue_nil
    | cons c rest => exact takeValue_of_endsValue (ends c rfl) rest
  | @cons piece value rest first _ ih =>
    obtain ⟨c, tail, rfl⟩ := first.exists_cons
    rw [List.append_assoc, List.cons_append, takeValue_piece first.endsValue_eq_false,
      first.pieceTail_eq, List.take_left,
      List.drop_left, ih, List.cons_append]

end Style
end MarkupJsx
