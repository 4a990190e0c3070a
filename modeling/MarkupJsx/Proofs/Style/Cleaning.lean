import MarkupJsx.Proofs.Style.Layout
import MarkupJsx.Proofs.Text.Trimming

/-!
# Names and values without comments

A name or a value is cleaned in two steps.  First its closed comments are taken out, from the front:
each goes from the first opening mark to the next closing mark, and what follows is looked at anew
(`Stripped`).  Then the blanks at both ends are taken off (`Trimmed`).

* `stripComments_eq_iff`, `trimBy_eq_iff`: the two steps do what is said of them, and nothing else.
* `clean_eq_iff`: so does cleaning as a whole.
-/

namespace MarkupJsx
namespace Style

variable {text out : List Char}

/-! ## Taking comments out -/

/-- Whether no comment in a text is closed. -/
def NoneClosed (text : List Char) : Prop :=
  ∀ front body, text = front ++ '/' :: '*' :: body → ¬['*', '/'] <:+: body

/-- A text, and what is left of it without its closed comments. -/
inductive Stripped : List Char → List Char → Prop
  | whole {text : List Char} (noneClosed : NoneClosed text) : Stripped text text
  | comment {front inner rest out : List Char} (opens : ¬['/', '*'] <:+: front)
      (closes : ¬['*', '/'] <:+: inner) (others : Stripped rest out) :
      Stripped (front ++ '/' :: '*' :: (inner ++ '*' :: '/' :: rest)) (front ++ out)

theorem noneClosed_of_no_comment (h : ¬['/', '*'] <:+: text) : NoneClosed text := by
  rintro front body rfl -
  exact h ⟨front, body, by simp⟩

theorem noneClosed_of_unclosed (h : ¬['*', '/'] <:+: text) : NoneClosed ('/' :: '*' :: text) := by
  intro front body htext hi
  match front with
  | [] => exact h ((List.cons.inj (List.cons.inj htext).2).2 ▸ hi)
  | [c] => exact absurd (List.cons.inj (List.cons.inj htext).2).1 (by decide)
  | c :: d :: front =>
    have hrest : text = front ++ ['/', '*'] ++ body := by
      simpa using (List.cons.inj (List.cons.inj htext).2).2
    exact h (hrest ▸ hi.trans (List.suffix_append _ body).isInfix)

theorem NoneClosed.tail {c : Char} (h : NoneClosed (c :: text)) : NoneClosed text := by
  rintro front body rfl
  exact h (c :: front) body rfl

/-- A character that opens no comment stays in front of the others. -/
theorem Stripped.cons {c : Char} (hc : ¬['/', '*'] <+: c :: text) (h : Stripped text out) :
    Stripped (c :: text) (c :: out) := by
  cases h with
  | whole noneClosed =>
    refine .whole fun front body htext => ?_
    cases front with
    | nil => exact absurd ⟨body, htext.symm⟩ hc
    | cons d front => exact noneClosed front body (List.cons.inj htext).2
  | @comment front inner rest out opens closes others =>
    have opens' : ¬['/', '*'] <:+: c :: front := by
      intro hi
      rcases List.infix_cons_iff.1 hi with hi | hi
      · exact hc (hi.trans (List.prefix_append (c :: front) _))
      · exact opens hi
    exact .comment opens' closes others

/-- A text in which no comment is closed is left as it is. -/
theorem stripComments_of_noneClosed (h : NoneClosed text) : stripComments text = text := by
  fun_induction stripComments text with
  | case1 => rfl
  | case2 => rfl
  | case3 c next rest hc count hcount ih =>
    have hnone := commentLength?_eq_none_iff.2 (h [] rest (by rw [hc.1, hc.2]; rfl))
    rw [hcount] at hnone
    cases hnone
  | case4 => rfl
  | case5 c next rest hc ih => rw [ih h.tail]

/-- The first closed comment is taken out, and then those behind it. -/
theorem stripComments_comment {front inner : List Char} (opens : ¬['/', '*'] <:+: front)
    (closes : ¬['*', '/'] <:+: inner) (rest : List Char) :
    stripComments (front ++ '/' :: '*' :: (inner ++ '*' :: '/' :: rest)) =
      front ++ stripComments rest := by
  induction front with
  | nil =>
    rw [List.nil_append, List.nil_append, stripComments, if_pos ⟨rfl, rfl⟩,
      commentLength?_append closes]
    simp only []
    rw [drop_closing]
  | cons c front ih =>
    have ih := ih fun hi => opens (List.infix_cons hi)
    cases front with
    | nil =>
      rw [List.singleton_append, stripComments, if_neg (by simp)]
      exact congrArg (c :: ·) ih
    | cons next front =>
      have hc : ¬(c = '/' ∧ next = '*') := by
        rintro ⟨rfl, rfl⟩
        exact opens ⟨[], front, rfl⟩
      rw [List.cons_append, List.cons_append, stripComments, if_neg hc]
      exact congrArg (c :: ·) ih

/-- What is left of a text is left of it. -/
theorem stripped_stripComments (text : List Char) : Stripped text (stripComments text) := by
  fun_induction stripComments text with
  | case1 => exact .whole (noneClosed_of_no_comment (by simp))
  | case2 c =>
    exact .whole (noneClosed_of_no_comment fun hi => absurd hi.length_le (by simp))
  | case3 c next rest hc count hcount ih =>
    obtain ⟨rfl, rfl⟩ := hc
    have hclosed : ['*', '/'] <:+: rest := by
      by_contra hopen
      rw [commentLength?_eq_none_iff.2 hopen] at hcount
      cases hcount
    obtain ⟨inner, behind, rfl, closes⟩ := exists_first_closing hclosed
    rw [commentLength?_append closes] at hcount
    obtain rfl := Option.some.inj hcount
    rw [drop_closing] at ih ⊢
    exact @Stripped.comment [] inner behind _ (by simp) closes ih
  | case4 c next rest hc hnone =>
    obtain ⟨rfl, rfl⟩ := hc
    exact .whole (noneClosed_of_unclosed (commentLength?_eq_none_iff.1 hnone))
  | case5 c next rest hc ih =>
    refine ih.cons fun hp => hc ?_
    simpa only [List.cons_prefix_cons, List.nil_prefix, and_true, eq_comm] using hp

/-- Closed comments are taken out of a text, and nothing else is. -/
theorem stripComments_eq_iff : stripComments text = out ↔ Stripped text out := by
  constructor
  · rintro rfl
    exact stripped_stripComments text
  · intro h
    induction h with
    | whole noneClosed => exact stripComments_of_noneClosed noneClosed
    | comment opens closes _ ih => rw [stripComments_comment opens closes, ih]

/-! ## Taking blanks off -/

/-- A text, and what is left of it without the blanks at its ends. -/
def Trimmed (text out : List Char) : Prop :=
  ∃ left right, text = left ++ (out ++ right) ∧ (∀ c ∈ left, isSpace c) ∧
    (∀ c ∈ right, isSpace c) ∧ StopsAt isSpace out ∧ ∀ c ∈ out.getLast?, isSpace c = false

/-- The blanks at the ends are taken off a text, and nothing else is. -/
theorem trimBy_eq_iff : Text.trimBy isSpace text = out ↔ Trimmed text out :=
  Text.trimBy_eq_iff

/-! ## Cleaning -/

/-- A name or value, and what is left of it without its comments and the blanks at its ends. -/
def Cleaned (text out : List Char) : Prop :=
  ∃ stripped, Stripped text stripped ∧ Trimmed stripped out

/-- Cleaning takes out closed comments and then takes off blanks, and does nothing else. -/
theorem clean_eq_iff : clean text = out ↔ Cleaned text out := by
  rw [clean, trimBy_eq_iff]
  constructor
  · exact fun h => ⟨_, stripped_stripComments text, h⟩
  · rintro ⟨stripped, hstripped, h⟩
    rwa [stripComments_eq_iff.2 hstripped]

end Style
end MarkupJsx
