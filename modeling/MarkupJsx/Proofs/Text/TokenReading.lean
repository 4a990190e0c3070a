import MarkupJsx.Text.TokenList
import MarkupJsx.Proofs.Text.Trimming

/-!
# Reading lists of tokens back

Whoever reads the value of an attribute that is a list splits it at its commas or at its blanks.
Between commas a token may be empty, so `commaTokens` keeps empty parts, and only the last one does
not count, since a comma at the end closes the last token.  Between blanks it may not, so
`blankTokens` knows of no empty parts.

The blanks at the ends of the joined tokens are taken off.  This may reach into the last part, if
nothing but a blank is in it, or into tokens that are padded themselves, but it is no matter to a
reader who takes the blanks off each part (`map_trimBy_splitOn_trimBy`) or splits at them
(`blankTokens_trimBy`).  So a list of tokens without commas and without blanks at their ends is read
back from its commas as it was, whichever of them are empty, and any list is read back from its
blanks as all the words of its tokens (`tokens_read_back`).
-/

namespace MarkupJsx
namespace Text
namespace TokenList

/-! ## Commas -/

/-- A list of parts without the last one, if nothing is in it. -/
def dropEmptyLast (parts : List (List Char)) : List (List Char) :=
  if parts.getLast? = some [] then parts.dropLast else parts

/-- The tokens of a comma-separated value: what stands between its commas, without the blanks around
it. -/
def commaTokens (value : List Char) : List (List Char) :=
  dropEmptyLast ((value.splitOn ',').map (trimBy isBlank))

/-- What can be told from what is around it in a comma-separated value: a token without commas and
without blanks at its ends.  It may be empty. -/
structure IsCommaToken (token : List Char) : Prop where
  no_comma : ',' ∉ token
  first : ∀ c ∈ token.head?, isBlank c = false
  last : ∀ c ∈ token.getLast?, isBlank c = false

theorem isCommaToken_nil : IsCommaToken [] :=
  ⟨by simp, by simp, by simp⟩

/-- An empty last token is there again once the one that was added is gone. -/
theorem dropEmptyLast_closeLast (tokens : List (List Char)) :
    dropEmptyLast (closeLast tokens) = tokens := by
  rw [closeLast]
  split
  · rw [dropEmptyLast, if_pos List.getLast?_concat, List.dropLast_concat]
  · rename_i hlast
    exact if_neg hlast

variable {separator : Char} {run : List Char}

/-- What is put in front of a text stands in its first part, unless it has a separator. -/
theorem exists_splitOn_append_left (h : separator ∉ run) (text : List Char) :
    ∃ first rest, text.splitOn separator = first :: rest ∧
      (run ++ text).splitOn separator = (run ++ first) :: rest := by
  induction run with
  | nil =>
    obtain ⟨first, rest, hsplit⟩ := List.exists_cons_of_ne_nil (List.splitOn_ne_nil separator text)
    exact ⟨first, rest, hsplit, hsplit⟩
  | cons c run ih =>
    obtain ⟨hc, hrun⟩ := not_or.1 (mt List.mem_cons.2 h)
    obtain ⟨first, rest, hsplit, hrunSplit⟩ := ih hrun
    refine ⟨first, rest, hsplit, ?_⟩
    rw [List.cons_append, List.splitOn_cons_eq_if_modifyHead, if_neg (by simpa using Ne.symm hc),
      hrunSplit, List.modifyHead_cons, List.cons_append]

/-- What is put behind a text stands in its last part, unless it has a separator. -/
theorem exists_splitOn_append_right (h : separator ∉ run) (text : List Char) :
    ∃ front last, text.splitOn separator = front ++ [last] ∧
      (text ++ run).splitOn separator = front ++ [last ++ run] := by
  induction text with
  | nil => exact ⟨[], [], List.splitOn_nil separator, List.splitOn_eq_singleton h⟩
  | cons c text ih =>
    obtain ⟨front, last, hsplit, hrunSplit⟩ := ih
    rw [List.cons_append, List.splitOn_cons_eq_if_modifyHead, List.splitOn_cons_eq_if_modifyHead,
      hsplit, hrunSplit]
    split
    · exact ⟨[] :: front, last, rfl, rfl⟩
    · cases front with
      | nil => exact ⟨[], c :: last, rfl, rfl⟩
      | cons first front => exact ⟨(c :: first) :: front, last, rfl, rfl⟩

/-- **Who takes the blanks off each part does not miss those at the ends of the whole.** -/
theorem map_trimBy_splitOn_trimBy {p : Char → Bool} (hseparator : p separator = false)
    (text : List Char) :
    ((trimBy p text).splitOn separator).map (trimBy p) =
      (text.splitOn separator).map (trimBy p) := by
  obtain ⟨left, right, hsplit, hleft, hright, -⟩ := trims_trimBy p text
  have hfree : ∀ {run : List Char}, (∀ c ∈ run, p c) → separator ∉ run := by
    intro run hrun hmem
    simp [hrun separator hmem] at hseparator
  obtain ⟨first, rest, hwithout, hwith⟩ :=
    exists_splitOn_append_left (hfree hleft) (trimBy p text ++ right)
  obtain ⟨front, last, hbare, hbehind⟩ :=
    exists_splitOn_append_right (hfree hright) (trimBy p text)
  conv_rhs =>
    rw [hsplit, hwith, List.map_cons, trimBy_append_left hleft, ← List.map_cons, ← hwithout,
      hbehind]
  rw [hbare, List.map_append, List.map_append, List.map_singleton, List.map_singleton,
    trimBy_append_right hright]

/-- Blanks behind a comma are not missed either. -/
theorem map_trimBy_splitOn_cons {p : Char → Bool} {c : Char} (hseparator : p separator = false)
    (hc : p c) (text : List Char) :
    ((c :: text).splitOn separator).map (trimBy p) = (text.splitOn separator).map (trimBy p) := by
  have hpadded : trimBy p ([c] ++ text) = trimBy p text :=
    trimBy_append_left (List.forall_mem_singleton.2 hc) text
  rw [← List.singleton_append, ← map_trimBy_splitOn_trimBy hseparator, hpadded,
    map_trimBy_splitOn_trimBy hseparator]

theorem join_cons_cons (mark first next : List Char) (rest : List (List Char)) :
    join mark (first :: next :: rest) = first ++ (mark ++ join mark (next :: rest)) := by
  simp [join]

/-- The tokens stand between the commas of what they are joined to. -/
theorem map_trimBy_splitOn_join {tokens : List (List Char)} (hne : tokens ≠ [])
    (h : ∀ token ∈ tokens, IsCommaToken token) :
    ((join [',', ' '] tokens).splitOn ',').map (trimBy isBlank) = tokens := by
  induction tokens with
  | nil => exact absurd rfl hne
  | cons first rest ih =>
    have hfirst : IsCommaToken first := h first List.mem_cons_self
    have htrim : trimBy isBlank first = first := trimBy_of_ends hfirst.first hfirst.last
    cases rest with
    | nil =>
      have hjoin : join [',', ' '] [first] = first := by simp [join]
      rw [hjoin, List.splitOn_eq_singleton hfirst.no_comma, List.map_singleton, htrim]
    | cons next rest =>
      rw [join_cons_cons, List.cons_append, List.singleton_append,
        List.splitOn_append_cons_self_of_not_mem hfirst.no_comma, List.map_cons, htrim,
        map_trimBy_splitOn_cons rfl rfl,
        ih (List.cons_ne_nil _ _) fun token htoken => h token (List.mem_cons_of_mem _ htoken)]

/-- Closing the last token adds nothing but an empty one. -/
theorem isCommaToken_of_mem_closeLast {tokens : List (List Char)} {token : List Char}
    (h : ∀ token ∈ tokens, IsCommaToken token) (htoken : token ∈ closeLast tokens) :
    IsCommaToken token := by
  rw [closeLast] at htoken
  split at htoken
  · rcases List.mem_append.1 htoken with hmem | hmem
    · exact h token hmem
    · rw [List.mem_singleton.1 hmem]
      exact isCommaToken_nil
  · exact h token htoken

/-- **Tokens between commas are read back,** whichever of them are empty. -/
theorem commaTokens_withCommas {tokens : List (List Char)}
    (h : ∀ token ∈ tokens, IsCommaToken token) : commaTokens (withCommas tokens) = tokens := by
  rcases List.eq_nil_or_concat' tokens with rfl | ⟨front, last, hconcat⟩
  · rfl
  · have hne : closeLast tokens ≠ [] := by
      rw [closeLast]
      split <;> simp [hconcat]
    rw [commaTokens, withCommas, map_trimBy_splitOn_trimBy rfl,
      map_trimBy_splitOn_join hne fun token htoken => isCommaToken_of_mem_closeLast h htoken,
      dropEmptyLast_closeLast]

/-! ## Blanks -/

/-- The tokens of a blank-separated value: what stands between its blanks, unless it is empty. -/
def blankTokens (value : List Char) : List (List Char) :=
  (value.splitOnP isBlank).filter (· ≠ [])

@[simp] theorem blankTokens_nil : blankTokens [] = [] := rfl

/-- A blank ends a token, and the next one starts behind it. -/
theorem blankTokens_append_cons {c : Char} (hc : isBlank c) (left right : List Char) :
    blankTokens (left ++ c :: right) = blankTokens left ++ blankTokens right := by
  rw [blankTokens, List.splitOnP_append_cons left right hc, List.filter_append]
  rfl

theorem blankTokens_blanks_append {blanks : List Char} (h : ∀ c ∈ blanks, isBlank c)
    (text : List Char) : blankTokens (blanks ++ text) = blankTokens text := by
  induction blanks with
  | nil => rfl
  | cons c blanks ih =>
    have hfront := blankTokens_append_cons (h c List.mem_cons_self) [] (blanks ++ text)
    rw [List.nil_append, blankTokens_nil, List.nil_append] at hfront
    rw [List.cons_append, hfront, ih fun d hd => h d (List.mem_cons_of_mem c hd)]

theorem blankTokens_append_blanks {blanks : List Char} (h : ∀ c ∈ blanks, isBlank c)
    (text : List Char) : blankTokens (text ++ blanks) = blankTokens text := by
  cases blanks with
  | nil => rw [List.append_nil]
  | cons c blanks =>
    have hblanks := blankTokens_blanks_append (fun d hd => h d (List.mem_cons_of_mem c hd)) []
    rw [List.append_nil, blankTokens_nil] at hblanks
    rw [blankTokens_append_cons (h c List.mem_cons_self), hblanks, List.append_nil]

/-- **Who splits at the blanks does not miss those at the ends.** -/
theorem blankTokens_trimBy (text : List Char) :
    blankTokens (trimBy isBlank text) = blankTokens text := by
  obtain ⟨left, right, hsplit, hleft, hright, -⟩ := trims_trimBy isBlank text
  conv_rhs => rw [hsplit, blankTokens_blanks_append hleft, blankTokens_append_blanks hright]

theorem blankTokens_join (tokens : List (List Char)) :
    blankTokens (join [' '] tokens) = tokens.flatMap blankTokens := by
  induction tokens with
  | nil => rfl
  | cons first rest ih =>
    cases rest with
    | nil => simp [join]
    | cons next rest =>
      rw [join_cons_cons, List.singleton_append, blankTokens_append_cons rfl, ih,
        ← List.flatMap_cons]

/-- **Tokens between blanks are read back** as the words that are in them. -/
theorem blankTokens_withBlanks (tokens : List (List Char)) :
    blankTokens (withBlanks tokens) = tokens.flatMap blankTokens := by
  rw [withBlanks, blankTokens_trimBy, blankTokens_join]

/-- **Lists of tokens can be read back.**  What is between the commas of a comma-separated value,
without the blanks around it and without an empty last part, are the tokens that it was made of, if
these have no commas and no blanks at their ends.  So no two such lists have the same value.  What
is between the blanks of a blank-separated value is what is between the blanks of its tokens, one
token after the other. -/
theorem tokens_read_back :
    (∀ tokens : List (List Char), (∀ token ∈ tokens, IsCommaToken token) →
      commaTokens (withCommas tokens) = tokens) ∧
    (∀ tokens others : List (List Char), (∀ token ∈ tokens, IsCommaToken token) →
      (∀ token ∈ others, IsCommaToken token) → withCommas tokens = withCommas others →
      tokens = others) ∧
    ∀ tokens : List (List Char),
      blankTokens (withBlanks tokens) = tokens.flatMap blankTokens := by
  refine ⟨fun tokens => commaTokens_withCommas, fun tokens others htokens hothers h => ?_,
    blankTokens_withBlanks⟩
  rw [← commaTokens_withCommas htokens, h, commaTokens_withCommas hothers]

/-- Empty tokens at the front, inside and at the end, and words with no-break spaces between them.
-/
theorem tokens_read_back_empties :
    let tokens := ["", "a b", "", ""].map String.toList
    let words := [" a  b", "", "c\u00a0d "].map String.toList
    (∀ token ∈ tokens, IsCommaToken token) ∧
      withCommas tokens = ", a b, , ,".toList ∧
      commaTokens ", a b, , ,".toList = tokens ∧
      withBlanks words = "a  b  c\u00a0d".toList ∧
      blankTokens "a  b  c\u00a0d".toList = ["a", "b", "c", "d"].map String.toList := by
  intro tokens words
  obtain ⟨hcommas, -, hblanks⟩ := tokens_read_back
  have htokens : ∀ token ∈ tokens, IsCommaToken token := by
    intro token htoken
    simp only [tokens, List.map_cons, List.map_nil, List.mem_cons, List.not_mem_nil, or_false]
      at htoken
    rcases htoken with rfl | rfl | rfl | rfl
    · exact isCommaToken_nil
    · refine ⟨by decide, fun c hc => ?_, fun c hc => ?_⟩
      · rw [← Option.mem_some.1 hc]
        decide
      · rw [← Option.mem_some.1 hc]
        decide
    · exact isCommaToken_nil
    · exact isCommaToken_nil
  have hwithCommas : withCommas tokens = ", a b, , ,".toList := by decide
  have hwithBlanks : withBlanks words = "a  b  c\u00a0d".toList := by decide
  refine ⟨htokens, hwithCommas, ?_, hwithBlanks, ?_⟩
  · rw [← hwithCommas, hcommas tokens htokens]
  · rw [← hwithBlanks, hblanks words]
    decide

end TokenList
end Text
end MarkupJsx
