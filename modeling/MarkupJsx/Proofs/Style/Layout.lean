import MarkupJsx.Proofs.Style.ValueText
import MarkupJsx.Proofs.Text.Trimming
import MarkupJsx.Style.Declaration

/-!
# How a style is laid out

The parts of a style are given here as they are written: comments, names and declarations, each
with the blanks that belong to it.  A part knows what holds of it on its own (`Remark`,
`NameLayout`, `DeclarationLayout`).  Whether the reader sees it as this part also depends on the
text behind it, since all runs of characters are taken as long as they are; that is what `Fits`
says.

Two texts are where the reader gives up: a comment that nothing closes, and one that stands behind
a name and is not a colon (`Failing`).

* `skipComments_remarksText`: comments are skipped, with the blanks behind each.
* `NameLayout.takeName_text`: a name that fits is read as it is written.
* `DeclarationLayout.readDeclaration_text`: so is a declaration.
* `readDeclaration_of_failing`: what cannot be read as a declaration, and where.
* `exists_declaration`: at the front of a text that starts like a name stands a declaration or a
  failure.
-/

namespace MarkupJsx
namespace Style

/-! ## Runs of characters -/

/-- Whether a text does not go on with a character of a class. -/
def StopsAt (p : Char → Bool) (text : List Char) : Prop :=
  ∀ c ∈ text.head?, p c = false

section Runs

variable {p : Char → Bool} {run rest : List Char}

@[simp] theorem stopsAt_nil : StopsAt p [] := by
  simp [StopsAt]

@[simp] theorem stopsAt_cons {c : Char} : StopsAt p (c :: rest) ↔ p c = false := by
  simp [StopsAt]

theorem stopsAt_dropWhile (text : List Char) : StopsAt p (text.dropWhile p) :=
  fun _ => Text.eq_false_of_mem_head?_dropWhile

theorem stopsAt_of_forall (h : ∀ c ∈ run, p c = false) : StopsAt p run :=
  fun c hc => h c (List.mem_of_head? hc)

theorem StopsAt.append_of_ne_nil (h : StopsAt p run) (hne : run ≠ []) (rest : List Char) :
    StopsAt p (run ++ rest) := by
  cases run with
  | nil => exact absurd rfl hne
  | cons c run => exact stopsAt_cons.2 (stopsAt_cons.1 h)

theorem StopsAt.append (h : StopsAt p run) (hr : StopsAt p rest) : StopsAt p (run ++ rest) := by
  cases run with
  | nil => exact hr
  | cons c run => exact h.append_of_ne_nil (List.cons_ne_nil c run) rest

theorem dropWhile_of_stopsAt (hs : StopsAt p rest) : rest.dropWhile p = rest := by
  cases rest with
  | nil => rfl
  | cons c rest => exact List.dropWhile_cons_of_neg (by simpa using hs)

theorem dropWhile_run (h : ∀ c ∈ run, p c) (hs : StopsAt p rest) :
    (run ++ rest).dropWhile p = rest := by
  rw [List.dropWhile_append_of_pos h, dropWhile_of_stopsAt hs]

theorem takeWhile_run (h : ∀ c ∈ run, p c) (hs : StopsAt p rest) :
    (run ++ rest).takeWhile p = run := by
  rw [List.takeWhile_append_of_pos h]
  cases rest with
  | nil => simp
  | cons c rest => rw [List.takeWhile_cons_of_neg (by simpa using hs), List.append_nil]

/-- Every text starts with a run that is as long as it can be. -/
theorem exists_run (p : Char → Bool) (text : List Char) :
    ∃ run rest, text = run ++ rest ∧ (∀ c ∈ run, p c) ∧ StopsAt p rest :=
  ⟨text.takeWhile p, text.dropWhile p, List.takeWhile_append_dropWhile.symm,
    List.all_eq_true.1 List.all_takeWhile, stopsAt_dropWhile text⟩

end Runs

/-! ## Comments -/

/-- A closed comment, and the blanks behind it. -/
structure Remark where
  inner : List Char
  blanks : List Char
  not_closed_before : ¬['*', '/'] <:+: inner
  isSpace_of_mem : ∀ c ∈ blanks, isSpace c

/-- A comment as it is written. -/
def Remark.text (remark : Remark) : List Char :=
  '/' :: '*' :: (remark.inner ++ '*' :: '/' :: remark.blanks)

/-- Comments as they are written one after the other. -/
def remarksText (remarks : List Remark) : List Char :=
  remarks.flatMap Remark.text

/-- Whether a text starts with a comment that nothing closes. -/
def UnclosedComment (text : List Char) : Prop :=
  ∃ body, text = '/' :: '*' :: body ∧ ¬['*', '/'] <:+: body

/-- Whether no closed comment stands at the front of a text. -/
def NoRemark (text : List Char) : Prop :=
  ¬['/', '*'] <+: text ∨ UnclosedComment text

@[simp] theorem remarksText_nil : remarksText [] = [] := rfl

@[simp] theorem remarksText_cons (remark : Remark) (remarks : List Remark) :
    remarksText (remark :: remarks) = remark.text ++ remarksText remarks := rfl

theorem Remark.opening_prefix (remark : Remark) (rest : List Char) :
    ['/', '*'] <+: remark.text ++ rest :=
  ⟨(remark.inner ++ '*' :: '/' :: remark.blanks) ++ rest, rfl⟩

/-- A comment starts with its mark, whatever is asked of the text at its place. -/
theorem stopsAt_remarksText {p : Char → Bool} (hp : p '/' = false) (remarks : List Remark)
    {rest : List Char} (hs : StopsAt p rest) : StopsAt p (remarksText remarks ++ rest) := by
  cases remarks with
  | nil => exact hs
  | cons remark remarks => simpa [Remark.text] using hp

/-- The first closing mark ends a comment. -/
theorem commentLength?_append {inner : List Char} (h : ¬['*', '/'] <:+: inner) (rest : List Char) :
    commentLength? (inner ++ '*' :: '/' :: rest) = some inner.length := by
  induction inner with
  | nil => rfl
  | cons c inner ih =>
    have ih := ih fun hi => h (List.infix_cons hi)
    cases inner with
    | nil => simp_all [commentLength?]
    | cons next inner =>
      have hc : ¬(c = '*' ∧ next = '/') := by
        rintro ⟨rfl, rfl⟩
        exact h ⟨[], inner, rfl⟩
      rw [List.cons_append, List.cons_append, commentLength?, if_neg hc, ← List.cons_append, ih]
      rfl

/-- A text with a closing mark has a first one. -/
theorem exists_first_closing {body : List Char} (h : ['*', '/'] <:+: body) :
    ∃ inner rest, body = inner ++ '*' :: '/' :: rest ∧ ¬['*', '/'] <:+: inner := by
  induction body with
  | nil => simp at h
  | cons c body ih =>
    by_cases hp : ['*', '/'] <+: c :: body
    · obtain ⟨rest, hrest⟩ := hp
      exact ⟨[], rest, hrest.symm, by simp⟩
    · obtain ⟨inner, rest, rfl, hi⟩ := ih ((List.infix_cons_iff.1 h).resolve_left hp)
      refine ⟨c :: inner, rest, rfl, fun hci => ?_⟩
      rcases List.infix_cons_iff.1 hci with hci | hci
      · exact hp (hci.trans (List.prefix_append _ _))
      · exact hi hci

theorem commentLength?_eq_none_iff {body : List Char} :
    commentLength? body = none ↔ ¬['*', '/'] <:+: body := by
  constructor
  · intro hnone h
    obtain ⟨inner, rest, rfl, closes⟩ := exists_first_closing h
    rw [commentLength?_append closes] at hnone
    cases hnone
  · intro h
    fun_induction commentLength? body with
    | case1 => rfl
    | case2 => rfl
    | case3 c next rest hc => exact absurd ⟨[], rest, by rw [hc.1, hc.2]; rfl⟩ h
    | case4 c next rest hc ih => rw [ih fun hi => h (List.infix_cons hi), Option.map_none]

/-- The text behind a closing mark. -/
theorem drop_closing (inner rest : List Char) :
    (inner ++ '*' :: '/' :: rest).drop (inner.length + 2) = rest := by
  rw [← List.drop_drop, List.drop_left]
  rfl

/-- What can stand where a comment may: none, one that nothing closes, or a closed one. -/
theorem exists_remark (text : List Char) :
    ¬['/', '*'] <+: text ∨ UnclosedComment text ∨
      ∃ (remark : Remark) (rest : List Char),
        text = remark.text ++ rest ∧ StopsAt isSpace rest := by
  by_cases hp : ['/', '*'] <+: text
  · obtain ⟨body, rfl⟩ := hp
    by_cases hb : ['*', '/'] <:+: body
    · obtain ⟨inner, behind, rfl, hi⟩ := exists_first_closing hb
      obtain ⟨blanks, rest, rfl, hblanks, hs⟩ := exists_run isSpace behind
      exact .inr (.inr ⟨⟨inner, blanks, hi, hblanks⟩, rest, by simp [Remark.text], hs⟩)
    · exact .inr (.inl ⟨body, rfl, hb⟩)
  · exact .inl hp

section Skipping

variable {text rest : List Char}

theorem skipComment_of_no_comment (h : ¬['/', '*'] <+: text) : skipComment text = .ok text := by
  unfold skipComment
  split
  · exact absurd ⟨_, rfl⟩ h
  · rfl

theorem skipComment_of_unclosed (h : UnclosedComment text) :
    skipComment text = .error ⟨.unclosedComment, text⟩ := by
  obtain ⟨body, rfl, hb⟩ := h
  simp only [skipComment, commentLength?_eq_none_iff.2 hb]

theorem skipComment_remark (remark : Remark) (hs : StopsAt isSpace rest) :
    skipComment (remark.text ++ rest) = .ok rest := by
  simp only [Remark.text, List.cons_append, List.append_assoc, skipComment,
    commentLength?_append remark.not_closed_before]
  rw [drop_closing, skipSpace, dropWhile_run remark.isSpace_of_mem hs]

theorem skipComments_of_no_comment (h : ¬['/', '*'] <+: text) : skipComments text = .ok text := by
  unfold skipComments
  split
  · exact absurd ⟨_, rfl⟩ h
  · rfl

/-- All comments are one comment and then all comments behind it. -/
theorem skipComments_eq_bind (h : ['/', '*'] <+: text) :
    skipComments text = (skipComment text).bind skipComments := by
  obtain ⟨body, rfl⟩ := h
  simp only [List.cons_append, List.nil_append, skipComment]
  rw [skipComments]
  cases commentLength? body <;> rfl

theorem skipComments_of_unclosed (h : UnclosedComment text) :
    skipComments text = .error ⟨.unclosedComment, text⟩ := by
  have hp : ['/', '*'] <+: text := h.elim fun body hb => ⟨body, hb.1.symm⟩
  rw [skipComments_eq_bind hp, skipComment_of_unclosed h]
  rfl

/-- Comments are skipped, each with the blanks behind it. -/
theorem skipComments_remarksText (remarks : List Remark) (hs : StopsAt isSpace rest) :
    skipComments (remarksText remarks ++ rest) = skipComments rest := by
  induction remarks with
  | nil => rfl
  | cons remark remarks ih =>
    rw [remarksText_cons, List.append_assoc, skipComments_eq_bind (remark.opening_prefix _),
      skipComment_remark remark (stopsAt_remarksText rfl remarks hs)]
    exact ih

end Skipping

/-- Every text starts with some comments, behind which there is no closed one. -/
theorem exists_remarks (text : List Char) (hs : StopsAt isSpace text) :
    ∃ (remarks : List Remark) (rest : List Char), text = remarksText remarks ++ rest ∧
      StopsAt isSpace rest ∧ NoRemark rest := by
  rcases exists_remark text with h | h | ⟨remark, behind, htext, hb⟩
  · exact ⟨[], text, rfl, hs, .inl h⟩
  · exact ⟨[], text, rfl, hs, .inr h⟩
  · have hlt : behind.length < text.length := by
      rw [htext, Remark.text, List.length_append, List.length_cons]
      omega
    obtain ⟨remarks, rest, hbehind, hr, h⟩ := exists_remarks behind hb
    exact ⟨remark :: remarks, rest, by simp [htext, hbehind], hr, h⟩
termination_by text.length
decreasing_by exact hlt

/-! ## Names -/

/-- Whether a text is a word in brackets as it can follow a name. -/
def Bracketed (text : List Char) : Prop :=
  ∃ inner, inner ≠ [] ∧ (∀ c ∈ inner, isHackChar c) ∧ text = '[' :: (inner ++ [']'])

/-- A word in brackets is taken along with the name before it. -/
theorem hackLength_append {hack : List Char} (h : Bracketed hack) (rest : List Char) :
    hackLength (hack ++ rest) = hack.length := by
  obtain ⟨inner, hi, hc, rfl⟩ := h
  have hrun : (inner ++ ']' :: rest).takeWhile isHackChar = inner :=
    takeWhile_run hc (stopsAt_cons.2 rfl)
  simp [hackLength, hrun, hi]

theorem hackLength_eq_zero {text : List Char} (h : ∀ hack, hack <+: text → ¬Bracketed hack) :
    hackLength text = 0 := by
  unfold hackLength
  split
  · rename_i behind
    obtain ⟨inner, rest, rfl, hc, hs⟩ := exists_run isHackChar behind
    rw [takeWhile_run hc hs]
    by_cases hn : inner.length = 0
    · simp only [hn, if_true]
    · simp only [hn, if_false]
      refine if_neg fun he => ?_
      rw [List.getElem?_append_right (Nat.le_refl _), Nat.sub_self] at he
      obtain ⟨last, rfl⟩ : ∃ last, rest = ']' :: last := by
        cases rest with
        | nil => cases he
        | cons c last => exact ⟨last, by simpa using he⟩
      exact h ('[' :: (inner ++ [']'])) ⟨last, by simp⟩
        ⟨inner, fun hi => hn (List.length_eq_zero_iff.2 hi), hc, rfl⟩
  · rfl

theorem exists_hack (text : List Char) :
    ∃ hack rest, text = hack ++ rest ∧ (hack = [] ∨ Bracketed hack) ∧
      (hack = [] → ∀ hack, hack <+: rest → ¬Bracketed hack) := by
  by_cases h : ∃ hack, hack <+: text ∧ Bracketed hack
  · obtain ⟨hack, ⟨rest, rfl⟩, hb⟩ := h
    refine ⟨hack, rest, rfl, .inr hb, ?_⟩
    rintro rfl
    obtain ⟨inner, -, -, h⟩ := hb
    cases h
  · exact ⟨[], text, rfl, .inl rfl, fun _ hack hp hb => h ⟨hack, hp, hb⟩⟩

/-- The name of a declaration: a word, perhaps a word in brackets, and blanks. -/
structure NameLayout where
  word : List Char
  hack : List Char
  gap : List Char
  word_ne_nil : word ≠ []
  isNameChar_of_mem : ∀ c ∈ word, isNameChar c
  not_comment : ¬['/', '*'] <+: word
  hack_eq_nil_or_bracketed : hack = [] ∨ Bracketed hack
  isSpace_of_mem : ∀ c ∈ gap, isSpace c

namespace NameLayout

/-- A name as it is written. -/
def text (name : NameLayout) : List Char :=
  name.word ++ (name.hack ++ name.gap)

/-- A name without the blanks behind it. -/
def written (name : NameLayout) : List Char :=
  name.word ++ name.hack

/-- Whether a name is taken as it is in front of a text: each of its parts is as long as it can
be. -/
structure Fits (name : NameLayout) (rest : List Char) : Prop where
  word : StopsAt isNameChar (name.hack ++ (name.gap ++ rest))
  hack : name.hack = [] → ∀ hack, hack <+: name.gap ++ rest → ¬Bracketed hack
  gap : StopsAt isSpace rest

variable {name : NameLayout} {rest : List Char}

/-- A name that fits is read as it is written. -/
theorem takeName_text (h : name.Fits rest) :
    takeName (name.text ++ rest) = (name.written, rest) := by
  have hhack : hackLength (name.hack ++ (name.gap ++ rest)) = name.hack.length := by
    rcases name.hack_eq_nil_or_bracketed with hnil | hb
    · rw [hnil, List.nil_append, hackLength_eq_zero (h.hack hnil), List.length_nil]
    · exact hackLength_append hb _
  rw [takeName, text, written, List.append_assoc, List.append_assoc,
    takeWhile_run name.isNameChar_of_mem h.word, dropWhile_run name.isNameChar_of_mem h.word,
    hhack, List.take_left, List.drop_left, skipSpace, dropWhile_run name.isSpace_of_mem h.gap]

/-- A name does not start like a comment. -/
theorem Fits.not_comment (h : name.Fits rest) : ¬['/', '*'] <+: name.text ++ rest := by
  rw [text, List.append_assoc, List.append_assoc]
  match hw : name.word with
  | [] => exact absurd hw name.word_ne_nil
  | [c] =>
    -- the asterisk would be a further character of the word
    intro hp
    obtain ⟨last, hlast⟩ : ['*'] <+: name.hack ++ (name.gap ++ rest) :=
      (List.cons_prefix_cons.1 hp).2
    have hword := h.word
    rw [← hlast] at hword
    cases stopsAt_cons.1 hword
  | c :: d :: word =>
    intro hp
    have hcd : ['/', '*'] <+: c :: d :: word := by
      simpa only [List.cons_append, List.cons_prefix_cons, List.nil_prefix] using hp
    exact name.not_comment (hw ▸ hcd)

/-- A name starts with one of its characters. -/
theorem exists_cons (name : NameLayout) :
    ∃ c tail, isNameChar c ∧ name.text = c :: tail := by
  have hchars := name.isNameChar_of_mem
  cases hw : name.word with
  | nil => exact absurd hw name.word_ne_nil
  | cons c word =>
    exact ⟨c, word ++ (name.hack ++ name.gap), hchars c (hw ▸ List.mem_cons_self ..),
      by rw [text, hw, List.cons_append]⟩

theorem text_ne_nil (name : NameLayout) : name.text ≠ [] := by
  obtain ⟨c, tail, -, h⟩ := name.exists_cons
  rw [h]
  exact List.cons_ne_nil c tail

/-- A text that starts with a name is not the end. -/
theorem not_stopsAt (name : NameLayout) (rest : List Char) :
    ¬StopsAt isNameChar (name.text ++ rest) := by
  obtain ⟨c, tail, hc, htext⟩ := name.exists_cons
  rw [htext, List.cons_append, stopsAt_cons, hc]
  exact Bool.noConfusion

end NameLayout

/-- A text that starts like a name starts with one. -/
theorem exists_name {text : List Char} (hn : ¬StopsAt isNameChar text)
    (hc : ¬['/', '*'] <+: text) :
    ∃ (name : NameLayout) (rest : List Char), text = name.text ++ rest ∧ name.Fits rest := by
  obtain ⟨word, behind, rfl, hword, hbehind⟩ := exists_run isNameChar text
  obtain ⟨hack, behind, rfl, hhack, hmax⟩ := exists_hack behind
  obtain ⟨gap, rest, rfl, hgap, hrest⟩ := exists_run isSpace behind
  have hne : word ≠ [] := by
    rintro rfl
    exact hn hbehind
  exact ⟨⟨word, hack, gap, hne, hword, fun h => hc (h.trans (List.prefix_append _ _)), hhack, hgap⟩,
    rest, by simp [NameLayout.text], ⟨hbehind, hmax, hrest⟩⟩

/-! ## Declarations -/

/-- Whether a character can stand between declarations. -/
def isSeparator (c : Char) : Bool :=
  c == ';' || isSpace c

/-- A declaration: a name, perhaps a comment, a colon, blanks and a value, then semicolons and
blanks, and comments. -/
structure DeclarationLayout where
  name : NameLayout
  remark : Option Remark
  indent : List Char
  value : List Char
  separators : List Char
  remarks : List Remark
  isSpace_of_mem : ∀ c ∈ indent, isSpace c
  isSeparator_of_mem : ∀ c ∈ separators, isSeparator c

namespace DeclarationLayout

/-- A declaration as it is written. -/
def text (declaration : DeclarationLayout) : List Char :=
  declaration.name.text ++ (remarksText declaration.remark.toList ++ ':' ::
    (declaration.indent ++ (declaration.value ++
      (declaration.separators ++ remarksText declaration.remarks))))

/-- The text behind the value of a declaration, if the declaration stands in front of a text. -/
def behindValue (declaration : DeclarationLayout) (rest : List Char) : List Char :=
  declaration.separators ++ (remarksText declaration.remarks ++ rest)

/-- The text behind the name of a declaration. -/
def behindName (declaration : DeclarationLayout) (rest : List Char) : List Char :=
  remarksText declaration.remark.toList ++ ':' ::
    (declaration.indent ++ (declaration.value ++ declaration.behindValue rest))

theorem text_append (declaration : DeclarationLayout) (rest : List Char) :
    declaration.text ++ rest = declaration.name.text ++ declaration.behindName rest := by
  simp only [text, behindName, behindValue, List.append_assoc, List.cons_append]

/-- What is read from a declaration: its name and its value, without comments and without blanks
at their ends. -/
def read (declaration : DeclarationLayout) : Declaration :=
  (clean declaration.name.written, clean declaration.value)

/-- Whether a declaration is taken as it is in front of a text. -/
structure Fits (declaration : DeclarationLayout) (rest : List Char) : Prop where
  name : declaration.name.Fits (declaration.behindName rest)
  indent : StopsAt isSpace (declaration.value ++ declaration.behindValue rest)
  value : ValueText declaration.value (declaration.behindValue rest)
  separators : StopsAt isSeparator (remarksText declaration.remarks ++ rest)
  remarks : StopsAt isSpace rest

end DeclarationLayout

/-- Where the reader gives up, and why: the text that it has begun to read as a declaration, and
the text from which it cannot go on. -/
inductive Failing : Cause → List Char → List Char → Prop
  | unclosed {suffix : List Char} (unclosed : UnclosedComment suffix) :
      Failing .unclosedComment [] suffix
  | unclosedAfterName {name : NameLayout} {suffix : List Char} (fits : name.Fits suffix)
      (unclosed : UnclosedComment suffix) :
      Failing .unclosedComment name.text suffix
  | noColon {name : NameLayout} {remark : Option Remark} {suffix : List Char}
      (fits : name.Fits (remarksText remark.toList ++ suffix)) (blanks : StopsAt isSpace suffix)
      (noRemark : remark = none → ¬['/', '*'] <+: suffix)
      (noColon : suffix.head? ≠ some ':') :
      Failing .missingColon (name.text ++ remarksText remark.toList) suffix

section Reading

variable {rest : List Char}

/-- After a name, at most one comment is skipped. -/
theorem skipComment_remarksText (remark : Option Remark) (hs : StopsAt isSpace rest)
    (hn : remark = none → ¬['/', '*'] <+: rest) :
    skipComment (remarksText remark.toList ++ rest) = .ok rest := by
  cases remark with
  | none => exact skipComment_of_no_comment (hn rfl)
  | some remark =>
    rw [Option.toList_some, remarksText_cons, remarksText_nil, List.append_nil,
      skipComment_remark remark hs]

/-- A declaration that fits is read as it is written, but for the comments behind it. -/
theorem DeclarationLayout.readDeclaration_text {declaration : DeclarationLayout}
    (h : declaration.Fits rest) :
    readDeclaration (declaration.text ++ rest) =
      .ok (declaration.read, remarksText declaration.remarks ++ rest) := by
  have hcolon : StopsAt isSpace (':' :: (declaration.indent ++
      (declaration.value ++ declaration.behindValue rest))) := stopsAt_cons.2 rfl
  rw [text_append, readDeclaration, NameLayout.takeName_text h.name, readAfterName, behindName,
    skipComment_remarksText declaration.remark hcolon (by simp)]
  simp only []
  rw [skipSpace, dropWhile_run declaration.isSpace_of_mem h.indent,
    takeValue_append_of_valueText h.value]
  exact congrArg (fun behind => Except.ok (declaration.read, behind))
    (dropWhile_run declaration.isSeparator_of_mem h.separators)

/-- Where the reader gives up at the front of a name, it says so. -/
theorem readDeclaration_of_failing {cause : Cause} {begun suffix : List Char}
    (h : Failing cause begun suffix) (hb : begun ≠ []) :
    readDeclaration (begun ++ suffix) = .error ⟨cause, suffix⟩ := by
  cases h with
  | unclosed => exact absurd rfl hb
  | unclosedAfterName fits unclosed =>
    rw [readDeclaration, NameLayout.takeName_text fits, readAfterName,
      skipComment_of_unclosed unclosed]
  | @noColon name remark suffix fits blanks noRemark noColon =>
    rw [List.append_assoc, readDeclaration, NameLayout.takeName_text fits, readAfterName,
      skipComment_remarksText remark blanks noRemark]
    split
    · rename_i h
      cases h
    · rename_i behind h
      cases h
      exact absurd rfl noColon
    · rename_i h
      cases h
      rfl

end Reading

/-- Behind a colon stand the rest of a declaration and the comments behind it. -/
theorem exists_declaration_of_colon {name : NameLayout} {remark : Option Remark}
    {behind : List Char} (hname : name.Fits (remarksText remark.toList ++ ':' :: behind)) :
    ∃ (declaration : DeclarationLayout) (rest : List Char),
      name.text ++ (remarksText remark.toList ++ ':' :: behind) = declaration.text ++ rest ∧
        declaration.Fits rest ∧ NoRemark rest := by
  obtain ⟨indent, behind, rfl, hindent, hi⟩ := exists_run isSpace behind
  obtain ⟨value, behind, rfl, hvalue⟩ :
      ∃ value rest, behind = value ++ rest ∧ ValueText value rest :=
    ⟨_, _, (takeValue_append behind).symm, valueText_takeValue behind⟩
  obtain ⟨separators, behind, rfl, hseparators, hs⟩ := exists_run isSeparator behind
  have hblanks : StopsAt isSpace behind := fun c hc => by
    simpa [isSeparator] using (Bool.or_eq_false_iff.1 (hs c hc)).2
  obtain ⟨remarks, rest, rfl, hr, hrest⟩ := exists_remarks behind hblanks
  exact ⟨⟨name, remark, indent, value, separators, remarks, hindent, hseparators⟩, rest,
    by rw [DeclarationLayout.text_append]; rfl, ⟨hname, hi, hvalue, hs, hr⟩, hrest⟩

/-- At the front of a text that starts like a name stands a declaration or a failure. -/
theorem exists_declaration {text : List Char} (hn : ¬StopsAt isNameChar text)
    (hc : ¬['/', '*'] <+: text) :
    (∃ (declaration : DeclarationLayout) (rest : List Char), text = declaration.text ++ rest ∧
      declaration.Fits rest ∧ NoRemark rest) ∨
    ∃ (cause : Cause) (begun suffix : List Char), text = begun ++ suffix ∧
      Failing cause begun suffix := by
  obtain ⟨name, behind, rfl, hname⟩ := exists_name hn hc
  -- what stands between the name and the place of the colon
  have hbetween : UnclosedComment behind ∨ ∃ (remark : Option Remark) (rest : List Char),
      behind = remarksText remark.toList ++ rest ∧ StopsAt isSpace rest ∧
        (remark = none → ¬['/', '*'] <+: rest) := by
    rcases exists_remark behind with h | h | ⟨remark, rest, rfl, hs⟩
    · exact .inr ⟨none, behind, rfl, hname.gap, fun _ => h⟩
    · exact .inl h
    · exact .inr ⟨some remark, rest, by simp, hs, nofun⟩
  rcases hbetween with h | ⟨remark, rest, rfl, hs, hno⟩
  · exact .inr ⟨_, name.text, behind, rfl, .unclosedAfterName hname h⟩
  · by_cases hcolon : rest.head? = some ':'
    · obtain ⟨behind, rfl⟩ := List.head?_eq_some_iff.1 hcolon
      exact .inl (exists_declaration_of_colon hname)
    · exact .inr ⟨_, name.text ++ remarksText remark.toList, rest, by simp,
        .noColon hname hs hno hcolon⟩

end Style
end MarkupJsx
