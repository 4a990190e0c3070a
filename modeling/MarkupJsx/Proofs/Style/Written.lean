import MarkupJsx.Proofs.Style.Reading

/-!
# A style that is written is read back

Names and values of a plain kind can be written as a style in many ways: with blanks around names,
colons and values, with a comment behind a name, and with more semicolons, blanks and comments
behind a declaration than are needed (`WrittenStyle`).  However it is done, what is read from the
text are the names and values that were written.

The text is one of those that `Layout` describes.  Only the blanks behind a value are told in
another way there: they are pieces of the value, and are lost when its ends are trimmed; where the
value is empty, they belong to the blanks behind the colon.

* `PlainPiece.piece`: a plain piece is a piece, whatever follows it.
* `clean_append`: the blanks behind a plain value are all that is taken off it.
* `WrittenDeclaration.fits`, `WrittenStyle.fits`: what is written is what is taken from the text.
* `parse_written`: a style that is written is read back.
-/

namespace MarkupJsx
namespace Style

/-! ## Classes of characters -/

/-- Whether a character can stand in a plain name. -/
def isPlainNameChar (c : Char) : Bool :=
  c.isAlphanum || c == '_' || c == '-'

theorem isNameChar_of_isPlainNameChar {c : Char} (h : isPlainNameChar c) : isNameChar c := by
  simp only [isPlainNameChar, Bool.or_eq_true] at h
  rcases h with (h | h) | h <;> simp [isNameChar, h]

theorem toNat_of_isAlphanum {c : Char} (h : c.isAlphanum) : 48 ≤ c.toNat ∧ c.toNat ≤ 122 := by
  delta Char.isAlphanum Char.isAlpha Char.isUpper Char.isLower Char.isDigit at h
  simp only [Bool.or_eq_true, Bool.and_eq_true, decide_eq_true_eq, ge_iff_le,
    UInt32.le_iff_toNat_le] at h
  have h : ((65 ≤ c.toNat ∧ c.toNat ≤ 90) ∨ (97 ≤ c.toNat ∧ c.toNat ≤ 122)) ∨
      (48 ≤ c.toNat ∧ c.toNat ≤ 57) := h
  omega

/-- No character of a name is blank. -/
theorem isSpace_eq_false_of_isNameChar {c : Char} (h : isNameChar c) : isSpace c = false := by
  simp only [isNameChar, Bool.or_eq_true, beq_iff_eq] at h
  rcases h with ((((((h | rfl) | rfl) | rfl) | rfl) | rfl) | rfl)
  · have hn := toNat_of_isAlphanum h
    have hc : c ≠ '\ufeff' := by
      rintro rfl
      simp at hn
    simp [isSpace, Text.isBlank, hc]
    omega
  all_goals rfl

/-- No character of a name stands between declarations. -/
theorem isSeparator_eq_false_of_isNameChar {c : Char} (h : isNameChar c) :
    isSeparator c = false := by
  have hc : c ≠ ';' := by
    rintro rfl
    cases h
  simp [isSeparator, hc, isSpace_eq_false_of_isNameChar h]

/-- No character that ends values is blank. -/
theorem isSpace_eq_false_of_endsValue {c : Char} (h : endsValue c) : isSpace c = false := by
  simp only [endsValue, Bool.or_eq_true, beq_iff_eq] at h
  rcases h with rfl | rfl <;> rfl

/-- No blank is in a class without blanks. -/
theorem eq_false_of_isSpace {p : Char → Bool} {c : Char} (hp : p c → isSpace c = false)
    (h : isSpace c) : p c = false := by
  by_contra hn
  rw [hp (by simpa using hn)] at h
  cases h

theorem ne_of_isSpace {c d : Char} (hc : isSpace c) (hd : isSpace d = false) : c ≠ d := by
  rintro rfl
  rw [hc] at hd
  cases hd

/-! ## Plain values -/

/-- A piece of a plain value: a quoted string without the quote, backslashes and line ends inside,
a group, or another character. -/
inductive PlainPiece : List Char → Prop
  | quoted {quote : Char} {inner : List Char} (isQuote : IsQuote quote) (noQuote : quote ∉ inner)
      (noBackslash : '\\' ∉ inner) (oneLine : ∀ c ∈ inner, isLineEnd c = false) :
      PlainPiece (quote :: (inner ++ [quote]))
  | group {inner : List Char} (noParenthesis : ')' ∉ inner) : PlainPiece ('(' :: (inner ++ [')']))
  | single {c : Char} (goesOn : endsValue c = false) (noQuote : ¬IsQuote c) (noGroup : c ≠ '(') :
      PlainPiece [c]

/-- A plain value: plain pieces without blanks at the ends and without the mark of a comment. -/
structure PlainValue (value : List Char) : Prop where
  pieces : ∃ pieces : List (List Char), pieces.flatten = value ∧ ∀ piece ∈ pieces, PlainPiece piece
  first : StopsAt isSpace value
  last : ∀ c ∈ value.getLast?, isSpace c = false
  noComment : ¬['/', '*'] <:+: value

/-- A plain piece is a piece, whatever follows it. -/
theorem PlainPiece.piece {piece : List Char} (h : PlainPiece piece) (rest : List Char) :
    Piece piece rest := by
  cases h with
  | @quoted quote inner isQuote noQuote noBackslash oneLine =>
    have closes : Closes quote (inner ++ [quote]) :=
      ⟨inner, rfl, oneLine, fun left right hi => absurd (by simp [hi]) noQuote⟩
    refine .quoted isQuote closes fun longer hp ⟨inner', hinner', _, escaped⟩ => ?_
    by_contra hlt
    -- the string would go on behind a quote, which then had a backslash before it
    have hpre : inner ++ [quote] <+: inner' := by
      refine List.prefix_of_prefix_length_le (List.prefix_append _ rest)
        ((hinner' ▸ List.prefix_append inner' [quote]).trans hp) ?_
      rw [hinner'] at hlt
      simp only [List.length_append, List.length_singleton] at hlt ⊢
      omega
    obtain ⟨right, hright⟩ := hpre
    have hlast := escaped inner right (by rw [← hright]; simp)
    exact noBackslash (List.mem_of_getLast? hlast)
  | group noParenthesis => exact .group noParenthesis
  | single goesOn noQuote noGroup =>
    exact .single goesOn (fun h => absurd h noQuote) fun h => absurd h noGroup

/-- A blank is a plain piece. -/
theorem plainPiece_of_isSpace {c : Char} (h : isSpace c) : PlainPiece [c] := by
  refine .single (eq_false_of_isSpace isSpace_eq_false_of_endsValue h) ?_ (ne_of_isSpace h rfl)
  rintro (hc | hc)
  · exact ne_of_isSpace h rfl hc
  · exact ne_of_isSpace h rfl hc

theorem valueText_of_plainPieces {pieces : List (List Char)} {rest : List Char}
    (h : ∀ piece ∈ pieces, PlainPiece piece) (ends : ∀ c ∈ rest.head?, endsValue c) :
    ValueText pieces.flatten rest := by
  induction pieces with
  | nil => exact .nil ends
  | cons piece pieces ih =>
    exact .cons ((h piece (List.mem_cons_self ..)).piece _)
      (ih fun other ho => h other (List.mem_cons_of_mem _ ho))

/-- A plain value is read as it is, with the blanks behind it. -/
theorem valueText_append_of_plain {value blanks rest : List Char} (h : PlainValue value)
    (hb : ∀ c ∈ blanks, isSpace c) (ends : ∀ c ∈ rest.head?, endsValue c) :
    ValueText (value ++ blanks) rest := by
  obtain ⟨pieces, hflat, hp⟩ := h.pieces
  have hsplit : value ++ blanks = (pieces ++ blanks.map fun c => [c]).flatten := by
    rw [List.flatten_append, hflat, ← List.flatMap_def, List.flatMap_singleton']
  rw [hsplit]
  refine valueText_of_plainPieces (fun piece hm => ?_) ends
  rcases List.mem_append.1 hm with hm | hm
  · exact hp piece hm
  · obtain ⟨c, hc, rfl⟩ := List.mem_map.1 hm
    exact plainPiece_of_isSpace (hb c hc)

/-! ## What cleaning leaves -/

/-- Blanks at the end are all that is taken off a text without the mark of a comment whose own ends
are not blank. -/
theorem clean_append {text blanks : List Char} (noComment : ¬['/', '*'] <:+: text)
    (first : StopsAt isSpace text) (last : ∀ c ∈ text.getLast?, isSpace c = false)
    (hb : ∀ c ∈ blanks, isSpace c) : clean (text ++ blanks) = text := by
  have hno : ¬['/', '*'] <:+: text ++ blanks := by
    intro hi
    rcases List.infix_append_iff.1 hi with hi | hi | ⟨left, right, hsplit, hl, hr⟩
    · exact noComment hi
    · exact ne_of_isSpace (hb '/' (hi.subset (by simp))) rfl rfl
    · rcases List.eq_nil_or_concat' right with rfl | ⟨right, c, rfl⟩
      · rw [List.append_nil] at hsplit
        exact noComment (hsplit ▸ hl.isInfix)
      · have hc : c = '*' := by simpa using (congrArg List.getLast? hsplit).symm
        exact ne_of_isSpace (hb c (hr.subset (by simp))) rfl hc
  exact clean_eq_iff.2 ⟨text ++ blanks, .whole (noneClosed_of_no_comment hno),
    [], blanks, rfl, by simp, hb, first, last⟩

theorem clean_eq_self {text : List Char} (noComment : ¬['/', '*'] <:+: text)
    (first : StopsAt isSpace text) (last : ∀ c ∈ text.getLast?, isSpace c = false) :
    clean text = text := by
  have h : clean (text ++ []) = text := clean_append noComment first last (by simp)
  rwa [List.append_nil] at h

/-! ## Written declarations -/

/-- A name and a value of a plain kind. -/
structure PlainDeclaration where
  name : List Char
  value : List Char
  name_ne_nil : name ≠ []
  isPlainNameChar_of_mem : ∀ c ∈ name, isPlainNameChar c
  plain : PlainValue value

namespace PlainDeclaration

variable (declaration : PlainDeclaration)

theorem isNameChar_of_mem : ∀ c ∈ declaration.name, isNameChar c := fun c hc =>
  isNameChar_of_isPlainNameChar (declaration.isPlainNameChar_of_mem c hc)

/-- A plain name has no mark of a comment in it. -/
theorem name_no_comment : ¬['/', '*'] <:+: declaration.name := by
  intro h
  cases declaration.isPlainNameChar_of_mem '/' (h.subset (by simp))

/-- There is nothing to take off a plain name. -/
theorem clean_name : clean declaration.name = declaration.name := by
  have hblank : ∀ c ∈ declaration.name, isSpace c = false := fun c hc =>
    isSpace_eq_false_of_isNameChar (declaration.isNameChar_of_mem c hc)
  exact clean_eq_self declaration.name_no_comment (stopsAt_of_forall hblank)
    fun c hc => hblank c (List.mem_of_getLast? hc)

end PlainDeclaration

/-- A declaration with the blanks around its name, its colon and its value, and perhaps a comment
behind its name, which must then have a blank before it. -/
structure WrittenDeclaration extends PlainDeclaration where
  gap : List Char
  remark : Option Remark
  indent : List Char
  blanks : List Char
  isSpace_gap : ∀ c ∈ gap, isSpace c
  isSpace_indent : ∀ c ∈ indent, isSpace c
  isSpace_blanks : ∀ c ∈ blanks, isSpace c
  gap_ne_nil : remark.isSome → gap ≠ []

/-- A declaration without any blanks. -/
def PlainDeclaration.bare (declaration : PlainDeclaration) : WrittenDeclaration where
  toPlainDeclaration := declaration
  gap := []
  remark := none
  indent := []
  blanks := []
  isSpace_gap := by simp
  isSpace_indent := by simp
  isSpace_blanks := by simp
  gap_ne_nil := by simp

/-- What stands behind a declaration that is not the last: a semicolon, any further semicolons and
blanks, and comments. -/
structure Separation where
  mix : List Char
  remarks : List Remark
  isSeparator_of_mem : ∀ c ∈ mix, isSeparator c

namespace Separation

/-- A semicolon and nothing else. -/
def semicolon : Separation where
  mix := []
  remarks := []
  isSeparator_of_mem := by simp

/-- The semicolons and blanks behind a declaration. -/
def separators (separation : Separation) : List Char :=
  ';' :: separation.mix

theorem isSeparator_separators (separation : Separation) :
    ∀ c ∈ separation.separators, isSeparator c := by
  intro c hc
  rcases List.mem_cons.1 hc with rfl | hc
  · rfl
  · exact separation.isSeparator_of_mem c hc

end Separation

namespace WrittenDeclaration

/-- A declaration as it is written. -/
def text (declaration : WrittenDeclaration) : List Char :=
  declaration.name ++ (declaration.gap ++ (remarksText declaration.remark.toList ++ ':' ::
    (declaration.indent ++ (declaration.value ++ declaration.blanks))))

/-- The name of a declaration, and the blanks behind it. -/
def nameLayout (declaration : WrittenDeclaration) : NameLayout where
  word := declaration.name
  hack := []
  gap := declaration.gap
  word_ne_nil := declaration.name_ne_nil
  isNameChar_of_mem := declaration.isNameChar_of_mem
  not_comment := fun h => declaration.name_no_comment h.isInfix
  hack_eq_nil_or_bracketed := .inl rfl
  isSpace_of_mem := declaration.isSpace_gap

/-- A declaration as it is read, with what stands behind it.  Blanks behind an empty value are read
as blanks in front of it. -/
def layout (declaration : WrittenDeclaration) (separators : List Char)
    (hs : ∀ c ∈ separators, isSeparator c) (remarks : List Remark) : DeclarationLayout where
  name := declaration.nameLayout
  remark := declaration.remark
  indent := if declaration.value = [] then declaration.indent ++ declaration.blanks
    else declaration.indent
  value := if declaration.value = [] then [] else declaration.value ++ declaration.blanks
  separators := separators
  remarks := remarks
  isSpace_of_mem := by
    intro c hc
    split at hc
    · rcases List.mem_append.1 hc with hc | hc
      · exact declaration.isSpace_indent c hc
      · exact declaration.isSpace_blanks c hc
    · exact declaration.isSpace_indent c hc
  isSeparator_of_mem := hs

variable (declaration : WrittenDeclaration) {separators : List Char}
  (hs : ∀ c ∈ separators, isSeparator c) (remarks : List Remark)

theorem text_layout : (declaration.layout separators hs remarks).text =
    declaration.text ++ (separators ++ remarksText remarks) := by
  by_cases hv : declaration.value = []
  · simp [layout, DeclarationLayout.text, NameLayout.text, nameLayout, text, hv]
  · simp [layout, DeclarationLayout.text, NameLayout.text, nameLayout, text, hv]

/-- What is read from a written declaration are its name and its value. -/
theorem read_layout : (declaration.layout separators hs remarks).read =
    (declaration.name, declaration.value) := by
  have hvalue : clean (if declaration.value = [] then [] else
      declaration.value ++ declaration.blanks) = declaration.value := by
    split
    · rename_i hv
      simpa [hv] using clean_eq_self declaration.plain.noComment declaration.plain.first
        declaration.plain.last
    · exact clean_append declaration.plain.noComment declaration.plain.first declaration.plain.last
        declaration.isSpace_blanks
  simp only [DeclarationLayout.read, layout, NameLayout.written, nameLayout, List.append_nil,
    declaration.clean_name, hvalue]

/-- A name is taken as it is in front of a colon, also where a comment stands between them. -/
theorem fits_nameLayout (behind : List Char) : declaration.nameLayout.Fits
    (remarksText declaration.remark.toList ++ ':' :: behind) := by
  have hmark : ∀ {p : Char → Bool}, p '/' = false → p ':' = false →
      StopsAt p (remarksText declaration.remark.toList ++ ':' :: behind) := fun hslash hcolon =>
    stopsAt_remarksText hslash _ (stopsAt_cons.2 hcolon)
  refine ⟨?_, fun _ hack hp hb => ?_, hmark rfl rfl⟩
  · -- a comment could be mistaken for a part of the word if there were no blank before it
    have hblank : StopsAt isNameChar declaration.gap := stopsAt_of_forall fun c hc =>
      eq_false_of_isSpace isSpace_eq_false_of_isNameChar (declaration.isSpace_gap c hc)
    by_cases hnil : declaration.gap = []
    · have hnone : declaration.remark = none := by
        by_contra hsome
        exact declaration.gap_ne_nil (Option.isSome_iff_ne_none.2 hsome) hnil
      rw [hnone]
      exact hblank.append (stopsAt_cons.2 rfl)
    · exact hblank.append_of_ne_nil hnil _
  · have hbracket : StopsAt (· == '[') (declaration.gap ++
        (remarksText declaration.remark.toList ++ ':' :: behind)) :=
      (stopsAt_of_forall fun c hc => beq_eq_false_iff_ne.2
        (ne_of_isSpace (declaration.isSpace_gap c hc) rfl)).append (hmark rfl rfl)
    obtain ⟨inner, -, -, rfl⟩ := hb
    obtain ⟨last, hlast⟩ := hp
    have hstart : StopsAt (· == '[') ('[' :: (inner ++ [']']) ++ last) := hlast ▸ hbracket
    cases stopsAt_cons.1 hstart

/-- A written declaration is taken as it is where its value has an end behind it. -/
theorem fits {rest : List Char}
    (ends : ∀ c ∈ (separators ++ (remarksText remarks ++ rest)).head?, endsValue c)
    (hsep : StopsAt isSeparator (remarksText remarks ++ rest)) (hrest : StopsAt isSpace rest) :
    (declaration.layout separators hs remarks).Fits rest := by
  have hend : StopsAt isSpace (separators ++ (remarksText remarks ++ rest)) :=
    fun c hc => isSpace_eq_false_of_endsValue (ends c hc)
  refine ⟨declaration.fits_nameLayout _, ?_, ?_, hsep, hrest⟩
  · by_cases hv : declaration.value = []
    · simpa only [layout, DeclarationLayout.behindValue, hv, if_true, List.nil_append] using hend
    · have hstart := declaration.plain.first.append_of_ne_nil hv declaration.blanks
      simpa only [layout, hv, if_false] using hstart.append_of_ne_nil (by simp [hv]) _
  · by_cases hv : declaration.value = []
    · simpa only [layout, DeclarationLayout.behindValue, hv, if_true] using ValueText.nil ends
    · simpa only [layout, DeclarationLayout.behindValue, hv, if_false] using
        valueText_append_of_plain declaration.plain declaration.isSpace_blanks ends

end WrittenDeclaration

/-! ## Written styles -/

/-- A style with blanks and comments at its start, declarations with something behind each, and
perhaps a last declaration. -/
structure WrittenStyle where
  indent : List Char
  remarks : List Remark
  separated : List (WrittenDeclaration × Separation)
  last : Option WrittenDeclaration
  isSpace_of_mem : ∀ c ∈ indent, isSpace c

namespace WrittenStyle

/-- A style as it is written. -/
def text (style : WrittenStyle) : List Char :=
  style.indent ++ (remarksText style.remarks ++
    (style.separated.flatMap (fun item =>
        item.1.text ++ (item.2.separators ++ remarksText item.2.remarks)) ++
      style.last.toList.flatMap WrittenDeclaration.text))

/-- The names and values that are written. -/
def pairs (style : WrittenStyle) : List (List Char × List Char) :=
  (style.separated.map Prod.fst ++ style.last.toList).map fun declaration =>
    (declaration.name, declaration.value)

/-- The declarations of a style as they are read. -/
def declarations (style : WrittenStyle) : List DeclarationLayout :=
  style.separated.map (fun item =>
      item.1.layout item.2.separators item.2.isSeparator_separators item.2.remarks) ++
    style.last.toList.map fun declaration => declaration.layout [] nofun []

/-- A style as it is read. -/
def layout (style : WrittenStyle) : Layout where
  indent := style.indent
  remarks := style.remarks
  declarations := style.declarations
  isSpace_of_mem := style.isSpace_of_mem

variable (style : WrittenStyle)

theorem text_layout : style.layout.text = style.text := by
  simp [Layout.text, layout, text, declarations, declarationsText, List.flatMap_append,
    List.flatMap_map, WrittenDeclaration.text_layout]

theorem map_read_declarations : style.declarations.map DeclarationLayout.read = style.pairs := by
  simp [declarations, pairs, WrittenDeclaration.read_layout, Function.comp_def]

/-- Declarations written one after the other, each with a semicolon behind it. -/
def ofDeclarations (declarations : List PlainDeclaration) : WrittenStyle where
  indent := []
  remarks := []
  separated := declarations.map fun declaration => (declaration.bare, .semicolon)
  last := none
  isSpace_of_mem := by simp

/-- All names and values of a plain kind can be written. -/
theorem pairs_ofDeclarations (declarations : List PlainDeclaration) :
    (ofDeclarations declarations).pairs =
      declarations.map fun declaration => (declaration.name, declaration.value) := by
  simp [ofDeclarations, pairs, PlainDeclaration.bare, Function.comp_def]

end WrittenStyle

/-- Declarations start with a character of a name. -/
theorem stopsAt_declarationsText {p : Char → Bool} (hp : ∀ c, isNameChar c → p c = false)
    (declarations : List DeclarationLayout) {rest : List Char} (hs : StopsAt p rest) :
    StopsAt p (declarationsText declarations ++ rest) := by
  cases declarations with
  | nil => exact hs
  | cons declaration declarations =>
    obtain ⟨c, tail, hc, htext⟩ := declaration.name.exists_cons
    rw [declarationsText_cons, DeclarationLayout.text, htext]
    exact stopsAt_cons.2 (hp c hc)

/-- Each declaration of a written style is taken as it is. -/
theorem WrittenStyle.fits (style : WrittenStyle) : style.layout.Fits [] := by
  refine ⟨stopsAt_declarationsText (fun _ => isSpace_eq_false_of_isNameChar) _ stopsAt_nil, ?_⟩
  obtain ⟨indent, remarks, separated, last, -⟩ := style
  simp only [layout, declarations]
  induction separated with
  | nil =>
    cases last with
    | none => trivial
    | some declaration =>
      exact ⟨declaration.fits (by simp) [] (by simp) stopsAt_nil stopsAt_nil, trivial⟩
  | cons item separated ih =>
    refine ⟨item.1.fits item.2.isSeparator_separators item.2.remarks ?_
      (stopsAt_remarksText rfl _ ?_) ?_, ih⟩
    · simp [Separation.separators, endsValue]
    · exact stopsAt_declarationsText (fun _ => isSeparator_eq_false_of_isNameChar) _ stopsAt_nil
    · exact stopsAt_declarationsText (fun _ => isSpace_eq_false_of_isNameChar) _ stopsAt_nil

/-- A style that is written is read back: however its declarations are laid out, the entries are
their names, in a fashion, and their values, written one after the other. -/
theorem parse_written (style : WrittenStyle) (names : StyleCase) :
    parse (String.ofList style.text) names = .ok (entriesOf names style.pairs) := by
  refine parse_eq_of_splits ⟨style.layout, [], style.pairs, ?_, style.fits, stopsAt_nil,
    forall₂_reads_iff.2 style.map_read_declarations, rfl⟩
  rw [String.toList_ofList, List.append_nil, style.text_layout]

end Style
end MarkupJsx
