import Mathlib.Data.List.Forall2
import Mathlib.Data.List.Induction
import MarkupJsx.Proofs.Style.Cleaning

/-!
# Every character of a style is accounted for

A style text is blanks, comments and declarations as they are laid out, and a rest.  If the rest
does not start like a name, the style is read, and its entries are the cleaned names and values of
the declarations, one written after the other.  If the reader gives up in the rest, the style has a
fault, and its place is the line and the column of the text from which the reader could not go on.

* `readOn`: the reader between two declarations; `readOn_declarationsText` is its step, taken over
  all declarations.
* `exists_layout`: every text is laid out in this way.
* `parse_eq_iff`: what is read from a text is the one outcome whose account of the text is true.
-/

namespace MarkupJsx
namespace Style

/-! ## Places -/

/-- The characters behind the last line feed. -/
def lastLine (text : List Char) : List Char :=
  (text.reverse.takeWhile (· ≠ '\n')).reverse

/-- How many UTF-16 units a text takes: one for every character, and another one for those beyond
the basic plane. -/
def width16 (text : List Char) : Nat :=
  text.length + text.countP fun c => 0x10000 ≤ c.toNat

/-- The line and the column behind a text: line feeds count for the one, and the units of the last
line for the other. -/
def placeBehind (text : List Char) : Text.Place :=
  ⟨1 + text.count '\n', 1 + width16 (lastLine text)⟩

theorem width16_append_singleton (text : List Char) (c : Char) :
    width16 (text ++ [c]) = width16 text + Text.units16 c := by
  rw [width16, width16, List.length_append, List.countP_append, List.length_singleton,
    List.countP_singleton, Text.units16]
  by_cases hc : 0x10000 ≤ c.toNat
  · rw [if_pos (decide_eq_true hc), if_neg (Nat.not_lt.2 hc)]
    omega
  · rw [if_neg (by simpa using hc), if_pos (Nat.not_le.1 hc)]
    omega

theorem lastLine_append_singleton (text : List Char) (c : Char) :
    lastLine (text ++ [c]) = if c = '\n' then [] else lastLine text ++ [c] := by
  rw [lastLine, lastLine, List.reverse_append, List.reverse_singleton, List.singleton_append]
  split
  · rename_i hc
    rw [hc]
    rfl
  · rename_i hc
    rw [List.takeWhile_cons_of_pos (by simpa using hc), List.reverse_cons]

/-- The place that the reader keeps is the place behind what it has read. -/
theorem after_eq_placeBehind (text : List Char) : Text.Place.after text = placeBehind text := by
  induction text using List.reverseRecOn with
  | nil => rfl
  | append_singleton text c ih =>
    rw [Text.Place.after_append, ih, List.foldl_cons, List.foldl_nil, placeBehind, placeBehind,
      lastLine_append_singleton, Text.Place.next, List.count_append]
    by_cases hc : c = '\n'
    · rw [if_pos hc, if_pos hc, hc]
      rfl
    · rw [if_neg hc, if_neg hc, width16_append_singleton, Nat.add_assoc,
        List.count_singleton, if_neg (by simpa using hc), Nat.add_zero]

/-! ## Layouts -/

/-- Declarations as they are written one after the other. -/
def declarationsText (declarations : List DeclarationLayout) : List Char :=
  declarations.flatMap DeclarationLayout.text

@[simp] theorem declarationsText_nil : declarationsText [] = [] := rfl

@[simp] theorem declarationsText_cons (declaration : DeclarationLayout)
    (declarations : List DeclarationLayout) :
    declarationsText (declaration :: declarations) =
      declaration.text ++ declarationsText declarations := rfl

/-- Whether declarations are taken as they are in front of a text, each in front of the others. -/
def FitAll : List DeclarationLayout → List Char → Prop
  | [], _ => True
  | declaration :: declarations, rest =>
    declaration.Fits (declarationsText declarations ++ rest) ∧ FitAll declarations rest

/-- A style as far as it is read: blanks, comments and declarations. -/
structure Layout where
  indent : List Char
  remarks : List Remark
  declarations : List DeclarationLayout
  isSpace_of_mem : ∀ c ∈ indent, isSpace c

namespace Layout

/-- A style as it is written. -/
def text (layout : Layout) : List Char :=
  layout.indent ++ (remarksText layout.remarks ++ declarationsText layout.declarations)

/-- Whether a style is taken as it is in front of a text. -/
structure Fits (layout : Layout) (rest : List Char) : Prop where
  remarks : StopsAt isSpace (declarationsText layout.declarations ++ rest)
  declarations : FitAll layout.declarations rest

end Layout

/-- Whether a name and a value are those of a declaration, cleaned. -/
def DeclarationLayout.Reads (declaration : DeclarationLayout) (pair : Declaration) : Prop :=
  Cleaned declaration.name.written pair.1 ∧ Cleaned declaration.value pair.2

/-- Names, in a fashion, and their values, written one after the other. -/
def entriesOf (names : StyleCase) (pairs : List Declaration) : Entries String :=
  Entries.ofPairs <| pairs.map fun pair =>
    (String.ofList (StyleCase.ofText names pair.1), String.ofList pair.2)

/-- What an outcome says about a style text.  Entries say that the text is a style and a rest that
does not start like a name, and that they are the names and values of the style.  A fault says that
the text is a style and a rest in which the reader gives up, and that this happens at its place. -/
def Splits (text : List Char) (names : StyleCase) : Except Fault (Entries String) → Prop
  | .ok entries => ∃ (layout : Layout) (rest : List Char) (pairs : List Declaration),
      text = layout.text ++ rest ∧ layout.Fits rest ∧ StopsAt isNameChar rest ∧
      List.Forall₂ DeclarationLayout.Reads layout.declarations pairs ∧
      entries = entriesOf names pairs
  | .error fault => ∃ (layout : Layout) (begun suffix : List Char),
      text = layout.text ++ (begun ++ suffix) ∧ layout.Fits (begun ++ suffix) ∧
      Failing fault.cause begun suffix ∧ fault.place = placeBehind (layout.text ++ begun)

theorem DeclarationLayout.reads_iff {declaration : DeclarationLayout} {pair : Declaration} :
    declaration.Reads pair ↔ declaration.read = pair := by
  rw [Reads, ← clean_eq_iff, ← clean_eq_iff, read, Prod.ext_iff]

theorem forall₂_reads_iff {declarations : List DeclarationLayout} {pairs : List Declaration} :
    List.Forall₂ DeclarationLayout.Reads declarations pairs ↔
      declarations.map DeclarationLayout.read = pairs := by
  constructor
  · intro h
    induction h with
    | nil => rfl
    | cons first _ ih => rw [List.map_cons, DeclarationLayout.reads_iff.1 first, ih]
  · rintro rfl
    induction declarations with
    | nil => exact .nil
    | cons declaration declarations ih => exact .cons (DeclarationLayout.reads_iff.2 rfl) ih

/-! ## The reader -/

/-- Reads on between two declarations: comments, and then declarations. -/
def readOn (text : List Char) : Except Failure (List Declaration) :=
  (skipComments text).bind readDeclarations

section ReadOn

variable {text rest : List Char}

theorem stopsAt_iff {p : Char → Bool} : StopsAt p text ↔ (text.head?.map p).getD false = false := by
  cases text <;> simp

theorem readDeclarations_of_stopsAt (h : StopsAt isNameChar text) :
    readDeclarations text = .ok [] := by
  rw [readDeclarations, stopsAt_iff.1 h]
  rfl

/-- Where a name follows, a declaration is read, and then it goes on. -/
theorem readDeclarations_of_not_stopsAt (h : ¬StopsAt isNameChar text) :
    readDeclarations text = (readDeclaration text).bind fun read =>
      (readOn read.2).map (read.1 :: ·) := by
  rw [readDeclarations, if_pos (by simpa [stopsAt_iff] using h)]
  split
  · rename_i failure hd
    rw [hd]
    rfl
  · rename_i declaration behind hd
    rw [hd]
    simp only [Except.bind, readOn]
    split
    · rename_i failure hc
      rw [hc]
      rfl
    · rename_i behind' hc
      rw [hc]
      simp only []
      cases readDeclarations behind' <;> rfl

/-- The reader stops where no name follows. -/
theorem readOn_of_stopsAt (h : StopsAt isNameChar text) : readOn text = .ok [] := by
  have hc : ¬['/', '*'] <+: text := by
    rintro ⟨behind, rfl⟩
    cases stopsAt_cons.1 h
  rw [readOn, skipComments_of_no_comment hc]
  exact readDeclarations_of_stopsAt h

theorem readOn_name {name : NameLayout} (h : name.Fits rest) :
    readOn (name.text ++ rest) = (readDeclaration (name.text ++ rest)).bind fun read =>
      (readOn read.2).map (read.1 :: ·) := by
  rw [readOn, skipComments_of_no_comment h.not_comment]
  exact readDeclarations_of_not_stopsAt (name.not_stopsAt rest)

/-- The reader fails where it gives up. -/
theorem readOn_of_failing {cause : Cause} {begun suffix : List Char}
    (h : Failing cause begun suffix) : readOn (begun ++ suffix) = .error ⟨cause, suffix⟩ := by
  cases h with
  | unclosed unclosed =>
    rw [List.nil_append, readOn, skipComments_of_unclosed unclosed]
    rfl
  | @unclosedAfterName name suffix fits unclosed =>
    rw [readOn_name fits,
      readDeclaration_of_failing (.unclosedAfterName fits unclosed) name.text_ne_nil]
    rfl
  | @noColon name remark suffix fits blanks noRemark noColon =>
    have hne : name.text ++ remarksText remark.toList ≠ [] := by simp [name.text_ne_nil]
    rw [List.append_assoc, readOn_name fits, ← List.append_assoc,
      readDeclaration_of_failing (.noColon fits blanks noRemark noColon) hne]
    rfl

/-- A declaration that fits is read, and then the reader goes on behind it. -/
theorem readOn_declaration {declaration : DeclarationLayout} (h : declaration.Fits rest) :
    readOn (declaration.text ++ rest) = (readOn rest).map (declaration.read :: ·) := by
  rw [DeclarationLayout.text_append, readOn_name h.name, ← DeclarationLayout.text_append,
    DeclarationLayout.readDeclaration_text h]
  simp only [Except.bind]
  rw [readOn, skipComments_remarksText declaration.remarks h.remarks, ← readOn]

theorem readOn_declarationsText {declarations : List DeclarationLayout}
    (h : FitAll declarations rest) :
    readOn (declarationsText declarations ++ rest) =
      (readOn rest).map (declarations.map DeclarationLayout.read ++ ·) := by
  induction declarations with
  | nil =>
    cases hr : readOn rest <;> simp [hr, Except.map]
  | cons declaration declarations ih =>
    rw [declarationsText_cons, List.append_assoc, readOn_declaration h.1, ih h.2]
    cases readOn rest <;> rfl

theorem readStyle_eq_readOn (text : List Char) : readStyle text = readOn (skipSpace text) := by
  rw [readStyle, readOn]
  cases skipComments (skipSpace text) <;> rfl

/-- A style that fits is read, and then the reader goes on behind it. -/
theorem readStyle_text {layout : Layout} (h : layout.Fits rest) :
    readStyle (layout.text ++ rest) =
      (readOn rest).map (layout.declarations.map DeclarationLayout.read ++ ·) := by
  rw [readStyle_eq_readOn, Layout.text, List.append_assoc, List.append_assoc, skipSpace,
    dropWhile_run layout.isSpace_of_mem (stopsAt_remarksText rfl layout.remarks h.remarks), readOn,
    skipComments_remarksText layout.remarks h.remarks, ← readOn,
    readOn_declarationsText h.declarations]

end ReadOn

/-! ## Every text has a layout -/

/-- Whether the reader stops at the front of a text, or gives up. -/
def Ends (rest : List Char) : Prop :=
  StopsAt isNameChar rest ∨ ∃ (cause : Cause) (begun suffix : List Char),
    rest = begun ++ suffix ∧ Failing cause begun suffix

/-- Where no closed comment follows, declarations follow, and then the end.  The recursion is along
the text: there is less of it behind a declaration. -/
theorem exists_declarations (text : List Char) (h : NoRemark text) :
    ∃ (declarations : List DeclarationLayout) (rest : List Char),
      text = declarationsText declarations ++ rest ∧ FitAll declarations rest ∧ Ends rest := by
  by_cases hn : StopsAt isNameChar text
  · exact ⟨[], text, rfl, trivial, .inl hn⟩
  · rcases h with h | h
    · rcases exists_declaration hn h with
        ⟨declaration, behind, htext, hfits, hbehind⟩ | ⟨cause, begun, suffix, htext, hfails⟩
      · have hlt : behind.length < text.length := by
          have hpos := List.length_pos_iff.2 declaration.name.text_ne_nil
          rw [htext, DeclarationLayout.text, List.length_append, List.length_append]
          omega
        obtain ⟨declarations, rest, hb, hall, hend⟩ := exists_declarations behind hbehind
        exact ⟨declaration :: declarations, rest, by simp [htext, hb], ⟨hb ▸ hfits, hall⟩, hend⟩
      · exact ⟨[], text, rfl, trivial, .inr ⟨cause, begun, suffix, htext, hfails⟩⟩
    · exact ⟨[], text, rfl, trivial, .inr ⟨_, [], text, rfl, .unclosed h⟩⟩
termination_by text.length
decreasing_by exact hlt

/-- Every text starts with a style, behind which the reader stops or gives up. -/
theorem exists_layout (text : List Char) :
    ∃ (layout : Layout) (rest : List Char), text = layout.text ++ rest ∧ layout.Fits rest ∧
      Ends rest := by
  obtain ⟨indent, behind, rfl, hindent, hs⟩ := exists_run isSpace text
  obtain ⟨remarks, behind, rfl, hb, hc⟩ := exists_remarks behind hs
  obtain ⟨declarations, rest, rfl, hall, hend⟩ := exists_declarations behind hc
  exact ⟨⟨indent, remarks, declarations, hindent⟩, rest, by simp [Layout.text], ⟨hb, hall⟩, hend⟩

/-! ## What is read -/

/-- An outcome whose account of a text is true is what is read from it. -/
theorem parse_eq_of_splits {text : String} {names : StyleCase}
    {outcome : Except Fault (Entries String)} (h : Splits text.toList names outcome) :
    parse text names = outcome := by
  cases outcome with
  | ok entries =>
    obtain ⟨layout, rest, pairs, htext, hfits, hstops, hreads, rfl⟩ := h
    simp only [parse, htext, readStyle_text hfits, readOn_of_stopsAt hstops, Except.map,
      List.append_nil, forall₂_reads_iff.1 hreads, entriesOf]
  | error fault =>
    obtain ⟨layout, begun, suffix, htext, hfits, hfails, hplace⟩ := h
    have hlen : (layout.text ++ begun ++ suffix).length - suffix.length =
        (layout.text ++ begun).length :=
      Nat.sub_eq_of_eq_add List.length_append
    simp only [parse, htext, readStyle_text hfits, readOn_of_failing hfails, Except.map]
    rw [← List.append_assoc, hlen, List.take_left, after_eq_placeBehind, ← hplace]

/-- Every text has an outcome whose account of it is true. -/
theorem exists_splits (text : List Char) (names : StyleCase) :
    ∃ outcome, Splits text names outcome := by
  obtain ⟨layout, rest, rfl, hfits, hstops | ⟨cause, begun, suffix, rfl, hfails⟩⟩ :=
    exists_layout text
  · exact ⟨.ok (entriesOf names (layout.declarations.map DeclarationLayout.read)), layout, rest, _,
      rfl, hfits, hstops, forall₂_reads_iff.2 rfl, rfl⟩
  · exact ⟨.error ⟨cause, placeBehind (layout.text ++ begun)⟩, layout, begun, suffix, rfl, hfits,
      hfails, rfl⟩

/-- What is read from a style text is the one outcome whose account of the text is true. -/
theorem parse_eq_iff (text : String) (names : StyleCase)
    (outcome : Except Fault (Entries String)) :
    parse text names = outcome ↔ Splits text.toList names outcome := by
  constructor
  · rintro rfl
    obtain ⟨outcome, h⟩ := exists_splits text.toList names
    rwa [parse_eq_of_splits h]
  · exact parse_eq_of_splits

end Style
end MarkupJsx
