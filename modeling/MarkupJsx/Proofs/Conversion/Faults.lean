import Mathlib.Data.List.Basic
import MarkupJsx.Conversion.Program
import MarkupJsx.Proofs.Conversion.Rules
import MarkupJsx.Proofs.Vocabulary.StyleName
import MarkupJsx.Script.InsertionSort

/-!
# Which error a conversion reports

What is wrong with a tree is a list, `Node.faults`, that is read off the tree.  It is in the order
in which a conversion would come across the faults: a malformed node is a fault on any level, and
any other node is one at the limit and below it; only above the limit does it matter what a node is
and what is inside it.  The faults of the nodes inside an element come before those of its styles,
those of the nodes inside a component before those of its attributes, and a line break that is left
out is not looked at.

The faults of the markup are a matter of the tree alone (`markupFaults`).  Besides these, the
comments of a script can be such that the sort gives up on them.

A conversion stops at the first fault.  `Reports` says so of a result and a list of faults, and
`Answers` of a step that is run in a given namespace, in given fashions and at a given depth.  For
steps that are put one after the other the faults are put one behind the other (`Answers.bind`),
whatever the values are that the steps answer.

That properties other than the inline style have no faults, and that the inline style is found by
its name alone, is `reports_attributesOf`.  The exception are lists: a list in the place of a style
is read as a text.

The main statement is `toProgram_reports`: **a tree has no program exactly if something is wrong
with it, and the error is the first of its faults.**  The faults of the markup alone do not decide
this, since a script can come first (`toProgram_scatteredDocument`).
-/

namespace MarkupJsx
open Jsx (Child Attribute)

/-! ## The faults of a tree -/

/-- Whether an error says that a sort has given up. -/
def ConversionError.isUnsorted : ConversionError → Bool
  | unsorted => true
  | _ => false

theorem ConversionError.isUnsorted_iff {error : ConversionError} :
    error.isUnsorted = true ↔ error = .unsorted := by
  cases error with
  | unsorted => exact iff_of_true rfl rfl
  | _ => exact iff_of_false nofun nofun

/-- The faults that are a matter of the markup, without those of the scripts in it. -/
def markupFaults (faults : List ConversionError) : List ConversionError :=
  faults.filter (!·.isUnsorted)

/-- Whether a property is an inline style in the form of a list. -/
def isListStyle : String × PropertyValue → Bool
  | (name, .list _) => Text.sameLetters name "style"
  | _ => false

/-- What is wrong with a property of an element: it is an inline style with a text that cannot be
read. -/
def styleFault? (names : StyleCase) (tagName : String) :
    String × PropertyValue → Option ConversionError
  | (name, .string text) =>
    if Text.sameLetters name "style" then
      match Style.parse text names with
      | .ok _ => none
      | .error fault => some (.style tagName fault)
    else none
  | _ => none

/-- What is wrong with something that may carry a script: the comments of the script cannot be
placed. -/
def scriptFault? [Sorter] (script : Option Script) : Option ConversionError :=
  if script.all Script.settled then none else some .unsorted

theorem exists_script_of_scriptFault? [Sorter] {script : Option Script} {error : ConversionError}
    (h : scriptFault? script = some error) :
    error = .unsorted ∧ ∃ taken, script = some taken ∧ taken.attach = none := by
  rw [scriptFault?] at h
  cases script with
  | none => exact nomatch h
  | some taken =>
    rw [Option.all_some] at h
    split at h
    · exact nomatch h
    · rename_i hsettled
      exact ⟨(Option.some.inj h).symm, taken, rfl, Script.attach_of_not_settled hsettled⟩

theorem eq_style_of_styleFault? {names : StyleCase} {tagName : String}
    {property : String × PropertyValue} {error : ConversionError}
    (h : styleFault? names tagName property = some error) :
    ∃ fault, error = .style tagName fault := by
  unfold styleFault? at h
  split at h
  · split at h
    · split at h
      · exact nomatch h
      · exact ⟨_, (Option.some.inj h).symm⟩
    · exact nomatch h
  · exact nomatch h

/-- What is wrong with a node on a level: at the limit and below it, that it is too deep. -/
def unlessTooDeep (limit level : Nat) (faults : List ConversionError) : List ConversionError :=
  if limit ≤ level then [.tooDeep limit] else faults

namespace Node

mutual

/-- The properties of the elements in a node. -/
def properties : Node → List (String × PropertyValue)
  | .root _ children => allProperties children
  | .element _ _ own children => own ++ allProperties children
  | .text _ _ => []
  | .comment _ _ => []
  | .doctype _ => []
  | .esm _ => []
  | .expression _ _ => []
  | .component _ _ _ _ children => allProperties children
  | .unknown _ _ _ => []
  | .malformed _ => []
termination_by structural node => node

/-- The properties of the elements in nodes one after the other. -/
def allProperties : List Node → List (String × PropertyValue)
  | [] => []
  | node :: rest => node.properties ++ allProperties rest
termination_by structural nodes => nodes

end

mutual

/-- The nodes that are met in a node, itself included, each with its level. -/
def met (space : Namespace) (level : Nat) : Node → List (Nat × Node)
  | .root source children =>
    (level, .root source children) :: allMet space (level + 1) false children
  | .element source tagName own children =>
    let inside := Conversion.innerSpace space tagName
    let isTable := (Node.element source tagName own children).isTableStructure
    (level, .element source tagName own children) ::
      allMet inside (level + 1) (inside = .html && isTable) children
  | .component placement source name attributes children =>
    (level, .component placement source name attributes children) ::
      allMet ((name.map (Conversion.innerSpace space)).getD space) (level + 1) false children
  | .text source value => [(level, .text source value)]
  | .comment source value => [(level, .comment source value)]
  | .doctype source => [(level, .doctype source)]
  | .esm source => [(level, .esm source)]
  | .expression placement source => [(level, .expression placement source)]
  | .unknown source kind fields => [(level, .unknown source kind fields)]
  | .malformed value => [(level, .malformed value)]
termination_by structural node => node

/-- The nodes that are met in nodes one after the other; with `skipBreaks` texts of a single line
break are not met. -/
def allMet (space : Namespace) (level : Nat) (skipBreaks : Bool) : List Node → List (Nat × Node)
  | [] => []
  | node :: rest =>
    (if skipBreaks && node.isLineBreak then [] else node.met space level) ++
      allMet space level skipBreaks rest
termination_by structural nodes => nodes

end

theorem mem_allProperties {node : Node} {nodes : List Node} (hnode : node ∈ nodes)
    {property : String × PropertyValue} (h : property ∈ node.properties) :
    property ∈ allProperties nodes := by
  induction nodes with
  | nil => exact (List.not_mem_nil hnode).elim
  | cons first rest ih =>
    rw [allProperties, List.mem_append]
    rcases List.mem_cons.1 hnode with rfl | hrest
    · exact Or.inl h
    · exact Or.inr (ih hrest)

theorem mem_met_self (space : Namespace) (level : Nat) (node : Node) :
    (level, node) ∈ node.met space level := by
  cases node with
  | _ => exact List.mem_cons_self

theorem eq_limit_of_beyondLimit {limit reported : Nat} {node : Node}
    (h : .tooDeep reported = beyondLimit limit node) : reported = limit := by
  cases node with
  | malformed value => exact nomatch h
  | _ => exact ConversionError.tooDeep.inj h

variable [Sorter] (names : StyleCase) (limit : Nat)

mutual

/-- What is wrong with a node on a given level and with what is inside it, in a given namespace. -/
def faults (space : Namespace) (level : Nat) : Node → List ConversionError
  | .malformed value => [.malformed value]
  | .root _ children => unlessTooDeep limit level (allFaults space (level + 1) false children)
  | .element source tagName own children =>
    let inside := Conversion.innerSpace space tagName
    let isTable := (Node.element source tagName own children).isTableStructure
    unlessTooDeep limit level
      (allFaults inside (level + 1) (inside = .html && isTable) children ++
        own.filterMap (styleFault? names tagName))
  | .component _ _ name attributes children =>
    unlessTooDeep limit level
      (allFaults ((name.map (Conversion.innerSpace space)).getD space) (level + 1) false children ++
        attributes.filterMap fun item => scriptFault? item.script?)
  | .unknown _ kind _ => unlessTooDeep limit level [.unknownKind kind]
  | .text _ _ => unlessTooDeep limit level []
  | .comment _ _ => unlessTooDeep limit level []
  | .doctype _ => unlessTooDeep limit level []
  | .esm source => unlessTooDeep limit level (scriptFault? source.script).toList
  | .expression _ source => unlessTooDeep limit level (scriptFault? source.script).toList
termination_by structural node => node

/-- What is wrong with nodes one after the other; with `skipBreaks` texts of a single line break are
not looked at. -/
def allFaults (space : Namespace) (level : Nat) (skipBreaks : Bool) :
    List Node → List ConversionError
  | [] => []
  | node :: rest =>
    (if skipBreaks && node.isLineBreak then [] else node.faults space level) ++
      allFaults space level skipBreaks rest
termination_by structural nodes => nodes

end

/-- At the limit and below it nothing is looked at but whether a node is malformed. -/
theorem faults_of_le {level : Nat} (h : limit ≤ level) (space : Namespace) (node : Node) :
    node.faults names limit space level = [beyondLimit limit node] := by
  cases node with
  | malformed value => rfl
  | _ => exact if_pos h

mutual

/-- A depth is only reported if there is a node that is met at the limit or below it. -/
theorem met_of_tooDeep {reported : Nat} (space : Namespace) (level : Nat) (node : Node)
    (h : .tooDeep reported ∈ node.faults names limit space level) :
    reported = limit ∧ ∃ place ∈ node.met space level, limit ≤ place.1 := by
  -- At the limit the node itself is such a node.  Above it the fault is one of a node inside, since
  -- no style and no kind is too deep.
  by_cases hlevel : limit ≤ level
  · rw [faults_of_le names limit hlevel, List.mem_singleton] at h
    exact ⟨eq_limit_of_beyondLimit h, _, mem_met_self space level node, hlevel⟩
  · match node with
    | .root source children =>
      rw [faults, unlessTooDeep, if_neg hlevel] at h
      obtain ⟨hlimit, place, hplace, hle⟩ := met_of_tooDeep_mem space (level + 1) _ children h
      exact ⟨hlimit, place, List.mem_cons_of_mem _ hplace, hle⟩
    | .element source tagName own children =>
      rw [faults, unlessTooDeep, if_neg hlevel, List.mem_append] at h
      rcases h with h | h
      · obtain ⟨hlimit, place, hplace, hle⟩ := met_of_tooDeep_mem _ (level + 1) _ children h
        exact ⟨hlimit, place, List.mem_cons_of_mem _ hplace, hle⟩
      · obtain ⟨property, -, hproperty⟩ := List.mem_filterMap.1 h
        obtain ⟨fault, hfault⟩ := eq_style_of_styleFault? hproperty
        exact nomatch hfault
    | .component placement source name attributes children =>
      rw [faults, unlessTooDeep, if_neg hlevel, List.mem_append] at h
      rcases h with h | h
      · obtain ⟨hlimit, place, hplace, hle⟩ := met_of_tooDeep_mem _ (level + 1) _ children h
        exact ⟨hlimit, place, List.mem_cons_of_mem _ hplace, hle⟩
      · obtain ⟨item, -, hitem⟩ := List.mem_filterMap.1 h
        exact nomatch (exists_script_of_scriptFault? hitem).1
    | .esm _ | .expression _ _ =>
      rw [faults, unlessTooDeep, if_neg hlevel, Option.mem_toList] at h
      exact nomatch (exists_script_of_scriptFault? h).1
    | .unknown _ _ _ =>
      rw [faults, unlessTooDeep, if_neg hlevel, List.mem_singleton] at h
      exact nomatch h
    | .malformed _ => exact nomatch List.mem_singleton.1 h
    | .text _ _ | .comment _ _ | .doctype _ =>
      rw [faults, unlessTooDeep, if_neg hlevel] at h
      exact (List.not_mem_nil h).elim
termination_by structural node

theorem met_of_tooDeep_mem {reported : Nat} (space : Namespace) (level : Nat) (skipBreaks : Bool)
    (nodes : List Node)
    (h : .tooDeep reported ∈ allFaults names limit space level skipBreaks nodes) :
    reported = limit ∧ ∃ place ∈ allMet space level skipBreaks nodes, limit ≤ place.1 := by
  match nodes with
  | [] => exact (List.not_mem_nil h).elim
  | node :: rest =>
    rw [allFaults, List.mem_append] at h
    rw [allMet]
    rcases h with h | h
    · split at h
      · exact (List.not_mem_nil h).elim
      · rename_i hkept
        obtain ⟨hlimit, place, hplace, hle⟩ := met_of_tooDeep space level node h
        rw [if_neg hkept]
        exact ⟨hlimit, place, List.mem_append_left _ hplace, hle⟩
    · obtain ⟨hlimit, place, hplace, hle⟩ := met_of_tooDeep_mem space level skipBreaks rest h
      exact ⟨hlimit, place, List.mem_append_right _ hplace, hle⟩
termination_by structural nodes

end

mutual

/-- A sort has given up only if there is a script whose comments cannot be placed. -/
theorem exists_script_of_unsorted (space : Namespace) (level : Nat) (node : Node)
    (h : .unsorted ∈ node.faults names limit space level) :
    ∃ script ∈ node.scripts, script.attach = none := by
  by_cases hlevel : limit ≤ level
  · rw [faults_of_le names limit hlevel, List.mem_singleton] at h
    cases node <;> exact nomatch h
  · match node with
    | .root source children =>
      rw [faults, unlessTooDeep, if_neg hlevel] at h
      exact exists_script_of_unsorted_mem space (level + 1) _ children h
    | .element source tagName own children =>
      rw [faults, unlessTooDeep, if_neg hlevel, List.mem_append] at h
      rcases h with h | h
      · exact exists_script_of_unsorted_mem _ (level + 1) _ children h
      · obtain ⟨property, -, hproperty⟩ := List.mem_filterMap.1 h
        obtain ⟨fault, hfault⟩ := eq_style_of_styleFault? hproperty
        exact nomatch hfault
    | .component placement source name attributes children =>
      rw [faults, unlessTooDeep, if_neg hlevel, List.mem_append] at h
      rw [scripts]
      rcases h with h | h
      · obtain ⟨script, hscript, hnone⟩ :=
          exists_script_of_unsorted_mem _ (level + 1) _ children h
        exact ⟨script, List.mem_append_left _ hscript, hnone⟩
      · obtain ⟨item, hitem, hfault⟩ := List.mem_filterMap.1 h
        obtain ⟨-, script, hscript, hnone⟩ := exists_script_of_scriptFault? hfault
        exact ⟨script, List.mem_append_right _ (List.mem_filterMap.2 ⟨item, hitem, hscript⟩),
          hnone⟩
    | .esm source | .expression _ source =>
      rw [faults, unlessTooDeep, if_neg hlevel, Option.mem_toList] at h
      obtain ⟨-, script, hscript, hnone⟩ := exists_script_of_scriptFault? h
      exact ⟨script, Option.mem_toList.2 hscript, hnone⟩
    | .unknown _ _ _ =>
      rw [faults, unlessTooDeep, if_neg hlevel, List.mem_singleton] at h
      exact nomatch h
    | .malformed _ => exact nomatch List.mem_singleton.1 h
    | .text _ _ | .comment _ _ | .doctype _ =>
      rw [faults, unlessTooDeep, if_neg hlevel] at h
      exact (List.not_mem_nil h).elim
termination_by structural node

theorem exists_script_of_unsorted_mem (space : Namespace) (level : Nat) (skipBreaks : Bool)
    (nodes : List Node)
    (h : .unsorted ∈ allFaults names limit space level skipBreaks nodes) :
    ∃ script ∈ allScripts nodes, script.attach = none := by
  match nodes with
  | [] => exact (List.not_mem_nil h).elim
  | node :: rest =>
    rw [allFaults, List.mem_append] at h
    rw [allScripts]
    rcases h with h | h
    · split at h
      · exact (List.not_mem_nil h).elim
      · obtain ⟨script, hscript, hnone⟩ := exists_script_of_unsorted space level node h
        exact ⟨script, List.mem_append_left _ hscript, hnone⟩
    · obtain ⟨script, hscript, hnone⟩ :=
        exists_script_of_unsorted_mem space level skipBreaks rest h
      exact ⟨script, List.mem_append_right _ hscript, hnone⟩
termination_by structural nodes

end

/-- Where the comments of all scripts can be placed, only the markup has faults. -/
theorem markupFaults_faults {node : Node}
    (h : ∀ script ∈ node.scripts, script.attach.isSome) (space : Namespace) (level : Nat) :
    markupFaults (node.faults names limit space level) = node.faults names limit space level := by
  refine List.filter_eq_self.2 fun error herror => ?_
  cases error with
  | unsorted =>
    obtain ⟨script, hscript, hnone⟩ := exists_script_of_unsorted names limit space level node herror
    have hsome := h script hscript
    rw [hnone] at hsome
    exact nomatch hsome
  | _ => rfl

end Node

/-! ## Results and steps -/

/-- A result is an error exactly if there are faults, and then it is the first of them. -/
def Reports {α : Type} (faults : List ConversionError) : Except ConversionError α → Prop
  | .ok _ => faults = []
  | .error error => faults.head? = some error

namespace Reports

variable {α β : Type} {faults : List ConversionError}

/-- What comes behind an error is not reported. -/
theorem error_append {error : ConversionError} (h : Reports (α := α) faults (.error error))
    (others : List ConversionError) : Reports (α := β) (faults ++ others) (.error error) := by
  have hhead : faults.head? = some error := h
  show (faults ++ others).head? = some error
  rw [List.head?_append, hhead, Option.some_or]

/-- Behind a value everything is left to what follows. -/
theorem ok_append {value : α} {others : List ConversionError} {result : Except ConversionError β}
    (h : Reports faults (.ok value)) (hothers : Reports others result) :
    Reports (faults ++ others) result := by
  have hnone : faults = [] := h
  rwa [hnone, List.nil_append]

/-- **One result after the other:** the faults are put one behind the other. -/
theorem bind {result : Except ConversionError α} {next : α → Except ConversionError β}
    {others : List ConversionError} (h : Reports faults result)
    (hnext : ∀ value, Reports others (next value)) :
    Reports (faults ++ others) (result.bind next) := by
  cases result with
  | error error => exact h.error_append others
  | ok value => exact h.ok_append (hnext value)

/-- The first fault is the error. -/
theorem eq_error {error : ConversionError} {result : Except ConversionError α}
    (h : Reports faults result) (hfirst : faults.head? = some error) : result = .error error := by
  cases result with
  | ok value =>
    have hnone : faults = [] := h
    rw [hnone] at hfirst
    exact nomatch hfirst
  | error other =>
    have hother : faults.head? = some other := h
    rw [Option.some.inj (hother.symm.trans hfirst)]

/-- What is done with a value changes nothing in the errors. -/
theorem map (f : α → β) {result : Except ConversionError α} (h : Reports faults result) :
    Reports faults (result.map f) := by
  cases result with
  | ok value => exact h
  | error error => exact h

end Reports

namespace Conversion

variable {α β : Type} {start : State}

/-- Run in the namespace, in the fashions and at the depth of a given state, a step reports the
first of some faults. -/
def Answers (start : State) (step : Conversion α) (faults : List ConversionError) : Prop :=
  ∀ state, state.cleared = start.cleared → Reports faults (step.run state).1

namespace Answers

variable {step : Conversion α} {faults others : List ConversionError}

theorem pure (value : α) : Answers start (pure value) [] :=
  fun _ _ => rfl

theorem fail (error : ConversionError) : Answers start (fail error : Conversion α) [error] :=
  fun _ _ => rfl

theorem ofExcept {result : Except ConversionError α} (h : Reports faults result) :
    Answers start (ofExcept result) faults :=
  fun _ _ => h

theorem logComments (comments : List Comment) : Answers start (logComments comments) [] :=
  fun _ _ => rfl

theorem logStatements (statements : List Jsx.Statement) :
    Answers start (logStatements statements) [] :=
  fun _ _ => rfl

/-- **One after the other:** the faults of the first step, and behind them those of the second,
which are the same whatever the first step has given. -/
theorem bind {next : α → Conversion β} (hstep : Additive step) (h : Answers start step faults)
    (hnext : ∀ value, Answers start (next value) others) :
    Answers start (step >>= next) (faults ++ others) := by
  intro state hstate
  have hfirst := h state hstate
  have hcleared := hstep.cleared_after state
  rw [run_bind]
  rcases hrun : step.run state with ⟨outcome, after⟩
  rw [hrun] at hfirst hcleared
  cases outcome with
  | error error => exact hfirst.error_append others
  | ok value => exact hfirst.ok_append (hnext value after (hcleared.trans hstate))

/-- What is done with the value of a step adds no faults. -/
theorem bind_pure {f : α → β} (hstep : Additive step) (h : Answers start step faults) :
    Answers start (step >>= fun value => Pure.pure (f value)) faults := by
  have hboth := h.bind hstep fun value => Answers.pure (f value)
  rwa [List.append_nil] at hboth

/-- A step that is put behind a question is judged with the answer. -/
theorem space_bind {next : Namespace → Conversion α}
    (h : Answers start (next start.space) faults) : Answers start (space >>= next) faults := by
  intro state hstate
  show Reports faults ((next state.cleared.space).run state).1
  rw [hstate]
  exact h state hstate

theorem spelling_bind {next : Spelling → Conversion α}
    (h : Answers start (next start.spelling) faults) :
    Answers start (spelling >>= next) faults := by
  intro state hstate
  show Reports faults ((next state.cleared.spelling).run state).1
  rw [hstate]
  exact h state hstate

theorem depth_bind {next : Nat → Conversion α} (h : Answers start (next start.depth) faults) :
    Answers start (depth >>= next) faults := by
  intro state hstate
  show Reports faults ((next state.cleared.depth).run state).1
  rw [hstate]
  exact h state hstate

theorem within {space : Namespace} (h : Answers { start with space } step faults) :
    Answers start (within space step) faults := by
  intro state hstate
  refine h { state with space } ?_
  exact congrArg (fun state : State => { state with space }) hstate

theorem deeper (h : Answers { start with depth := start.depth + 1 } step faults) :
    Answers start (deeper step) faults := by
  intro state hstate
  refine h { state with depth := state.depth + 1 } ?_
  exact congrArg (fun state : State => { state with depth := state.depth + 1 }) hstate

end Answers

/-! ## The properties of an element -/

/-- Under any name but `style` every value can be written. -/
theorem reports_writtenValue_of_ne {name : String} (h : name ≠ "style") (names : StyleCase)
    (tagName : String) (value : PropertyValue) :
    Reports [] (writtenValue names tagName name value) := by
  unfold writtenValue
  rw [if_neg h]
  split
  · exact rfl
  · exact rfl

/-- As a style every value but a text can be written, and a text if it can be read. -/
theorem reports_writtenValue_style {property : String} (h : Text.sameLetters property "style")
    (names : StyleCase) (tagName : String) (value : PropertyValue) :
    Reports (styleFault? names tagName (property, value)).toList
      (writtenValue names tagName "style" value) := by
  unfold writtenValue
  rw [if_pos rfl]
  refine Reports.map _ ?_
  cases value with
  | string text =>
    rw [styleFault?, if_pos h, declarationsOf]
    cases Style.parse text names with
    | ok declarations => exact rfl
    | error fault => exact rfl
  | _ => exact rfl

/-- A property that becomes nothing has no faults, and any other one those of its value. -/
theorem reports_attributeFor_of_writtenValue {space : Namespace} {spelling : Spelling}
    {tagName property : String} {value : PropertyValue} {faults : List ConversionError}
    (homitted : isOmitted (Vocabulary.find space property) value → faults = [])
    (hwritten : Reports faults (writtenValue spelling.styles tagName
      ((Vocabulary.find space property).writtenName spelling.attributes)
      (flatten (Vocabulary.find space property) value))) :
    Reports faults (attributeFor space spelling tagName property value) := by
  unfold attributeFor
  dsimp only
  split
  · rename_i h
    exact homitted h
  · split
    · rename_i h
      rw [h] at hwritten
      exact hwritten
    · rename_i h
      rw [h] at hwritten
      exact hwritten

/-- **A property reports what is wrong with it,** which is something only if it is an inline style.
An inline style with a text is written, since it is none of the properties that are either present
or absent. -/
theorem reports_attributeFor (space : Namespace) (spelling : Spelling) (tagName property : String)
    (value : PropertyValue) (hlist : isListStyle (property, value) = false) :
    Reports (styleFault? spelling.styles tagName (property, value)).toList
      (attributeFor space spelling tagName property value) := by
  by_cases hname : Text.sameLetters property "style"
  · have hwritten : (Vocabulary.find space property).writtenName spelling.attributes = "style" :=
      (Vocabulary.writtenName_find_eq_style_iff space _ property).2 hname
    have hflat : flatten (Vocabulary.find space property) value = value := by
      cases value with
      | list items =>
        rw [isListStyle, hname] at hlist
        exact nomatch hlist
      | _ => rfl
    refine reports_attributeFor_of_writtenValue (fun homitted => ?_) ?_
    · cases value with
      | string text =>
        rw [Vocabulary.find_of_sameLetters_style hname] at homitted
        cases space <;> exact nomatch homitted
      | _ => rfl
    · rw [hwritten, hflat]
      exact reports_writtenValue_style hname _ tagName value
  · have hwritten : (Vocabulary.find space property).writtenName spelling.attributes ≠ "style" :=
      fun h => hname ((Vocabulary.writtenName_find_eq_style_iff space _ property).1 h)
    have hnone : styleFault? spelling.styles tagName (property, value) = none := by
      cases value with
      | string text => exact if_neg hname
      | _ => rfl
    rw [hnone]
    refine reports_attributeFor_of_writtenValue (fun _ => rfl) ?_
    exact reports_writtenValue_of_ne hwritten _ tagName _

/-- The properties of an element report the first style that cannot be read. -/
theorem reports_attributesOf (space : Namespace) (spelling : Spelling) (tagName : String)
    (properties : Entries PropertyValue)
    (hlist : ∀ property ∈ properties, isListStyle property = false) :
    Reports (properties.filterMap (styleFault? spelling.styles tagName))
      (attributesOf space spelling tagName properties) := by
  induction properties with
  | nil => exact rfl
  | cons entry rest ih =>
    obtain ⟨property, value⟩ := entry
    obtain ⟨hentry, hrest⟩ := List.forall_mem_cons.1 hlist
    have hfirst := reports_attributeFor space spelling tagName property value hentry
    rw [attributesOf_cons, List.filterMap_eq_flatMap_toList, List.flatMap_cons,
      ← List.filterMap_eq_flatMap_toList]
    exact hfirst.bind fun first => (ih hrest).map _

/-! ## Scripts and the attributes of components -/

section Scripts

variable [Sorter]

/-- A step that gives a value if a script is settled has no fault but that of the script. -/
theorem answers_of_settled {step : Conversion α} {script : Option Script} {value : α}
    {after : State → State}
    (h : ∀ state, step.run state =
      (if script.all Script.settled then .ok value else .error .unsorted, after state)) :
    Answers start step (scriptFault? script).toList := by
  intro state _
  rw [h state, scriptFault?]
  cases script.all Script.settled <;> exact rfl

/-- What can be wrong with the attributes of a component are the scripts that they carry. -/
theorem answers_convertAttributes (attributes : List ComponentAttribute) :
    Answers start (convertAttributes attributes)
      (attributes.filterMap fun item => scriptFault? item.script?) := by
  induction attributes with
  | nil => exact Answers.pure []
  | cons first rest ih =>
    have hrest := sequential_additive.convertAttributes rest
    have hfirst : Answers start (convertAttribute first) (scriptFault? first.script?).toList :=
      answers_of_settled (run_convertAttribute first)
    rw [List.filterMap_eq_flatMap_toList, List.flatMap_cons, ← List.filterMap_eq_flatMap_toList]
    exact hfirst.bind (sequential_additive.convertAttribute first) fun _ => ih.bind_pure hrest

end Scripts

/-! ## Nodes -/

section Rules

variable [Sorter] {limit level : Nat} {convert : Node → Conversion Converted}
  (hadd : ∀ node, Additive (convert node))
include hadd

theorem answers_convertNodes {names : StyleCase} {space : Namespace} (skipBreaks : Bool)
    (nodes : List Node)
    (h : ∀ node ∈ nodes, Answers start (convert node) (node.faults names limit space level)) :
    Answers start (convertNodes convert skipBreaks nodes)
      (Node.allFaults names limit space level skipBreaks nodes) := by
  induction nodes with
  | nil => exact Answers.pure []
  | cons node rest ih =>
    obtain ⟨hnode, hrest⟩ := List.forall_mem_cons.1 h
    rw [convertNodes, Node.allFaults]
    split
    · exact ih hrest
    · exact hnode.bind (hadd node) fun _ => (ih hrest).bind_pure
        (sequential_additive.convertNodes (g := convert) hadd skipBreaks rest)

variable (h : ∀ (start : State) (node : Node), start.depth = level →
  (∀ property ∈ node.properties, isListStyle property = false) →
    Answers start (convert node) (node.faults start.spelling.styles limit start.space level))
include h

theorem answers_convertChildren (start : State) (parent : Node) (hdepth : start.depth = level)
    (hlists : ∀ property ∈ Node.allProperties parent.children, isListStyle property = false) :
    Answers start (convertChildren convert parent)
      (Node.allFaults start.spelling.styles limit start.space level
        (start.space = .html && parent.isTableStructure) parent.children) := by
  refine Answers.space_bind (answers_convertNodes hadd _ parent.children fun child hchild => ?_)
  refine h start child hdepth fun property hproperty => ?_
  exact hlists property (Node.mem_allProperties hchild hproperty)

/-- The children of an element are converted before its properties, so their faults come first. -/
theorem answers_convertElement (start : State) (source : Source) (tagName : String)
    (properties : Entries PropertyValue) (children : List Node) (hdepth : start.depth = level)
    (hown : ∀ property ∈ properties, isListStyle property = false)
    (hlists : ∀ property ∈ Node.allProperties children, isListStyle property = false) :
    let inside := innerSpace start.space tagName
    let isTable := (Node.element source tagName properties children).isTableStructure
    Answers start (convertElement convert source tagName properties children)
      (Node.allFaults start.spelling.styles limit inside level (inside = .html && isTable)
          children ++
        properties.filterMap (styleFault? start.spelling.styles tagName)) := by
  intro inside isTable
  refine Answers.space_bind (Answers.within ?_)
  refine Answers.bind (sequential_additive.convertChildren (g := convert) hadd _)
    (answers_convertChildren hadd h { start with space := inside } _ hdepth hlists) fun _ => ?_
  refine Answers.space_bind (Answers.spelling_bind ?_)
  have hresult := reports_attributesOf inside start.spelling tagName properties hown
  exact (Answers.ofExcept hresult).bind_pure (additive_ofExcept _)

theorem answers_convertComponent (start : State) (placement : Placement) (source : Source)
    (name : Option String) (attributes : List ComponentAttribute) (children : List Node)
    (hdepth : start.depth = level)
    (hlists : ∀ property ∈ Node.allProperties children, isListStyle property = false) :
    Answers start (convertComponent convert placement source name attributes children)
      (Node.allFaults start.spelling.styles limit
          ((name.map (innerSpace start.space)).getD start.space) level false children ++
        attributes.filterMap fun item => scriptFault? item.script?) := by
  refine Answers.space_bind (Answers.within ?_)
  have hchildren := answers_convertChildren hadd h
    { start with space := (name.map (innerSpace start.space)).getD start.space }
    (.component placement source name attributes children) hdepth hlists
  rw [Node.isTableStructure_component, Bool.and_false] at hchildren
  exact hchildren.bind (sequential_additive.convertChildren (g := convert) hadd _)
    fun inside => (answers_convertAttributes attributes).bind_pure
      (f := fun attributes =>
        Converted.one (.markup (componentMarkup name attributes inside source.origin)))
      (sequential_additive.convertAttributes attributes)

/-- **Each rule reports what is wrong with a node,** if inner nodes are answered for one level
deeper. -/
theorem answers_convertByKind {outer : Nat} (hlevel : level = outer + 1) (hlimit : outer < limit)
    (start : State) (node : Node) (hdepth : start.depth = level)
    (hlists : ∀ property ∈ node.properties, isListStyle property = false) :
    Answers start (convertByKind convert node)
      (node.faults start.spelling.styles limit start.space outer) := by
  have habove : ∀ faults, unlessTooDeep limit outer faults = faults :=
    fun _ => if_neg (Nat.not_le.2 hlimit)
  cases node with
  | root source children =>
    have hinside := answers_convertChildren hadd h start (.root source children) hdepth hlists
    rw [Node.isTableStructure_root, Bool.and_false, hlevel] at hinside
    rw [Node.faults, habove]
    exact hinside.bind_pure (sequential_additive.convertChildren (g := convert) hadd _)
  | element source tagName properties children =>
    rw [Node.faults, habove, ← hlevel]
    refine answers_convertElement hadd h start source tagName properties children hdepth ?_ ?_
    · exact fun property hproperty => hlists property (List.mem_append_left _ hproperty)
    · exact fun property hproperty => hlists property (List.mem_append_right _ hproperty)
  | component placement source name attributes children =>
    rw [Node.faults, habove, ← hlevel]
    exact answers_convertComponent hadd h start placement source name attributes children hdepth
      hlists
  | text source value =>
    rw [Node.faults, habove]
    exact Answers.pure _
  | comment source value =>
    rw [Node.faults, habove]
    exact (Answers.logComments _).bind_pure (additive_logComments _)
  | doctype source =>
    rw [Node.faults, habove]
    exact Answers.pure _
  | esm source =>
    rw [Node.faults, habove]
    have htaken : Answers start (takeScript source) (scriptFault? source.script).toList :=
      answers_of_settled (run_takeScript source)
    have hboth := htaken.bind (sequential_additive.takeScript source) fun body =>
      (Answers.logStatements ((body.getD []).map Jsx.Statement.foreign)).bind_pure
        (f := fun _ => Converted.nothing) (additive_logStatements _)
    rwa [List.append_nil] at hboth
  | expression placement source =>
    rw [Node.faults, habove]
    exact (answers_of_settled (run_takeExpression source)).bind_pure
      (sequential_additive.takeExpression source)
  | unknown source kind fields =>
    rw [Node.faults, habove]
    exact Answers.fail _
  | malformed value => exact Answers.fail _

end Rules

/-- **A conversion of a node reports what is wrong with it,** with as many levels as its depth
leaves. -/
theorem answers_convert [Sorter] (limit levels : Nat) (start : State) (node : Node)
    (hlevels : limit - start.depth = levels)
    (hlists : ∀ property ∈ node.properties, isListStyle property = false) :
    Answers start (convert (fun _ => none) limit levels node)
      (node.faults start.spelling.styles limit start.space start.depth) := by
  -- The levels run out exactly where the depth reaches the limit, so that a conversion without
  -- levels looks at no more of a node than its faults do there.
  induction levels generalizing start node with
  | zero =>
    rw [Node.faults_of_le _ _ (by omega)]
    exact Answers.fail _
  | succ levels ih =>
    have hlimit : start.depth < limit := by omega
    rw [convert_succ]
    refine Answers.depth_bind ?_
    rw [if_pos hlimit, convertWith_none]
    refine Answers.deeper ?_
    refine answers_convertByKind (additive_convert _ limit levels) (fun start node hdepth => ?_)
      rfl hlimit _ node rfl hlists
    rw [← hdepth]
    exact ih start node (by omega)

end Conversion

/-! ## The whole program -/

/-- The conversion of a tree without inline styles in the form of lists reports what is wrong with
the tree. -/
theorem reports_toProgram [Sorter] (space : Namespace) (spelling : Spelling) (maxDepth : Nat)
    (tree : Node) (hlists : ∀ property ∈ tree.properties, isListStyle property = false) :
    Reports (tree.faults spelling.styles maxDepth space 0)
      (toProgram { space, spelling, maxDepth } tree) := by
  let options : Options := { space, spelling, maxDepth }
  have hanswers : Reports (tree.faults spelling.styles maxDepth space 0)
      ((options.convertNode tree).run options.initialState).1 :=
    Conversion.answers_convert maxDepth maxDepth options.initialState tree rfl hlists
      options.initialState rfl
  rw [toProgram_eq]
  exact hanswers.map _

/-- A tree with nothing wrong with it has a program. -/
theorem exists_toProgram_eq_ok [Sorter] (space : Namespace) (spelling : Spelling) (maxDepth : Nat)
    (tree : Node) (hlists : ∀ property ∈ tree.properties, isListStyle property = false)
    (hfaults : tree.faults spelling.styles maxDepth space 0 = []) :
    ∃ program, toProgram { space, spelling, maxDepth } tree = .ok program := by
  have hreports := reports_toProgram space spelling maxDepth tree hlists
  rw [hfaults] at hreports
  cases hresult : toProgram { space, spelling, maxDepth } tree with
  | ok program => exact ⟨program, rfl⟩
  | error error =>
    rw [hresult] at hreports
    exact nomatch hreports

/-- Where the first fault is a script, a sort gives up. -/
theorem toProgram_eq_unsorted [Sorter] {space : Namespace} {spelling : Spelling} {maxDepth : Nat}
    {tree : Node} (hlists : ∀ property ∈ tree.properties, isListStyle property = false)
    (hfirst : (tree.faults spelling.styles maxDepth space 0).head?.map
      ConversionError.isUnsorted = some true) :
    toProgram { space, spelling, maxDepth } tree = .error .unsorted := by
  obtain ⟨error, hhead, hunsorted⟩ := Option.map_eq_some_iff.1 hfirst
  rw [ConversionError.isUnsorted_iff.1 hunsorted] at hhead
  exact (reports_toProgram space spelling maxDepth tree hlists).eq_error hhead

/-- **Which error is reported.**  Take any tree without inline styles in the form of lists, any
namespace, any fashions and any limit, and no overrides.  The tree has no program exactly if
something is wrong with it, and the error is then the first of its faults, in the order in which
they are met.  In particular, a depth is only reported if there is a node at the limit or below it.

Where the comments of all scripts can be placed, nothing is wrong but what is wrong with the markup.
Where they cannot, the end may be that a sort has given up; any other error is still the first fault
of the markup. -/
theorem toProgram_reports [Sorter] (space : Namespace) (spelling : Spelling) (maxDepth : Nat)
    (tree : Node) (hlists : ∀ property ∈ tree.properties, isListStyle property = false) :
    let outcome := toProgram { space, spelling, maxDepth } tree
    let faults := tree.faults spelling.styles maxDepth space 0
    ((∃ error, outcome = .error error) ↔ faults ≠ []) ∧
      (∀ error, outcome = .error error → faults.head? = some error) ∧
      ((∀ script ∈ tree.scripts, script.attach.isSome) → markupFaults faults = faults) ∧
      (∀ error, outcome = .error error →
        (error = .unsorted ∧ ∃ script ∈ tree.scripts, script.attach = none) ∨
          (markupFaults faults).head? = some error) ∧
      (∀ limit, outcome = .error (.tooDeep limit) →
        limit = maxDepth ∧ ∃ place ∈ tree.met space 0, maxDepth ≤ place.1) := by
  intro outcome faults
  have hreports : Reports faults outcome := reports_toProgram space spelling maxDepth tree hlists
  have hfirst : ∀ error, outcome = .error error → faults.head? = some error := by
    intro error herror
    rw [herror] at hreports
    exact hreports
  refine ⟨⟨?_, fun hfaults => ?_⟩, hfirst,
    fun hscripts => Node.markupFaults_faults spelling.styles maxDepth hscripts space 0,
    fun error herror => ?_, fun limit hlimit => ?_⟩
  · rintro ⟨error, herror⟩ hnone
    have hhead := hfirst error herror
    rw [hnone] at hhead
    exact nomatch hhead
  · cases hresult : outcome with
    | ok program =>
      rw [hresult] at hreports
      exact absurd hreports hfaults
    | error error => exact ⟨error, rfl⟩
  · have hhead := hfirst error herror
    cases hunsorted : error.isUnsorted with
    | true =>
      obtain rfl := ConversionError.isUnsorted_iff.1 hunsorted
      exact Or.inl ⟨rfl, Node.exists_script_of_unsorted spelling.styles maxDepth space 0 tree
        (List.mem_of_head? hhead)⟩
    | false =>
      obtain ⟨others, hothers⟩ := List.head?_eq_some_iff.1 hhead
      refine Or.inr ?_
      rw [markupFaults, hothers, List.filter_cons_of_pos (by rw [hunsorted]; rfl), List.head?_cons]
  · exact Node.met_of_tooDeep spelling.styles maxDepth space 0 tree
      (List.mem_of_head? (hfirst _ hlimit))

/-- A document with a fault of every kind.  The first one is met inside the element whose style
cannot be read, and the line break in front of it, which is just as deep, is not met. -/
def faultyDocument : Node :=
  .root {} [.element {} "TABLE" [("Style", .string "color")]
      [.element {} "tr" [] [.text {} (some "\n"), .element {} "td" [] []]],
    .component .flow {} (some "svg") [] [.malformed (.array [])],
    .unknown {} "mystery" []]

open scoped Sorting.Insertion in
theorem toProgram_reports_faultyDocument :
    (faultyDocument.faults .dom 3 .html 0).map ConversionError.message =
        ["Cannot handle tree deeper than 3 nodes", "TABLE[style]:1:6: property missing ':'",
          "Cannot handle value `[]`, expected node", "Cannot handle unknown node `mystery`"] ∧
      ∃ error, toProgram { maxDepth := 3 } faultyDocument = .error error ∧
        error.message = "Cannot handle tree deeper than 3 nodes" := by
  have hmessages : (faultyDocument.faults .dom 3 .html 0).map ConversionError.message =
      ["Cannot handle tree deeper than 3 nodes", "TABLE[style]:1:6: property missing ':'",
        "Cannot handle value `[]`, expected node",
        "Cannot handle unknown node `mystery`"] := by decide +kernel
  have hlists : ∀ property ∈ faultyDocument.properties, isListStyle property = false := by
    decide
  obtain ⟨hfails, hfirst, -, -, -⟩ := toProgram_reports .html {} 3 faultyDocument hlists
  have hsome : faultyDocument.faults .dom 3 .html 0 ≠ [] := by
    intro hnone
    rw [hnone] at hmessages
    exact nomatch hmessages
  obtain ⟨error, herror⟩ := hfails.2 hsome
  refine ⟨hmessages, error, herror, ?_⟩
  have hhead := congrArg List.head? hmessages
  rw [List.head?_map] at hhead
  have hsame : (faultyDocument.faults .dom 3 .html 0).head? = some error := hfirst error herror
  rw [hsame] at hhead
  exact Option.some.inj hhead

/-- An expression whose script has comments that are in no order, and behind it a node of a kind
that nothing is known about. -/
def scatteredDocument : Node :=
  .root {} [.expression .flow { data := some { script := some Script.scatteredScript } },
    .unknown {} "mystery" []]

open scoped Sorting.Insertion in
/-- The kind is all that is wrong with the markup, but the script comes first, and a sort may give
up on it. -/
theorem toProgram_scatteredDocument :
    (markupFaults (scatteredDocument.faults .dom 512 .html 0)).map ConversionError.message =
        ["Cannot handle unknown node `mystery`"] ∧
      toProgram {} scatteredDocument = .error .unsorted := by
  have hlists : ∀ property ∈ scatteredDocument.properties, isListStyle property = false :=
    fun _ hproperty => (List.not_mem_nil hproperty).elim
  exact ⟨by decide +kernel, toProgram_eq_unsorted hlists (by decide +kernel)⟩

end MarkupJsx
