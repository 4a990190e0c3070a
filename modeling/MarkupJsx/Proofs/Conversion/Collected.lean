import MarkupJsx.Conversion.Program
import MarkupJsx.Proofs.Script.Frame
import MarkupJsx.Script.InsertionSort

/-!
# Which comments and statements a program lists

The two logs of a conversion are read off the tree.  A node has its comments behind those of the
nodes inside it: `Node.comments` lists those that stand for comments of the markup, and those of
every script that is taken (`Node.scripts`).  `Node.modules` lists the scripts of the blocks of
imports and exports, whose statements are hoisted.  Neither list depends on the namespace, on the
fashions or on the limit, and neither asks which nodes appear in the output: the attributes of a
fragment are dropped, but their comments are listed, and an expression that is missing in a script
takes no comment with it.

That a step that succeeds adds given comments and the statements of given modules to the logs is
`Logs`.  Steps that are put one after the other add up (`Logs.bind`), so that a single case for each
rule remains (`logs_convertByKind`), and the logs of a whole conversion follow by induction on the
levels.

The main statement is `toProgram_collects`: **a program lists the comments of the tree, each once
and in order, and starts with the statements of its modules.**
-/

namespace MarkupJsx
open Jsx (Child Statement Program)

/-! ## The comments and the modules of a tree -/

/-- The comments of the script attached to something. -/
def Source.scriptComments (source : Source) : List Comment :=
  (source.script.map Script.comments).getD []

/-- The script that an attribute of a component carries: an object to take attributes from, or the
value of a named one. -/
def ComponentAttribute.script? : ComponentAttribute → Option Script
  | .spread source => source.script
  | .named _ _ (some (.expression inner)) => inner.script
  | .named _ _ (some (.literal _)) => none
  | .named _ _ none => none

/-- The comments of the script that an attribute of a component carries. -/
def ComponentAttribute.comments : ComponentAttribute → List Comment
  | .spread source => source.scriptComments
  | .named _ _ (some (.expression inner)) => inner.scriptComments
  | .named _ _ (some (.literal _)) => []
  | .named _ _ none => []

namespace Node

mutual

/-- The comments of a node and of everything inside it.  Those of the attributes of a component
come last. -/
def comments : Node → List Comment
  | .root _ children => allComments children
  | .element _ _ _ children => allComments children
  | .text _ _ => []
  | .comment source value =>
    [{ kind := .block, text := value, leading := none, trailing := none, origin := source.origin }]
  | .doctype _ => []
  | .esm source => source.scriptComments
  | .expression _ source => source.scriptComments
  | .component _ _ _ attributes children =>
    allComments children ++ attributes.flatMap ComponentAttribute.comments
  | .unknown _ _ _ => []
  | .malformed _ => []
termination_by structural node => node

/-- The comments of nodes one after the other. -/
def allComments : List Node → List Comment
  | [] => []
  | node :: rest => node.comments ++ allComments rest
termination_by structural nodes => nodes

end

mutual

/-- The scripts of the blocks of imports and exports in a node. -/
def modules : Node → List Script
  | .root _ children => allModules children
  | .element _ _ _ children => allModules children
  | .text _ _ => []
  | .comment _ _ => []
  | .doctype _ => []
  | .esm source => source.script.toList
  | .expression _ _ => []
  | .component _ _ _ _ children => allModules children
  | .unknown _ _ _ => []
  | .malformed _ => []
termination_by structural node => node

/-- The scripts of the blocks of imports and exports in nodes one after the other. -/
def allModules : List Node → List Script
  | [] => []
  | node :: rest => node.modules ++ allModules rest
termination_by structural nodes => nodes

end

mutual

/-- The scripts that are taken in a node, in the order in which they are. -/
def scripts : Node → List Script
  | .root _ children => allScripts children
  | .element _ _ _ children => allScripts children
  | .text _ _ => []
  | .comment _ _ => []
  | .doctype _ => []
  | .esm source => source.script.toList
  | .expression _ source => source.script.toList
  | .component _ _ _ attributes children =>
    allScripts children ++ attributes.filterMap ComponentAttribute.script?
  | .unknown _ _ _ => []
  | .malformed _ => []
termination_by structural node => node

/-- The scripts that are taken in nodes one after the other. -/
def allScripts : List Node → List Script
  | [] => []
  | node :: rest => node.scripts ++ allScripts rest
termination_by structural nodes => nodes

end

/-- A text that is left out has nothing to list. -/
theorem lists_nothing_of_isLineBreak {node : Node} (h : node.isLineBreak) :
    node.comments = [] ∧ node.modules = [] := by
  cases node with
  | text source value => exact ⟨rfl, rfl⟩
  | root => exact nomatch h
  | element => exact nomatch h
  | comment => exact nomatch h
  | doctype => exact nomatch h
  | esm => exact nomatch h
  | expression => exact nomatch h
  | component => exact nomatch h
  | unknown => exact nomatch h
  | malformed => exact nomatch h

end Node

/-! ## What steps add to the logs -/

namespace Conversion

/-- The statements of scripts, as they are hoisted. -/
def hoistedFrom (attached : List Script) : List Statement :=
  (attached.flatMap Script.body).map .foreign

theorem hoistedFrom_append (attached others : List Script) :
    hoistedFrom (attached ++ others) = hoistedFrom attached ++ hoistedFrom others := by
  rw [hoistedFrom, List.flatMap_append, List.map_append]
  rfl

variable [Sorter] {α β : Type}

/-- Scripts and the same scripts with their comments placed. -/
abbrev Attached : List Script → List Script → Prop :=
  List.Forall₂ fun script attached => script.attach = some attached

/-- If a step succeeds, then these are the comments that it logs, and the modules whose statements
it logs, with their comments placed. -/
def Logs (step : Conversion α) (comments : List Comment) (modules : List Script) : Prop :=
  ∀ state value after, step.run state = (.ok value, after) →
    after.comments = state.comments ++ comments ∧
      ∃ attached, Attached modules attached ∧
        after.statements = state.statements ++ hoistedFrom attached

namespace Logs

variable {step : Conversion α} {comments more : List Comment} {modules others : List Script}

/-- A step that leaves the state as it is logs nothing. -/
theorem of_unchanged (h : ∀ state, (step.run state).2 = state) : Logs step [] [] := by
  intro state value after hrun
  have hafter : after = state := by rw [← h state, hrun]
  rw [hafter, List.append_nil]
  exact ⟨rfl, [], .nil, (List.append_nil _).symm⟩

theorem pure (value : α) : Logs (pure value) [] [] :=
  of_unchanged fun _ => rfl

/-- Nothing is asked of a step that fails. -/
theorem fail (error : ConversionError) : Logs (fail error : Conversion α) comments modules := by
  intro state value after hrun
  exact nomatch (Prod.mk.inj hrun).1

theorem logComments (comments : List Comment) : Logs (logComments comments) comments [] := by
  intro state value after hrun
  obtain ⟨-, rfl⟩ := Prod.mk.inj hrun
  exact ⟨rfl, [], .nil, (List.append_nil _).symm⟩

/-- **One after the other:** the logs of the first step, and behind them those of the second. -/
theorem bind {next : α → Conversion β} (h : Logs step comments modules)
    (hnext : ∀ value, Logs (next value) more others) :
    Logs (step >>= next) (comments ++ more) (modules ++ others) := by
  intro state result last hrun
  rw [run_bind] at hrun
  rcases hfirst : step.run state with ⟨outcome, after⟩
  rw [hfirst] at hrun
  cases outcome with
  | error error => exact nomatch (Prod.mk.inj hrun).1
  | ok value =>
    obtain ⟨hcomments, attached, hattached, hstatements⟩ := h state value after hfirst
    obtain ⟨hmore, behind, hbehind, hothers⟩ := hnext value after result last hrun
    refine ⟨?_, attached ++ behind, List.rel_append hattached hbehind, ?_⟩
    · rw [hmore, hcomments, List.append_assoc]
    · rw [hothers, hstatements, hoistedFrom_append, List.append_assoc]

/-- What is done with the value of a step changes nothing in the logs. -/
theorem bind_pure {f : α → β} (h : Logs step comments modules) :
    Logs (step >>= fun value => Pure.pure (f value)) comments modules := by
  have hboth := h.bind fun value => Logs.pure (f value)
  rwa [List.append_nil, List.append_nil] at hboth

/-- A step that leaves the state as it is changes nothing in the logs of what follows it. -/
theorem bind_of_unchanged {next : α → Conversion β} (h : ∀ state, (step.run state).2 = state)
    (hnext : ∀ value, Logs (next value) comments modules) :
    Logs (step >>= next) comments modules :=
  (of_unchanged h).bind hnext

theorem within (space : Namespace) (h : Logs step comments modules) :
    Logs (within space step) comments modules := by
  intro state value after hrun
  obtain ⟨hvalue, rfl⟩ := Prod.mk.inj hrun
  exact h { state with space } value (step.run { state with space }).2 (Prod.ext hvalue rfl)

theorem deeper (h : Logs step comments modules) : Logs (deeper step) comments modules := by
  intro state value after hrun
  obtain ⟨hvalue, rfl⟩ := Prod.mk.inj hrun
  exact h { state with depth := state.depth + 1 } value
    (step.run { state with depth := state.depth + 1 }).2 (Prod.ext hvalue rfl)

end Logs

end Conversion

/-! ## Scripts and the attributes of components -/

/-- Whether the script attached to something, if there is one, can have its comments placed. -/
def Source.settled [Sorter] (source : Source) : Bool :=
  source.script.all Script.settled

/-- Whether the script that an attribute of a component carries, if there is one, can have its
comments placed. -/
def ComponentAttribute.settled [Sorter] (item : ComponentAttribute) : Bool :=
  item.script?.all Script.settled

/-- Placing the comments of the script attached to something, if they can be placed. -/
theorem Source.attached_toList [Sorter] (source : Source) (h : source.settled = true) :
    Conversion.Attached source.script.toList (source.script.map Script.annotated).toList := by
  rw [settled] at h
  cases hscript : source.script with
  | none => exact .nil
  | some script =>
    rw [hscript, Option.all_some] at h
    exact .cons (Script.attach_of_settled h) .nil

namespace Conversion

variable [Sorter] {α β : Type}

/-- A script that is taken has its comments logged, in the order in which it lists them; then the
comments are placed, if they can be. -/
theorem run_takeScript (source : Source) (state : State) :
    (takeScript source).run state =
      (if source.settled then .ok (source.script.map Script.annotatedBody) else .error .unsorted,
        { state with comments := state.comments ++ source.scriptComments }) := by
  rw [takeScript, Source.scriptComments, Source.settled]
  cases source.script with
  | none => exact Prod.ext rfl (congrArg (fun comments => { state with comments })
      (List.append_nil _).symm)
  | some script =>
    show (logComments script.comments >>= _).run state = _
    rw [Script.attach, Option.all_some]
    cases script.settled <;> rfl

theorem logs_takeScript (source : Source) : Logs (takeScript source) source.scriptComments [] := by
  intro state body after hrun
  rw [run_takeScript] at hrun
  obtain ⟨-, rfl⟩ := Prod.mk.inj hrun
  exact ⟨rfl, [], .nil, (List.append_nil _).symm⟩

theorem logs_convertAttribute (item : ComponentAttribute) :
    Logs (convertAttribute item) item.comments [] := by
  match item with
  | .spread source => exact (logs_takeScript source).bind_pure.bind_pure
  | .named _ _ none => exact Logs.pure _
  | .named _ _ (some (.literal _)) => exact Logs.pure _
  | .named _ _ (some (.expression inner)) => exact (logs_takeScript inner).bind_pure.bind_pure

theorem logs_convertAttributes (attributes : List ComponentAttribute) :
    Logs (convertAttributes attributes) (attributes.flatMap ComponentAttribute.comments) [] := by
  induction attributes with
  | nil => exact Logs.pure []
  | cons first rest ih =>
    rw [List.flatMap_cons]
    exact (logs_convertAttribute first).bind fun _ => ih.bind_pure

/-! ## Nodes -/

section Rules

variable {convert : Node → Conversion Converted}
  (h : ∀ node, Logs (convert node) node.comments node.modules)
include h

theorem logs_convertNodes (skipBreaks : Bool) (nodes : List Node) :
    Logs (convertNodes convert skipBreaks nodes) (Node.allComments nodes)
      (Node.allModules nodes) := by
  induction nodes with
  | nil => exact Logs.pure []
  | cons node rest ih =>
    rw [convertNodes, Node.allComments, Node.allModules]
    split
    · rename_i hskip
      have hbreak : node.isLineBreak = true := (Bool.and_eq_true_iff.1 hskip).2
      obtain ⟨hcomments, hmodules⟩ := Node.lists_nothing_of_isLineBreak hbreak
      rw [hcomments, hmodules]
      exact ih
    · exact (h node).bind fun _ => ih.bind_pure

theorem logs_convertChildren (parent : Node) :
    Logs (convertChildren convert parent) (Node.allComments parent.children)
      (Node.allModules parent.children) :=
  Logs.bind_of_unchanged (fun _ => rfl) fun _ => logs_convertNodes h _ parent.children

/-- The properties of an element have nothing to log. -/
theorem logs_convertElement (source : Source) (tagName : String)
    (properties : Entries PropertyValue) (children : List Node) :
    Logs (convertElement convert source tagName properties children)
      (Node.allComments children) (Node.allModules children) := by
  refine Logs.bind_of_unchanged (fun _ => rfl) fun outside => Logs.within _ ?_
  have hinside := logs_convertChildren h (.element source tagName properties children)
  have hattributes : ∀ inside : List Child, Logs (α := Converted) (do
      let space ← space
      let spelling ← spelling
      let attributes ← ofExcept (attributesOf space spelling tagName properties)
      Pure.pure (.one (.markup (.elementOf (.ofString tagName) attributes inside source.origin))))
        [] [] := by
    intro inside
    refine Logs.bind_of_unchanged (fun _ => rfl) fun space => ?_
    refine Logs.bind_of_unchanged (fun _ => rfl) fun spelling => ?_
    exact (Logs.of_unchanged fun _ => rfl).bind_pure
  have hboth := hinside.bind hattributes
  rwa [List.append_nil, List.append_nil] at hboth

/-- The attributes of a component are logged behind its children, also if it has no name. -/
theorem logs_convertComponent (placement : Placement) (source : Source) (name : Option String)
    (attributes : List ComponentAttribute) (children : List Node) :
    Logs (convertComponent convert placement source name attributes children)
      (Node.allComments children ++ attributes.flatMap ComponentAttribute.comments)
      (Node.allModules children) := by
  refine Logs.bind_of_unchanged (fun _ => rfl) fun outside => Logs.within _ ?_
  have hinside := logs_convertChildren h (.component placement source name attributes children)
  have hboth := hinside.bind fun inside => (logs_convertAttributes attributes).bind_pure
    (f := fun attributes =>
      Converted.one (.markup (componentMarkup name attributes inside source.origin)))
  rwa [List.append_nil] at hboth

/-- **What is listed for a node is what its rule logs,** if it is so for the nodes inside. -/
theorem logs_convertByKind (node : Node) :
    Logs (convertByKind convert node) node.comments node.modules := by
  cases node with
  | root source children => exact (logs_convertChildren h (.root source children)).bind_pure
  | element source tagName properties children =>
    exact logs_convertElement h source tagName properties children
  | text source value => exact Logs.pure _
  | comment source value => exact (Logs.logComments [commentOf source value]).bind_pure
  | doctype source => exact Logs.pure _
  | esm source =>
    intro state value after hrun
    rw [convertByKind, run_bind, run_takeScript] at hrun
    by_cases hsettled : source.settled = true
    · rw [if_pos hsettled] at hrun
      obtain ⟨-, rfl⟩ := Prod.mk.inj hrun
      refine ⟨rfl, _, source.attached_toList hsettled, congrArg (state.statements ++ ·) ?_⟩
      cases source.script with
      | none => rfl
      | some script => exact congrArg (List.map _) (List.flatMap_singleton _ _).symm
    · rw [if_neg hsettled] at hrun
      exact nomatch (Prod.mk.inj hrun).1
  | expression placement source => exact (logs_takeScript source).bind_pure.bind_pure
  | component placement source name attributes children =>
    exact logs_convertComponent h placement source name attributes children
  | unknown source kind fields => exact Logs.fail _
  | malformed value => exact Logs.fail _

end Rules

/-- What is listed for a node is what its conversion logs, however many levels it has. -/
theorem logs_convert (limit levels : Nat) (node : Node) :
    Logs (convert (fun _ => none) limit levels node) node.comments node.modules := by
  induction levels generalizing node with
  | zero => exact Logs.fail _
  | succ levels ih =>
    rw [convert_succ]
    refine Logs.bind_of_unchanged (fun _ => rfl) fun depth => ?_
    split
    · rw [convertWith_none]
      exact (logs_convertByKind ih node).deeper
    · exact Logs.fail _

end Conversion

/-! ## The whole program -/

theorem Conversion.Attached.eq_map [Sorter] {modules attached : List Script}
    (h : Attached modules attached) : attached = modules.map Script.annotated := by
  induction h with
  | nil => rfl
  | cons hattach _ ih => rw [List.map_cons, ← ih, (Script.attach_eq_some_iff.1 hattach).2]

/-- Placed statements are those of the modules, up to the comments that are placed on them. -/
theorem Conversion.Attached.map_bare [Sorter] {modules attached : List Script}
    (h : Attached modules attached) :
    (attached.flatMap Script.body).map (Script.bare true) =
      modules.flatMap fun script => script.body.map (Script.bare true) := by
  rw [h.eq_map, List.flatMap_map, List.map_flatMap]
  exact List.flatMap_congr fun script _ => Script.bare_annotated script

/-- The statements that are hoisted without overrides are those of scripts. -/
theorem Conversion.exists_statements_of_run_convert [Sorter] {limit levels : Nat} {node : Node}
    {start after : State} {converted : Converted} (hstart : start.statements = [])
    (hrun : (convert (fun _ => none) limit levels node).run start = (.ok converted, after)) :
    ∃ statements : List Json, after.statements = statements.map .foreign := by
  obtain ⟨-, attached, -, hstatements⟩ := logs_convert limit levels node start converted after hrun
  rw [hstart, List.nil_append] at hstatements
  exact ⟨_, hstatements⟩

/-- What a tree became takes up one statement, or none. -/
theorem treeStatement_eq (origin : Origin) (converted : Converted) :
    treeStatement origin converted = [] ∨
      ∃ expression, treeStatement origin converted = [.expression expression origin] := by
  cases converted with
  | nothing => exact Or.inl rfl
  | one child => exact Or.inr ⟨_, rfl⟩
  | many children => exact Or.inr ⟨_, rfl⟩

/-- **A program lists what the tree holds.**  Whenever a tree is converted, in any namespace, in any
fashions and with any limit, and without overrides, the program lists the comments of the tree, each
once and in order.  It starts with the statements of the modules of the tree, in order and with
their comments placed, which changes nothing but the comments of their nodes; behind them is at most
one statement, that of the converted tree. -/
theorem toProgram_collects [Sorter] (space : Namespace) (spelling : Spelling) (maxDepth : Nat)
    (tree : Node) (program : Program)
    (h : toProgram { space, spelling, maxDepth } tree = .ok program) :
    program.comments = tree.comments ∧
      ∃ (attached : List Script) (hoisted : List Json) (last : List Statement),
        program.body = hoisted.map Statement.foreign ++ last ∧
        hoisted = attached.flatMap Script.body ∧
        List.Forall₂ (fun script attached => script.attach = some attached) tree.modules attached ∧
        (hoisted.map (Script.bare true) =
          tree.modules.flatMap fun script => script.body.map (Script.bare true)) ∧
        (last = [] ∨ ∃ expression origin, last = [.expression expression origin]) := by
  obtain ⟨converted, after, hrun, hprogram⟩ := exists_of_toProgram_eq_ok h
  obtain ⟨hcomments, attached, hattached, hstatements⟩ :=
    Conversion.logs_convert maxDepth maxDepth tree { space, spelling } converted after hrun
  have hcomments : after.comments = tree.comments := hcomments
  have hstatements : after.statements = Conversion.hoistedFrom attached := hstatements
  rw [hprogram, programOf, hcomments, hstatements]
  refine ⟨rfl, attached, _, _, rfl, rfl, hattached, hattached.map_bare, ?_⟩
  rcases treeStatement_eq tree.source.spanOrigin converted with hnone | ⟨expression, hone⟩
  · exact Or.inl hnone
  · exact Or.inr ⟨expression, _, hone⟩

/-- Something that carries a script of one statement with one comment in front of it. -/
def Source.ofStatement (type text : String) : Source where
  data := some {
    script := some {
      body := [.object [("type", .string type), ("start", .ofNat 5)]]
      comments := [{ kind := .line, text, origin := { span := { start := some 0 } } }] } }

/-- A document with comments in a table, inside `svg`, in two modules, and in the attributes of a
fragment, which come after what is inside the fragment. -/
def commentedDocument : Node :=
  .root {} [.esm (.ofStatement "ImportDeclaration" "first"),
    .element {} "table" [] [.text {} (some "\n"), .comment {} "in a table"],
    .component .flow {} none
      [.spread (.ofStatement "ExpressionStatement" "in a spread"),
        .named {} "a" (some (.expression (.ofStatement "ExpressionStatement" "in a value")))]
      [.element {} "svg" [] [.comment {} "in svg", .esm (.ofStatement "ExportDeclaration" "last")],
        .expression .text (.ofStatement "ExpressionStatement" "in braces")]]

open scoped Sorting.Insertion in
theorem toProgram_collects_commentedDocument :
    ∃ program, toProgram {} commentedDocument = .ok program ∧
      program.comments.map Comment.text = ["first", "in a table", "in svg", "last", "in braces",
        "in a spread", "in a value"] ∧
      ∃ (hoisted : List Json) (last : List Statement),
        program.body = hoisted.map Statement.foreign ++ last ∧
        hoisted.map Json.kind? = [some "ImportDeclaration", some "ExportDeclaration"] ∧
        (hoisted.map fun value => (value.field? "comments").isSome) = [true, true] := by
  have succeeds : (toProgram {} commentedDocument).toOption.isSome = true := by decide +kernel
  rcases h : toProgram {} commentedDocument with error | program
  · rw [h] at succeeds
    exact nomatch succeeds
  · obtain ⟨hcomments, attached, hoisted, last, hbody, hhoisted, hattached, -, -⟩ :=
      toProgram_collects .html {} 512 commentedDocument program h
    rw [Conversion.Attached.eq_map hattached] at hhoisted
    refine ⟨program, rfl, ?_, hoisted, last, hbody, ?_, ?_⟩
    · rw [hcomments]
      decide +kernel
    · rw [hhoisted]
      decide +kernel
    · rw [hhoisted]
      decide +kernel

end MarkupJsx
