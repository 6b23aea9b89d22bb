/-
  Eag.Source.PythonProvider

  The symbols and imports the Python provider takes from a parsed file.

  `Node` is the tree `ast.parse` builds, with the nodes the visitor does not look at
  folded into `other`.  The visitor pushes and pops its scopes in pairs, so a visit is a
  function of the scope it starts in.  What feeds the references only is left out.
-/

import Eag.Source.Models

namespace Eag.Source

open Eag.Foundation
open Eag.Foundation.PyText (ofString dotted Dotless Spaceless)

/-! ## The syntax tree -/

/-- A Python identifier. -/
structure Identifier where
  text : PyText
  nonempty : text ≠ []
  dotless : text.Dotless
  spaceless : text.Spaceless

/-- The name of a module in an import. -/
structure DottedName where
  segments : List Identifier
  nonempty : segments ≠ []

/-- The text of a module name. -/
def DottedName.text (name : DottedName) : PyText := dotted (name.segments.map Identifier.text)

/-- `lineno`, `col_offset`, `end_lineno` and `end_col_offset` of a node. -/
structure Span where
  line : Nat
  column : Nat
  endLine : Nat
  endColumn : Nat
  deriving DecidableEq, Repr

/-- `ast.arg`, its annotation apart. -/
structure Parameter where
  name : Identifier
  span : Span

/-- `ast.arguments`, the defaults and annotations apart. -/
structure Arguments where
  posonlyargs : List Parameter := []
  args : List Parameter := []
  kwonlyargs : List Parameter := []

/-- The context of a name. -/
inductive Context where
  | load
  | store
  | del
  deriving DecidableEq, Repr

/-- A node of the tree. -/
inductive Node where
  /-- `ClassDef`. -/
  | classDef (span : Span) (name : Identifier) (children : List Node)
  /-- `FunctionDef` and `AsyncFunctionDef`. -/
  | functionDef (span : Span) (name : Identifier) (arguments : Arguments) (children : List Node)
  | lambda (arguments : Arguments) (children : List Node)
  /-- `ListComp`, `SetComp`, `DictComp` and `GeneratorExp`: the first generator, the others
      (`comprehension` nodes) and the element, or the key and the value. -/
  | comp (firstTarget firstIter : Node) (firstIfs others elements : List Node)
  | comprehension (target iter : Node) (ifs : List Node)
  | exceptHandler (span : Span) (name : Option Identifier) (children : List Node)
  | matchAs (span : Span) (name : Option Identifier) (children : List Node)
  | name (span : Span) (id : Identifier) (ctx : Context)
  /-- `Tuple` and `List`. -/
  | sequence (elts : List Node)
  /-- `Import`: the name of every alias. -/
  | import_ (names : List DottedName)
  /-- `ImportFrom` with as many aliases; the module is missing in `from . import x` only. -/
  | importFrom (module_ : Option DottedName) (aliases : List Identifier)
  | other (children : List Node)

namespace Node

/-- `ast.iter_child_nodes`. -/
def children : Node → List Node
  | .classDef _ _ children => children
  | .functionDef _ _ _ children => children
  | .lambda _ children => children
  | .comp target iter ifs others elements =>
      elements ++ .comprehension target iter ifs :: others
  | .comprehension target iter ifs => target :: iter :: ifs
  | .exceptHandler _ _ children => children
  | .matchAs _ _ children => children
  | .name _ _ _ => []
  | .sequence elts => elts
  | .import_ _ => []
  | .importFrom _ _ => []
  | .other children => children

mutual

/-- How many levels the tree has. -/
def height : Node → Nat
  | .classDef _ _ children => heights children + 1
  | .functionDef _ _ _ children => heights children + 1
  | .lambda _ children => heights children + 1
  | .comp target iter ifs others elements =>
      max (max target.height iter.height) (max (heights ifs) (max (heights others) (heights elements)))
        + 2
  | .comprehension target iter ifs => max (max target.height iter.height) (heights ifs) + 1
  | .exceptHandler _ _ children => heights children + 1
  | .matchAs _ _ children => heights children + 1
  | .name _ _ _ => 1
  | .sequence elts => heights elts + 1
  | .import_ _ => 1
  | .importFrom _ _ => 1
  | .other children => heights children + 1

/-- How many levels the trees have. -/
def heights : List Node → Nat
  | [] => 0
  | node :: rest => max node.height (heights rest)

end

/-- The nodes level by level. -/
def walkLevels : Nat → List Node → List Node
  | 0, _ => []
  | levels + 1, nodes => nodes ++ walkLevels levels (nodes.flatMap children)

/-- `ast.walk`: a breadth-first walk visits level after level. -/
def walk (node : Node) : List Node := walkLevels node.height [node]

end Node

/-! ## Symbols -/

/-- `Location` of a symbol. -/
structure Location where
  line : Nat
  column : Nat := 0
  endLine : Nat := 0
  endColumn : Nat := 0
  deriving DecidableEq, Repr

/-- `EngineeringSymbol`, less what the analysis of a file does not keep. -/
structure EngineeringSymbol where
  name : PyText
  qualifiedName : PyText
  kind : SymbolKind
  visibility : Visibility := .public_
  location : Location
  parent : Option PyText := none
  deriving DecidableEq, Repr

namespace PythonSymbolVisitor

/-- What the visitor reads: the lines of the file, the scope, the open classes. -/
structure Scope where
  sourceLines : List PyText
  scope : List PyText := []
  classStack : List PyText := []

namespace Scope

/-- `self._scope.append(name)`. -/
def push (scope : Scope) (name : PyText) : Scope := { scope with scope := scope.scope ++ [name] }

/-- A class opens a scope and a class. -/
def pushClass (scope : Scope) (name : PyText) : Scope :=
  { scope.push name with classStack := scope.classStack ++ [name] }

/-- `".".join(self._scope) if self._scope else None`. -/
def parent (scope : Scope) : Option PyText :=
  if scope.scope = [] then none else some (dotted scope.scope)

/-- `_qname`. -/
def qname (scope : Scope) (name : PyText) : PyText :=
  if scope.scope = [] then name else dotted (scope.scope ++ [name])

end Scope

/-- `_get_visibility`. -/
def getVisibility (name : PyText) : Visibility :=
  let dunder := ofString "__"
  if name.startsWith dunder && dunder.reverse.isPrefixOf name.reverse then .public_
  else if name.startsWith dunder then .private_
  else if name.startsWith (ofString "_") then .protected_
  else .public_

/-- `_find_name_col`. -/
def findNameCol (lines : List PyText) (line startCol : Nat) (name : PyText) : Nat :=
  if line < 1 then startCol
  else
    match lines[line - 1]? with
    | none => startCol
    | some text => (text.findFrom name startCol).getD startCol

/-- `_make_loc` with the column of a name. -/
def makeLoc (lines : List PyText) (span : Span) (name : Option PyText) : Location where
  line := span.line
  column :=
    match name with
    | none => span.column
    | some name => findNameCol lines span.line span.column name
  endLine := span.endLine
  endColumn := span.endColumn

/-- The symbol of a class or a function. -/
def definitionSymbol (scope : Scope) (kind : SymbolKind) (span : Span) (name : Identifier) :
    EngineeringSymbol where
  name := name.text
  qualifiedName := scope.qname name.text
  kind := kind
  visibility := getVisibility name.text
  location := makeLoc scope.sourceLines span (some name.text)
  parent := scope.parent

/-- The symbol of a parameter or a bound name. -/
def variableSymbol (scope : Scope) (name : Identifier) (location : Location) :
    EngineeringSymbol where
  name := name.text
  qualifiedName := scope.qname name.text
  kind := .variable_
  location := location

/-- A parameter with its symbol. -/
def parameterSymbol (scope : Scope) (parameter : Parameter) : EngineeringSymbol :=
  variableSymbol scope parameter.name
    (makeLoc scope.sourceLines parameter.span (some parameter.name.text))

/-- `args + kwonlyargs + posonlyargs`. -/
def allArgs (arguments : Arguments) : List Parameter :=
  arguments.args ++ arguments.kwonlyargs ++ arguments.posonlyargs

/-- `arg.arg != "self" and arg.arg != "cls"`. -/
def isOwnParameter (parameter : Parameter) : Bool :=
  parameter.name.text ≠ ofString "self" && parameter.name.text ≠ ofString "cls"

/-- The symbol of the name an `except` or a `case` binds. -/
def caughtSymbol (scope : Scope) (span : Span) : Option Identifier → List EngineeringSymbol
  | none => []
  | some name =>
      [variableSymbol (scope.push (ofString "<local>")) name
        { line := span.line
          column := findNameCol scope.sourceLines span.line span.column name.text }]

mutual

/-- `_bind_target`. -/
def bindTarget (scope : Scope) : Node → List EngineeringSymbol
  | .name span id _ => [variableSymbol scope id (makeLoc scope.sourceLines span none)]
  | .sequence elts => bindTargets scope elts
  | _ => []

/-- `for elt in node.elts: self._bind_target(elt, scope)`. -/
def bindTargets (scope : Scope) : List Node → List EngineeringSymbol
  | [] => []
  | node :: rest => bindTarget scope node ++ bindTargets scope rest

end

mutual

/-- `visit`: the symbols of a node, in the order they are found. -/
def visit (scope : Scope) : Node → List EngineeringSymbol
  | .classDef span name children =>
      definitionSymbol scope .class_ span name :: visitAll (scope.pushClass name.text) children
  | .functionDef span name arguments children =>
      let kind := if scope.classStack = [] then .function else .method
      definitionSymbol scope kind span name ::
        ((allArgs arguments).filter isOwnParameter).map (parameterSymbol (scope.push name.text)) ++
          visitAll (scope.push name.text) children
  | .lambda arguments children =>
      let inner := scope.push (ofString "<lambda>")
      (allArgs arguments).map (parameterSymbol inner) ++ visitAll inner children
  | .comp target iter _ others elements =>
      -- the conditions of the first generator are not visited
      let inner := scope.push (ofString "<local>")
      visit inner iter ++ bindTarget inner target ++ visitAll inner others ++
        visitAll inner elements
  | .comprehension target iter ifs =>
      visit scope iter ++ bindTarget scope target ++ visitAll scope ifs
  | .exceptHandler span name children => caughtSymbol scope span name ++ visitAll scope children
  | .matchAs span name children => caughtSymbol scope span name ++ visitAll scope children
  | .name span id ctx =>
      match ctx with
      | .store => [variableSymbol scope id (makeLoc scope.sourceLines span none)]
      | _ => []
  | .sequence elts => visitAll scope elts
  | .import_ _ => []
  | .importFrom _ _ => []
  | .other children => visitAll scope children

/-- `generic_visit`: the children one after another. -/
def visitAll (scope : Scope) : List Node → List EngineeringSymbol
  | [] => []
  | node :: rest => visit scope node ++ visitAll scope rest

end

end PythonSymbolVisitor

/-! ## Documents -/

/-- The module names a node imports, one for every alias. -/
def importedModules : Node → List PyText
  | .import_ names => names.map DottedName.text
  | .importFrom (some module_) aliases => aliases.map fun _ => module_.text
  | _ => []

/-- `PythonSourceProvider.parse` of a file that parses: the symbols of the document. -/
def documentSymbols (content : PyText) (tree : Node) : List EngineeringSymbol :=
  PythonSymbolVisitor.visit { sourceLines := content.splitLines } tree

/-- The import models that name a module, as the analysis reads them. -/
def documentImports (tree : Node) : List PyText := tree.walk.flatMap importedModules

/-! ## Names -/

/-- A segment of a scope: an identifier, `<lambda>` or `<local>`. -/
structure Segment (t : PyText) : Prop where
  nonempty : t ≠ []
  dotless : t.Dotless
  spaceless : t.Spaceless

theorem Identifier.segment (name : Identifier) : Segment name.text :=
  ⟨name.nonempty, name.dotless, name.spaceless⟩

/-- What the name of a symbol says: the scope it stands in and its own name. -/
structure NamedIn (path : List PyText) (symbol : EngineeringSymbol) : Prop where
  segments : ∀ segment ∈ path, Segment segment
  name : Segment symbol.name
  qualifiedName : symbol.qualifiedName = dotted (path ++ [symbol.name])
  /-- A method stands in something, which is its parent. -/
  parent : symbol.kind = .method → path ≠ [] ∧ symbol.parent = some (dotted path)

namespace PythonSymbolVisitor

/-- A scope the visitor reaches: an open class is part of the scope. -/
structure Scope.Valid (scope : Scope) : Prop where
  segments : ∀ segment ∈ scope.scope, Segment segment
  classes : scope.classStack ≠ [] → scope.scope ≠ []

theorem Scope.Valid.push {scope : Scope} (h : scope.Valid) {name : PyText} (hname : Segment name) :
    (scope.push name).Valid := by
  refine ⟨fun segment hmem => ?_, fun _ => List.append_ne_nil_of_right_ne_nil _ (by simp)⟩
  rcases List.mem_append.mp hmem with hmem | hmem
  · exact h.segments segment hmem
  · rw [List.mem_singleton.mp hmem]
    exact hname

theorem Scope.Valid.pushClass {scope : Scope} (h : scope.Valid) {name : PyText}
    (hname : Segment name) : (scope.pushClass name).Valid :=
  ⟨(h.push hname).segments, fun _ => List.append_ne_nil_of_right_ne_nil _ (by simp)⟩

theorem segment_local : Segment (ofString "<local>") := ⟨by decide, by decide, by decide⟩

theorem segment_lambda : Segment (ofString "<lambda>") := ⟨by decide, by decide, by decide⟩

theorem Scope.qname_eq (scope : Scope) (name : PyText) :
    scope.qname name = dotted (scope.scope ++ [name]) := by
  unfold Scope.qname
  split
  · rename_i h
    rw [h]
    rfl
  · rfl

/-- Every symbol found says where it stands. -/
def AllNamed (symbols : List EngineeringSymbol) : Prop :=
  ∀ symbol ∈ symbols, ∃ path, NamedIn path symbol

theorem AllNamed.append {first second : List EngineeringSymbol} (hfirst : AllNamed first)
    (hsecond : AllNamed second) : AllNamed (first ++ second) := by
  intro symbol hmem
  rcases List.mem_append.mp hmem with h | h
  · exact hfirst symbol h
  · exact hsecond symbol h

theorem allNamed_nil : AllNamed [] := fun _ h => nomatch h

section

variable {scope : Scope} (h : scope.Valid)

include h

theorem variableSymbol_named (name : Identifier) (location : Location) :
    NamedIn scope.scope (variableSymbol scope name location) :=
  ⟨h.segments, name.segment, scope.qname_eq name.text, fun hkind => nomatch hkind⟩

theorem definitionSymbol_named {kind : SymbolKind} (hkind : kind = .method → scope.scope ≠ [])
    (span : Span) (name : Identifier) :
    NamedIn scope.scope (definitionSymbol scope kind span name) :=
  ⟨h.segments, name.segment, scope.qname_eq name.text,
    fun heq => ⟨hkind heq, if_neg (hkind heq)⟩⟩

theorem allNamed_variable (name : Identifier) (location : Location) :
    AllNamed [variableSymbol scope name location] := by
  intro symbol hmem
  rw [List.mem_singleton.mp hmem]
  exact ⟨scope.scope, variableSymbol_named h name location⟩

theorem allNamed_parameters (parameters : List Parameter) :
    AllNamed (parameters.map (parameterSymbol scope)) := by
  intro symbol hmem
  obtain ⟨parameter, -, rfl⟩ := List.mem_map.mp hmem
  exact ⟨scope.scope, variableSymbol_named h _ _⟩

theorem allNamed_caught (span : Span) (name : Option Identifier) :
    AllNamed (caughtSymbol scope span name) := by
  cases name with
  | none => exact allNamed_nil
  | some name => exact allNamed_variable (h.push segment_local) name _

end

mutual

theorem bindTarget_named {scope : Scope} (h : scope.Valid) (node : Node) :
    AllNamed (bindTarget scope node) := by
  cases node with
  | name span id ctx => exact allNamed_variable h id _
  | sequence elts => exact bindTargets_named h elts
  | _ => exact allNamed_nil

theorem bindTargets_named {scope : Scope} (h : scope.Valid) (nodes : List Node) :
    AllNamed (bindTargets scope nodes) := by
  cases nodes with
  | nil => exact allNamed_nil
  | cons node rest => exact (bindTarget_named h node).append (bindTargets_named h rest)

end

mutual

/-- **What a visit finds is named by where it stands.**  One case for each node. -/
theorem visit_named {scope : Scope} (h : scope.Valid) (node : Node) :
    AllNamed (visit scope node) := by
  cases node with
  | classDef span name children =>
      refine @AllNamed.append [_] _ ?_ (visitAll_named (h.pushClass name.segment) children)
      intro symbol hmem
      rw [List.mem_singleton.mp hmem]
      exact ⟨scope.scope, @definitionSymbol_named _ h .class_ SymbolKind.noConfusion span name⟩
  | functionDef span name arguments children =>
      have hinner := h.push name.segment
      refine AllNamed.append (@AllNamed.append [_] _ ?_ (allNamed_parameters hinner _))
        (visitAll_named hinner children)
      intro symbol hmem
      rw [List.mem_singleton.mp hmem]
      refine ⟨scope.scope, definitionSymbol_named h (fun hkind => h.classes ?_) span name⟩
      intro hnone
      rw [if_pos hnone] at hkind
      exact nomatch hkind
  | lambda arguments children =>
      have hinner := h.push segment_lambda
      exact (allNamed_parameters hinner _).append (visitAll_named hinner children)
  | comp target iter ifs others elements =>
      have hinner := h.push segment_local
      exact (((visit_named hinner iter).append (bindTarget_named hinner target)).append
        (visitAll_named hinner others)).append (visitAll_named hinner elements)
  | comprehension target iter ifs =>
      exact ((visit_named h iter).append (bindTarget_named h target)).append
        (visitAll_named h ifs)
  | exceptHandler span name children =>
      exact (allNamed_caught h span name).append (visitAll_named h children)
  | matchAs span name children =>
      exact (allNamed_caught h span name).append (visitAll_named h children)
  | name span id ctx =>
      cases ctx with
      | store => exact allNamed_variable h id _
      | load => exact allNamed_nil
      | del => exact allNamed_nil
  | sequence elts => exact visitAll_named h elts
  | import_ names => exact allNamed_nil
  | importFrom module_ aliases => exact allNamed_nil
  | other children => exact visitAll_named h children

theorem visitAll_named {scope : Scope} (h : scope.Valid) (nodes : List Node) :
    AllNamed (visitAll scope nodes) := by
  cases nodes with
  | nil => exact allNamed_nil
  | cons node rest => exact (visit_named h node).append (visitAll_named h rest)

end

end PythonSymbolVisitor

/-- Every symbol of a document is named by where it stands in the file. -/
theorem documentSymbols_named (content : PyText) (tree : Node) :
    ∀ symbol ∈ documentSymbols content tree, ∃ path, NamedIn path symbol :=
  PythonSymbolVisitor.visit_named ⟨List.forall_mem_nil _, fun h => absurd rfl h⟩ tree

/-- Every imported module has a dotted name. -/
theorem documentImports_named (tree : Node) :
    ∀ target ∈ documentImports tree, ∃ name : DottedName, target = name.text := by
  intro target hmem
  obtain ⟨node, -, hnode⟩ := List.mem_flatMap.mp hmem
  cases node with
  | import_ names =>
      obtain ⟨name, -, rfl⟩ := List.mem_map.mp hnode
      exact ⟨name, rfl⟩
  | importFrom module_ aliases =>
      cases module_ with
      | none => exact nomatch hnode
      | some module_ =>
          obtain ⟨_, -, rfl⟩ := List.mem_map.mp hnode
          exact ⟨module_, rfl⟩
  | _ => exact nomatch hnode

end Eag.Source
