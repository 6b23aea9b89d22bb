/-
  Eag.Source.References

  The references the Python provider takes from a parsed file (`source/python/provider.py`).

  `Tree` is the tree `ast.parse` builds, with all that the visitor looks at to find a reference
  and its target; the symbols it also collects are those of `PythonSymbolVisitor`. What the
  visitor walks through is compared with what the tree holds: the names in load context that it
  records and those in the parts that it passes over make up all of them
  (`loadNames_perm`).
-/

import Eag.Foundation.Dict
import Eag.Source.PythonProvider

namespace Eag.Source.References

open Eag.Foundation
open Eag.Foundation.PyText (ofString dotted)
open Eag.Source.PythonSymbolVisitor (allArgs isOwnParameter)

/-! ## The syntax tree -/

/-- `ast.arguments` with the names of `*args` and `**kwargs`. -/
structure Signature extends Arguments where
  vararg : Option Identifier := none
  kwarg : Option Identifier := none

/-- An alias of an import: its name and what it is imported as. -/
structure Alias where
  name : PyText
  asname : Option PyText := none

/-- A node of the tree. The children that are given as a list stand in the order of the
    fields of the node. -/
inductive Tree where
  /-- `ClassDef`: the bases, then the other children. -/
  | classDef (name : Identifier) (bases rest : List Tree)
  /-- `FunctionDef` and `AsyncFunctionDef`. -/
  | functionDef (name : Identifier) (signature : Signature) (children : List Tree)
  | lambda (signature : Signature) (children : List Tree)
  /-- `ListComp`, `SetComp`, `DictComp` and `GeneratorExp`: the first generator, the others
      (`generator` nodes) and the element, or the key and the value. -/
  | comp (firstTarget firstIter : Tree) (firstIfs others elements : List Tree)
  /-- `comprehension`. -/
  | generator (target iter : Tree) (ifs : List Tree)
  | exceptHandler (name : Option Identifier) (children : List Tree)
  | matchAs (name : Option Identifier) (children : List Tree)
  | name (span : Span) (id : Identifier) (ctx : Context)
  | attribute_ (span : Span) (value : Tree) (attr : Identifier) (ctx : Context)
  /-- `Call`: the function, then the arguments and the keywords. -/
  | call (func : Tree) (arguments : List Tree)
  | assign (targets : List Tree) (value : Tree)
  /-- `AnnAssign`: the value may be missing. -/
  | annAssign (target annotation_ : Tree) (value : List Tree)
  /-- `Tuple` and `List`. -/
  | sequence (elts : List Tree)
  | import_ (names : List Alias)
  | importFrom (module_ : Option PyText) (names : List Alias)
  | other (children : List Tree)

mutual

/-- The places of the names in load context. -/
def loadNames : Tree → List Span
  | .classDef _ bases rest => loadNamesAll bases ++ loadNamesAll rest
  | .functionDef _ _ children => loadNamesAll children
  | .lambda _ children => loadNamesAll children
  | .comp target iter ifs others elements =>
      loadNamesAll elements ++ loadNames target ++ loadNames iter ++ loadNamesAll ifs ++
        loadNamesAll others
  | .generator target iter ifs => loadNames target ++ loadNames iter ++ loadNamesAll ifs
  | .exceptHandler _ children => loadNamesAll children
  | .matchAs _ children => loadNamesAll children
  | .name span _ ctx => if ctx = .load then [span] else []
  | .attribute_ _ value _ _ => loadNames value
  | .call func arguments => loadNames func ++ loadNamesAll arguments
  | .assign targets value => loadNamesAll targets ++ loadNames value
  | .annAssign target annotation_ value =>
      loadNames target ++ loadNames annotation_ ++ loadNamesAll value
  | .sequence elts => loadNamesAll elts
  | .import_ _ => []
  | .importFrom _ _ => []
  | .other children => loadNamesAll children

/-- The places of the names in load context, tree by tree. -/
def loadNamesAll : List Tree → List Span
  | [] => []
  | node :: rest => loadNames node ++ loadNamesAll rest

end

/-! ## References -/

/-- `SymbolReference`; an attribute that is longer than the bytes before its end would start
    before its line. -/
structure SymbolReference where
  source : PyText
  target : PyText
  line : Nat
  column : Int
  endLine : Nat
  endColumn : Nat
  deriving DecidableEq, Repr

/-- The visit method that appended a reference. -/
inductive Origin where
  | name
  | attribute
  deriving DecidableEq, Repr

/-- What the visitor keeps while it looks for references; the innermost scope and the innermost
    class come first. -/
structure Visitor where
  references : List (Origin × SymbolReference) := []
  scope : List PyText := []
  scopes : List (Dict PyText PyText) := [.empty]
  importMap : Dict PyText PyText := .empty
  inferredTypes : Dict PyText PyText := .empty
  classBases : List (List PyText) := []

namespace Visitor

/-- `_qname`. -/
def qname (v : Visitor) (name : PyText) : PyText :=
  if v.scope = [] then name else dotted (v.scope ++ [name])

/-- `_resolve_name`; a name that resolves to the empty text counts as unresolved. -/
def resolveName (v : Visitor) (name : PyText) : Option PyText :=
  ((v.scopes ++ [v.importMap]).findSome? (·.get? name)).filter (· ≠ [])

/-- `self._scopes[-1]` changed. -/
def inScope (v : Visitor) (change : Dict PyText PyText → Dict PyText PyText) : Visitor :=
  { v with scopes :=
      match v.scopes with
      | [] => []
      | innermost :: outer => change innermost :: outer }

/-- `self._scopes[-1][name] = qname`. -/
def bind (v : Visitor) (name qname : PyText) : Visitor := v.inScope (·.set name qname)

/-- `self._scope.append(name)`. -/
def enter (v : Visitor) (name : PyText) : Visitor := { v with scope := v.scope ++ [name] }

/-- `self._scope.pop()`. -/
def leave (v : Visitor) : Visitor := { v with scope := v.scope.dropLast }

/-- `self._scopes.append(names)`. -/
def openScope (v : Visitor) (names : Dict PyText PyText) : Visitor :=
  { v with scopes := names :: v.scopes }

/-- `self._scopes.pop()`. -/
def closeScope (v : Visitor) : Visitor := { v with scopes := v.scopes.tail }

/-- `self._class_bases.append(bases)`. -/
def openClass (v : Visitor) (bases : List PyText) : Visitor :=
  { v with classBases := bases :: v.classBases }

/-- `self._class_bases.pop()`. -/
def closeClass (v : Visitor) : Visitor := { v with classBases := v.classBases.tail }

/-- `self._inferred_types[qname] = inferred`. -/
def inferred (v : Visitor) (qname type : PyText) : Visitor :=
  { v with inferredTypes := v.inferredTypes.set qname type }

/-- `self._import_map[name] = target`. -/
def imported (v : Visitor) (name target : PyText) : Visitor :=
  { v with importMap := v.importMap.set name target }

/-- `self.references.append(…)`, from the current scope. -/
def refer (v : Visitor) (origin : Origin) (target : PyText) (line : Nat) (column : Int)
    (endLine endColumn : Nat) : Visitor :=
  let source := if v.scope = [] then ofString "module" else dotted v.scope
  { v with references := v.references ++
      [(origin, ⟨source, target, line, column, endLine, endColumn⟩)] }

end Visitor

/-- The name a name node holds. -/
def nameOf : Tree → Option PyText
  | .name _ id _ => some id.text
  | _ => none

/-- `_infer_type`. -/
def inferType (v : Visitor) : Tree → Option PyText
  | .call (.name _ id _) _ => some ((v.resolveName id.text).getD id.text)
  | .call (.attribute_ _ (.name _ id _) attr _) _ =>
      some (dotted [(v.resolveName id.text).getD id.text, attr.text])
  | _ => none

/-- What `visit_Assign` and `visit_AnnAssign` note before the children are visited. -/
def noteType (v : Visitor) (type : Option PyText) (targets : List Tree) : Visitor :=
  match type with
  | none => v
  | some type =>
      (targets.filterMap nameOf).foldl (fun v name => v.inferred (v.qname name) type) v

/-- The type that an annotation names. -/
def annotatedType (v : Visitor) (annotation_ : Tree) : Option PyText :=
  (nameOf annotation_).map fun id => (v.resolveName id).getD id

/-- `visit_Import`. -/
def visitImport (v : Visitor) (names : List Alias) : Visitor :=
  names.foldl (fun v named => v.imported (named.asname.getD named.name) named.name) v

/-- `visit_ImportFrom`. -/
def visitImportFrom (v : Visitor) (module_ : Option PyText) (names : List Alias) : Visitor :=
  names.foldl (fun v named => v.imported (named.asname.getD named.name)
    (match module_ with
      | none => named.name
      | some module_ => dotted [module_, named.name])) v

/-- What an attribute in load context refers to; `super()` outside a class with a named base
    refers to nothing. -/
def attributeTarget (v : Visitor) (value : Tree) (attr : PyText) : Option PyText :=
  match value with
  | .call (.name _ id _) _ =>
      if id.text = ofString "super" then
        match v.classBases, v.scope with
        | (base :: _) :: _, _ :: _ => some (dotted [base, attr])
        | _, _ => none
      else some attr
  | .name _ id _ =>
      some (dotted [((v.inferredTypes.get? (v.qname id.text)).or
        (v.resolveName id.text)).getD id.text, attr])
  | _ => some attr

/-- `visit_Attribute` before the value is visited, with the place that `_make_attr_loc` gives
    the attribute. -/
def visitAttribute (v : Visitor) (span : Span) (value : Tree) (attr : PyText) (ctx : Context) :
    Visitor :=
  match ctx with
  | .load =>
      match attributeTarget v value attr with
      | none => v
      | some target => v.refer .attribute target span.endLine
          ((span.endColumn : Int) - attr.length) span.endLine span.endColumn
  | _ => v

/-- `visit_Name`. -/
def visitName (v : Visitor) (span : Span) (id : PyText) (ctx : Context) : Visitor :=
  match ctx with
  | .load => v.refer .name ((v.resolveName id).getD id) span.line span.column span.endLine
      span.endColumn
  | .store => v.bind id (v.qname id)
  | .del => v

/-- The scope of a function or a lambda: its parameters by their qualified names. -/
def parameterScope (v : Visitor) (names : List Identifier) : Dict PyText PyText :=
  names.foldl (fun scope name => scope.set name.text (v.qname name.text)) .empty

/-- What `except … as name` and `case … as name` bind. -/
def bindCaught (v : Visitor) : Option Identifier → Visitor
  | none => v
  | some name => v.bind name.text ((v.enter (ofString "<local>")).qname name.text)

mutual

/-- `_bind_target`. -/
def bindTarget (v : Visitor) (scope : Dict PyText PyText) : Tree → Dict PyText PyText
  | .name _ id _ => scope.set id.text (v.qname id.text)
  | .sequence elts => bindTargets v scope elts
  | _ => scope

/-- `for elt in node.elts: self._bind_target(elt, scope)`. -/
def bindTargets (v : Visitor) (scope : Dict PyText PyText) : List Tree → Dict PyText PyText
  | [] => scope
  | node :: rest => bindTargets v (bindTarget v scope node) rest

end

mutual

/-- `visit`. -/
def visit (v : Visitor) : Tree → Visitor
  | .classDef name bases rest =>
      let qname := v.qname name.text
      let names := (Dict.empty.set (ofString "self") qname).set (ofString "cls") qname
      let v := (((v.bind name.text qname).openClass (bases.filterMap nameOf)).enter
        name.text).openScope names
      (visitAll (visitAll v bases) rest).closeScope.leave.closeClass
  | .functionDef name signature children =>
      let v := (v.bind name.text (v.qname name.text)).enter name.text
      let own := ((allArgs signature.toArguments).filter isOwnParameter).map Parameter.name
      let v := v.openScope
        (parameterScope v (own ++ signature.vararg.toList ++ signature.kwarg.toList))
      (visitAll v children).closeScope.leave
  | .lambda signature children =>
      let v := v.enter (ofString "<lambda>")
      let v := v.openScope
        (parameterScope v ((allArgs signature.toArguments).map Parameter.name))
      (visitAll v children).closeScope.leave
  | .comp target iter _ others elements =>
      -- Of the first generator only the iterable is visited.
      let v := visit (v.enter (ofString "<local>")) iter
      let v := v.openScope (bindTarget v .empty target)
      (visitAll (visitAll v others) elements).closeScope.leave
  | .generator target iter ifs =>
      -- One turn of the loop over the other generators.
      let v := visit v iter
      visitAll (v.inScope fun scope => bindTarget v scope target) ifs
  | .exceptHandler name children => visitAll (bindCaught v name) children
  | .matchAs name children => visitAll (bindCaught v name) children
  | .name span id ctx => visitName v span id.text ctx
  | .attribute_ span value attr ctx => visit (visitAttribute v span value attr.text ctx) value
  | .call func arguments => visitAll (visit v func) arguments
  | .assign targets value =>
      visit (visitAll (noteType v (inferType v value) targets) targets) value
  | .annAssign target annotation_ value =>
      let v := noteType v (annotatedType v annotation_) [target]
      visitAll (visit (visit v target) annotation_) value
  | .sequence elts => visitAll v elts
  | .import_ names => visitImport v names
  | .importFrom module_ names => visitImportFrom v module_ names
  | .other children => visitAll v children

/-- `generic_visit`: the children one after another. -/
def visitAll (v : Visitor) : List Tree → Visitor
  | [] => v
  | node :: rest => visitAll (visit v node) rest

end

/-- `PythonSymbolVisitor(content).visit(tree)`: the references of a file. -/
def references (tree : Tree) : List (Origin × SymbolReference) := (visit {} tree).references

end Eag.Source.References
