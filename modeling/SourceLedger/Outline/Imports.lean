import SourceLedger.Fact
import SourceLedger.Outline.Heading

/-!
# Imports of a statement

An import statement gives one record for each name it lists, and one for the wildcard if it has
one.
-/

namespace SourceLedger.Outline

open Syntax (Node Construct)

/-- An imported module or name with its alias: `a.b as c` is `a.b` under the name `c`. -/
def splitAlias (reading : Reading) (node : Node) : String × Option String :=
  if node.construct = .aliasedImport then
    ((reading.compactChild? node "name").getD "", node.childText? "alias" reading.source)
  else (reading.compact node, none)

/-- The number of dots in a text. -/
def dotCount (text : String) : Nat :=
  text.toList.count '.'

/-- One part of a relative module path, read on top of the parts before it: the path and the
number of leading dots. -/
def addModulePart (reading : Reading) (sofar : String × Nat) (part : Node) : String × Nat :=
  match part.construct with
  | .importPrefix => (sofar.1, (reading.text? part).elim 0 dotCount)
  | .dottedName => (reading.compact part, sofar.2)
  | _ => sofar

/-- The path of the module that a `from` import takes from, and its number of leading dots. -/
def fromModule (reading : Reading) (statement : Node) : String × Nat :=
  match statement.child? "module_name" with
  | none => ("", 0)
  | some path =>
    if path.construct = .relativeImport then
      path.namedChildren.foldl (addModulePart reading) ("", 0)
    else (reading.compact path, 0)

/-- The record for one name of an `import` statement. -/
def moduleRecord (reading : Reading) (line : Nat) (name : Node) : ImportRecord :=
  let (modulePath, asName) := splitAlias reading name
  ⟨modulePath, none, asName, 0, false, line⟩

/-- The record for one name of a `from` import. -/
def nameRecord (reading : Reading) (line : Nat) (origin : String × Nat) (name : Node) :
    ImportRecord :=
  let (imported, asName) := splitAlias reading name
  ⟨origin.1, some imported, asName, origin.2, true, line⟩

/-- The record for a `from` import of all names. -/
def wildcardRecord (line : Nat) (origin : String × Nat) : ImportRecord :=
  ⟨origin.1, some "*", none, origin.2, true, line⟩

/-- The records of an import statement, in order. -/
def importRecords (reading : Reading) (statement : Node) : List ImportRecord :=
  let line := reading.line statement
  let names := statement.childrenIn "name"
  if statement.construct = .importStatement then names.map (moduleRecord reading line)
  else
    let origin :=
      if statement.construct = .futureImportStatement then ("__future__", 0)
      else fromModule reading statement
    names.map (nameRecord reading line origin) ++
      (if statement.namedChildren.any (·.construct == .wildcardImport) then
        [wildcardRecord line origin]
      else [])

end SourceLedger.Outline
