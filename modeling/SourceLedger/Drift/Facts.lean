import SourceLedger.Drift.KeySet
import SourceLedger.Extraction.Basic

/-!
# What drift looks at

Two versions of a component are compared by a few facts: the digests of its text and of its tree,
its signature, and the sets of what it calls, imports and does with names. The members of these
sets are keys, texts in which an import or a use of a name is written down.
-/

namespace SourceLedger

/-- The key of an import: dots for the level, the path of the module, a colon and the imported
name, and the alias. -/
def importKey (modulePath : String) (name asName : Option String) (level : Nat) : String :=
  String.ofList (List.replicate level '.') ++ modulePath ++ name.elim "" (":" ++ ·) ++
    asName.elim "" (" as " ++ ·)

/-- The key of an import record. -/
def ImportRecord.key (record : ImportRecord) : String :=
  importKey record.modulePath record.name record.asName record.level

/-- The key of a use of a name: the name, its scope and the access. -/
def symbolKey (name : String) (scope : ScopeKind) (access : AccessKind) : String :=
  name ++ ":" ++ scope.name ++ ":" ++ access.name

/-- The key of a use of a name. -/
def SymbolUse.key (symbol : SymbolUse) : String :=
  symbolKey symbol.name symbol.scope symbol.access

/-- What drift looks at in a component. -/
structure ComponentFacts where
  qualifiedName : String
  kind : ComponentKind
  contentHash : String
  structureHash : String
  signature : Option String
  calls : KeySet
  imports : KeySet
  symbols : KeySet
  deriving DecidableEq, Inhabited

/-- The facts of the component at some position. -/
def Findings.factsAt (findings : Findings) (component : Component) (position : Nat) :
    ComponentFacts where
  qualifiedName := component.qualifiedName
  kind := component.kind
  contentHash := component.contentHash
  structureHash := component.structureHash
  signature := component.signature
  calls := .ofList ((Owned.select position findings.calls).map (·.callee))
  imports := .ofList ((Owned.select position findings.imports).map (·.key))
  symbols := .ofList ((Owned.select position findings.symbols).map (·.key))

/-- The facts of all components, in order. -/
def Findings.facts (findings : Findings) : List ComponentFacts :=
  findings.components.zipIdx.map fun (component, position) =>
    findings.factsAt component position

end SourceLedger
