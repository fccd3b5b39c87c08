import SourceLedger.Digest
import SourceLedger.Extraction.Basic
import SourceLedger.Outline.Event

/-!
# Recording events

A recorder follows the events of an outline and writes down what they mean. It keeps a stack of
frames, one for each component that is open, with the names that are bound there: the same event
means a local variable inside a function, a member inside a class and a global elsewhere. Events
outside any component mean nothing.
-/

namespace SourceLedger

open Outline (Event Form Opening)

/-- The kinds of namespace. -/
inductive Scope where
  | moduleBody
  | classBody
  | functionBody
  deriving DecidableEq, Repr, Inhabited

/-- An open component. -/
structure Frame where
  /-- The position of the component. -/
  component : Nat
  depth : Nat
  scope : Scope
  /-- The number of named definitions around, the component included. -/
  level : Nat
  parameters : List String := []
  locals : List String := []
  globals : List String := []
  deriving DecidableEq, Repr, Inhabited

/-- The kind of a component of some form inside some namespace. -/
def Outline.Form.kind (form : Form) (enclosing : Option Scope) : ComponentKind :=
  match form with
  | .function => if enclosing = some .classBody then .method else .function
  | .classDef => .classDef
  | .importing => .importing
  | .assignment => .assignment
  | .expression => .expression
  | .block => .block

/-- The namespace that a component of some form opens. Only definitions open one of their own. -/
def Outline.Form.scope (form : Form) (enclosing : Option Scope) : Scope :=
  match form with
  | .function => .functionBody
  | .classDef => .classBody
  | _ => enclosing.getD .moduleBody

/-- The findings so far, and the components that are open, innermost first. -/
structure Recorder where
  findings : Findings := {}
  stack : List Frame := []
  deriving DecidableEq, Repr, Inhabited

namespace Recorder

/-- Writes down a use of a name in a frame. -/
def addSymbol (recorder : Recorder) (frame : Frame) (name : String) (scope : ScopeKind)
    (access : AccessKind) (typeText : Option String) (line : Nat) : Recorder :=
  let symbol : SymbolUse := ⟨name, scope, access, frame.level, line, typeText⟩
  { recorder with
    findings.symbols := recorder.findings.symbols ++ [⟨frame.component, symbol⟩] }

/-- Replaces the innermost frame. -/
def setTop (recorder : Recorder) (frame : Frame) : Recorder :=
  { recorder with stack := frame :: recorder.stack.tail }

/-- A bare name is assigned, updated or deleted. -/
def bindName (recorder : Recorder) (name : String) (access : AccessKind)
    (typeText : Option String) (line : Nat) : Recorder :=
  match recorder.stack with
  | [] => recorder
  | frame :: _ =>
    match frame.scope with
    | .moduleBody => recorder.addSymbol frame name .globalName access typeText line
    | .classBody => recorder.addSymbol frame name .member access typeText line
    | .functionBody =>
      if name ∈ frame.globals then
        let change : GlobalAccess := ⟨name, access, line⟩
        let recorder : Recorder := { recorder with
          findings.globals := recorder.findings.globals ++ [⟨frame.component, change⟩] }
        recorder.addSymbol frame name .globalName access typeText line
      else
        let frame :=
          if access = .delete then frame else { frame with locals := name :: frame.locals }
        (recorder.setTop frame).addSymbol frame name .localName access typeText line

/-- A parameter is bound. It is also a local name of its function. -/
def bindParameter (recorder : Recorder) (name : String) (typeText : Option String)
    (line : Nat) : Recorder :=
  match recorder.stack with
  | [] => recorder
  | frame :: _ =>
    let frame := { frame with
      parameters := name :: frame.parameters, locals := name :: frame.locals }
    (recorder.setTop frame).addSymbol frame name .parameter .write typeText line

/-- A bare name is used. Only uses of a function's own parameters and locals are written down. -/
def mentionName (recorder : Recorder) (name : String) (line : Nat) : Recorder :=
  match recorder.stack with
  | [] => recorder
  | frame :: _ =>
    if frame.scope = .functionBody then
      if name ∈ frame.parameters then recorder.addSymbol frame name .parameter .read none line
      else if name ∈ frame.locals then recorder.addSymbol frame name .localName .read none line
      else recorder
    else recorder

/-- A place inside another value is assigned, updated or deleted. -/
def storePlace (recorder : Recorder) (place : String) (scope : ScopeKind) (access : AccessKind)
    (typeText : Option String) (line : Nat) : Recorder :=
  match recorder.stack with
  | [] => recorder
  | frame :: _ => recorder.addSymbol frame place scope access typeText line

/-- A name is declared to be global. -/
def declareGlobal (recorder : Recorder) (name : String) : Recorder :=
  match recorder.stack with
  | [] => recorder
  | frame :: _ => recorder.setTop { frame with globals := name :: frame.globals }

/-- A name is declared to belong to an enclosing function. -/
def declareNonlocal (recorder : Recorder) (name : String) : Recorder :=
  match recorder.stack with
  | [] => recorder
  | frame :: _ => recorder.setTop { frame with locals := name :: frame.locals }

/-- A function is called. -/
def addCall (recorder : Recorder) (site : CallSite) : Recorder :=
  match recorder.stack with
  | [] => recorder
  | frame :: _ => { recorder with
      findings.calls := recorder.findings.calls ++ [⟨frame.component, site⟩] }

/-- A decorator stands in front of the definition that is open. -/
def addDecorator (recorder : Recorder) (decorator : Decorator) : Recorder :=
  match recorder.stack with
  | [] => recorder
  | frame :: _ => { recorder with
      findings.decorators := recorder.findings.decorators ++ [⟨frame.component, decorator⟩] }

/-- The name under which a function knows what it imports. -/
def importedAs (record : ImportRecord) : String :=
  match record.asName, record.name with
  | some asName, _ => asName
  | none, some name => name
  | none, none => firstPart record.modulePath

/-- A module or name is imported. Inside a function the import also binds a local name, unless it
takes all names. -/
def addImport (recorder : Recorder) (record : ImportRecord) : Recorder :=
  match recorder.stack with
  | [] => recorder
  | frame :: _ =>
    let recorder :=
      if frame.scope = .functionBody ∧ record.name ≠ some "*" then
        recorder.bindName (importedAs record) .write none record.line
      else recorder
    { recorder with
      findings.imports := recorder.findings.imports ++ [⟨frame.component, record⟩] }

/-- How many of the texts of an opening are missing. -/
def missingIn (opening : Opening) : Nat :=
  [opening.leading, opening.text, opening.trailing].countP Option.isNone

/-- The component of an opening, below the frame of its parent if it has one. -/
def componentOf (opening : Opening) (parent : Option Frame) : Component :=
  let text := opening.text.getD ""
  { parent := parent.map (·.component)
    kind := opening.form.kind (parent.map (·.scope))
    name := opening.name
    qualifiedName := ""
    orderIndex := 0
    depth := parent.elim 0 (·.depth + 1)
    firstLine := opening.firstLine
    lastLine := opening.lastLine
    start := opening.start
    stop := opening.stop
    contentHash := digest text
    structureHash := digest opening.canonical
    signature := opening.signature
    segment := ⟨opening.leading.getD "", text, opening.trailing.getD ""⟩ }

/-- The frame of an opening at some position, below the frame of its parent if it has one. -/
def frameOf (opening : Opening) (position : Nat) (parent : Option Frame) : Frame :=
  { component := position
    depth := parent.elim 0 (·.depth + 1)
    scope := opening.form.scope (parent.map (·.scope))
    level := parent.elim 0 (·.level) + (if opening.form.isNamedDefinition then 1 else 0) }

/-- A component opens. Inside a function a definition also binds its name there. -/
def openComponent (recorder : Recorder) (opening : Opening) : Recorder :=
  let parent := recorder.stack.head?
  let recorder :=
    if opening.form.isNamedDefinition ∧ parent.map (·.scope) = some .functionBody then
      recorder.bindName opening.name .write none opening.nameLine
    else recorder
  let findings := recorder.findings
  { findings := { findings with
      components := findings.components ++ [componentOf opening parent]
      missingSegments := findings.missingSegments + missingIn opening }
    stack := frameOf opening findings.components.length parent :: recorder.stack }

/-- The recorder after one more event. -/
def step (recordReads : Bool) (recorder : Recorder) : Event → Recorder
  | .enter opening => recorder.openComponent opening
  | .leave => { recorder with stack := recorder.stack.tail }
  | .decorate decorator => recorder.addDecorator decorator
  | .parameter name typeText line => recorder.bindParameter name typeText line
  | .bind name access typeText line => recorder.bindName name access typeText line
  | .store place scope access typeText line =>
    recorder.storePlace place scope access typeText line
  | .mention name line => if recordReads then recorder.mentionName name line else recorder
  | .declareGlobal name => recorder.declareGlobal name
  | .declareNonlocal name => recorder.declareNonlocal name
  | .call site => recorder.addCall site
  | .imports record => recorder.addImport record

/-- The recorder after some events. -/
def run (recordReads : Bool) (recorder : Recorder) (events : List Event) : Recorder :=
  events.foldl (step recordReads) recorder

end Recorder

end SourceLedger
