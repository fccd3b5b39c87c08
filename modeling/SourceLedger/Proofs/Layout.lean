import SourceLedger.Proofs.Naming

/-!
# Forgetting the layout

Lines, positions and raw texts say how a source is laid out. Recording events and giving names look
at none of them: they only pass them on. So it makes no difference whether the layout is forgotten
before or after, and events that differ in layout only are recorded as findings that do.

## Main definitions

* `Event.withoutLayout` and `Findings.withoutLayout` forget the layout.

## Main statements

* `Recorder.run_withoutLayout` says that recording commutes with forgetting the layout.
* `Naming.assign_withoutLayout` says the same of giving names.
-/

namespace SourceLedger

/-- A use of a name without its line. -/
def SymbolUse.withoutLayout (use : SymbolUse) : SymbolUse :=
  { use with line := 0 }

/-- A call without its line. Its text is free of layout as it is. -/
def CallSite.withoutLayout (site : CallSite) : CallSite :=
  { site with line := 0 }

/-- An import without its line. -/
def ImportRecord.withoutLayout (record : ImportRecord) : ImportRecord :=
  { record with line := 0 }

/-- A change of a global variable without its line. -/
def GlobalAccess.withoutLayout (change : GlobalAccess) : GlobalAccess :=
  { change with line := 0 }

/-- A decorator without its line and its raw text. Its name is free of layout as it is. -/
def Decorator.withoutLayout (decorator : Decorator) : Decorator :=
  { decorator with text := "", line := 0 }

/-- A component as if its text were empty. -/
def Component.withoutLayout (component : Component) : Component :=
  { component with
    firstLine := 0
    lastLine := 0
    start := 0
    stop := 0
    contentHash := digest ""
    segment := ⟨"", "", ""⟩ }

/-- The same fact of the same component, changed. -/
def Owned.map {α β : Type} (f : α → β) (owned : Owned α) : Owned β :=
  ⟨owned.owner, f owned.fact⟩

/-- What is found in a source, up to its layout. -/
def Findings.withoutLayout (findings : Findings) : Findings where
  components := findings.components.map Component.withoutLayout
  symbols := findings.symbols.map (Owned.map SymbolUse.withoutLayout)
  calls := findings.calls.map (Owned.map CallSite.withoutLayout)
  imports := findings.imports.map (Owned.map ImportRecord.withoutLayout)
  globals := findings.globals.map (Owned.map GlobalAccess.withoutLayout)
  decorators := findings.decorators.map (Owned.map Decorator.withoutLayout)
  missingSegments := 0

namespace Outline

/-- An opening as if its text and the gaps around it were empty. -/
def Opening.withoutLayout (opening : Opening) : Opening :=
  { opening with
    nameLine := 0
    start := 0
    stop := 0
    firstLine := 0
    lastLine := 0
    leading := some ""
    text := some ""
    trailing := some "" }

/-- What an event says, up to the layout. -/
def Event.withoutLayout : Event → Event
  | enter opening => enter opening.withoutLayout
  | leave => leave
  | decorate decorator => decorate decorator.withoutLayout
  | parameter name typeText _ => parameter name typeText 0
  | bind name access typeText _ => bind name access typeText 0
  | store place scope access typeText _ => store place scope access typeText 0
  | mention name _ => mention name 0
  | declareGlobal name => declareGlobal name
  | declareNonlocal name => declareNonlocal name
  | call site => call site.withoutLayout
  | imports record => imports record.withoutLayout

end Outline

open Outline (Event Opening)

namespace Recorder

/-- A recorder as if it had followed events without layout. -/
def withoutLayout (recorder : Recorder) : Recorder :=
  { recorder with findings := recorder.findings.withoutLayout }

variable (recorder : Recorder)

@[simp]
theorem withoutLayout_stack : recorder.withoutLayout.stack = recorder.stack :=
  rfl

theorem addSymbol_withoutLayout (frame : Frame) (name : String) (scope : ScopeKind)
    (access : AccessKind) (typeText : Option String) (line : Nat) :
    recorder.withoutLayout.addSymbol frame name scope access typeText 0 =
      (recorder.addSymbol frame name scope access typeText line).withoutLayout := by
  simp [addSymbol, withoutLayout, Findings.withoutLayout, Owned.map, SymbolUse.withoutLayout]

theorem bindName_withoutLayout (name : String) (access : AccessKind) (typeText : Option String)
    (line : Nat) :
    recorder.withoutLayout.bindName name access typeText 0 =
      (recorder.bindName name access typeText line).withoutLayout := by
  unfold bindName
  rw [withoutLayout_stack]
  cases recorder.stack with
  | nil => rfl
  | cons frame frames =>
    cases hscope : frame.scope with
    | moduleBody =>
      simp only [hscope]
      exact recorder.addSymbol_withoutLayout ..
    | classBody =>
      simp only [hscope]
      exact recorder.addSymbol_withoutLayout ..
    | functionBody =>
      by_cases hglobal : name ∈ frame.globals
      · simp only [hscope, hglobal, if_true]
        rw [← addSymbol_withoutLayout]
        simp [withoutLayout, Findings.withoutLayout, Owned.map, GlobalAccess.withoutLayout]
      · simp only [hscope, hglobal, if_false]
        exact (recorder.setTop _).addSymbol_withoutLayout ..

theorem bindParameter_withoutLayout (name : String) (typeText : Option String) (line : Nat) :
    recorder.withoutLayout.bindParameter name typeText 0 =
      (recorder.bindParameter name typeText line).withoutLayout := by
  unfold bindParameter
  rw [withoutLayout_stack]
  cases recorder.stack with
  | nil => rfl
  | cons frame frames => exact (recorder.setTop _).addSymbol_withoutLayout ..

theorem mentionName_withoutLayout (name : String) (line : Nat) :
    recorder.withoutLayout.mentionName name 0 =
      (recorder.mentionName name line).withoutLayout := by
  unfold mentionName
  rw [withoutLayout_stack]
  cases recorder.stack with
  | nil => rfl
  | cons frame frames =>
    simp only [apply_ite withoutLayout, ← addSymbol_withoutLayout]

theorem storePlace_withoutLayout (place : String) (scope : ScopeKind) (access : AccessKind)
    (typeText : Option String) (line : Nat) :
    recorder.withoutLayout.storePlace place scope access typeText 0 =
      (recorder.storePlace place scope access typeText line).withoutLayout := by
  obtain ⟨findings, _ | ⟨frame, frames⟩⟩ := recorder
  · rfl
  · exact addSymbol_withoutLayout ..

theorem addImport_withoutLayout (record : ImportRecord) :
    recorder.withoutLayout.addImport record.withoutLayout =
      (recorder.addImport record).withoutLayout := by
  have hbound : recorder.withoutLayout.bindName (importedAs record.withoutLayout) .write none
      record.withoutLayout.line =
        (recorder.bindName (importedAs record) .write none record.line).withoutLayout :=
    recorder.bindName_withoutLayout ..
  unfold addImport
  rw [withoutLayout_stack]
  cases recorder.stack with
  | nil => rfl
  | cons frame frames =>
    dsimp only
    rw [hbound, show record.withoutLayout.name = record.name from rfl, ← apply_ite withoutLayout]
    simp [withoutLayout, Findings.withoutLayout, Owned.map]

theorem openComponent_withoutLayout (opening : Opening) :
    recorder.withoutLayout.openComponent opening.withoutLayout =
      (recorder.openComponent opening).withoutLayout := by
  have hbound : recorder.withoutLayout.bindName opening.withoutLayout.name .write none
      opening.withoutLayout.nameLine =
        (recorder.bindName opening.name .write none opening.nameLine).withoutLayout :=
    recorder.bindName_withoutLayout ..
  unfold openComponent
  rw [withoutLayout_stack]
  dsimp only
  rw [hbound, show opening.withoutLayout.form = opening.form from rfl, ← apply_ite withoutLayout]
  simp only [withoutLayout, Findings.withoutLayout, List.map_append, List.length_map]
  rfl

/-- A step commutes with forgetting the layout. -/
theorem step_withoutLayout (recordReads : Bool) (event : Event) :
    recorder.withoutLayout.step recordReads event.withoutLayout =
      (recorder.step recordReads event).withoutLayout := by
  cases event with
  | enter opening => exact recorder.openComponent_withoutLayout opening
  | leave => rfl
  | decorate decorator =>
    obtain ⟨findings, _ | ⟨frame, frames⟩⟩ := recorder
    · rfl
    · simp [step, Event.withoutLayout, addDecorator, withoutLayout, Findings.withoutLayout,
        Owned.map]
  | parameter name typeText line => exact recorder.bindParameter_withoutLayout name typeText line
  | bind name access typeText line =>
    exact recorder.bindName_withoutLayout name access typeText line
  | store place scope access typeText line =>
    exact recorder.storePlace_withoutLayout place scope access typeText line
  | mention name line =>
    cases recordReads with
    | true => exact recorder.mentionName_withoutLayout name line
    | false => rfl
  | declareGlobal name =>
    obtain ⟨findings, _ | ⟨frame, frames⟩⟩ := recorder
    · rfl
    · rfl
  | declareNonlocal name =>
    obtain ⟨findings, _ | ⟨frame, frames⟩⟩ := recorder
    · rfl
    · rfl
  | call site =>
    obtain ⟨findings, _ | ⟨frame, frames⟩⟩ := recorder
    · rfl
    · simp [step, Event.withoutLayout, addCall, withoutLayout, Findings.withoutLayout, Owned.map]
  | imports record => exact recorder.addImport_withoutLayout record

/-- Recording commutes with forgetting the layout. -/
theorem run_withoutLayout (recordReads : Bool) (events : List Event) :
    recorder.withoutLayout.run recordReads (events.map Event.withoutLayout) =
      (recorder.run recordReads events).withoutLayout := by
  unfold run
  induction events generalizing recorder with
  | nil => rfl
  | cons event rest ih =>
    rw [List.map_cons, List.foldl_cons, step_withoutLayout, ih]
    rfl

end Recorder

namespace Naming

theorem isUnnoticed_withoutLayout : IsUnnoticed Component.withoutLayout :=
  ⟨fun _ => rfl, fun _ => rfl, fun _ => rfl, fun _ _ _ => rfl⟩

/-- Giving names commutes with forgetting the layout. -/
theorem assign_withoutLayout (policy : DuplicatePolicy) (components : List Component) :
    assign policy (components.map Component.withoutLayout) =
      (assign policy components).map (List.map Component.withoutLayout) :=
  assign_map isUnnoticed_withoutLayout policy components

end Naming

end SourceLedger
