import SourceLedger.Proofs.Naming
import SourceLedger.Proofs.Recording

/-!
# What an extraction looks like

At top level components open where nothing is open, and close again before the next one opens. So
every statement of a file adds one component without a parent, in order, and whatever else it adds
lies below that one. An extraction is therefore an arena whose components have unique names, and
its decorators are in order.

## Main statements

* `Recorder.run_component` says what one statement of a file adds.
* `wellFormed_extract` collects what is true of every extraction.
* `contentHash_extract` gives every component the digest of its text.
-/

namespace SourceLedger

open Outline (Event Gaps Reading component openingOf moduleEvents statementEvents)
open Syntax (Node)

namespace Recorder

variable {recorder : Recorder} {reading : Reading} {gaps : Gaps} {node : Node}

/-- A statement at top level adds a component without parent, and others below it. -/
theorem run_component (hstack : recorder.stack = []) (recordReads : Bool) (reading : Reading)
    (gaps : Gaps) (node : Node) :
    (recorder.run recordReads (component reading gaps node)).stack = [] ∧
      ∃ new, (recorder.run recordReads (component reading gaps node)).findings.components =
          recorder.findings.components ++ componentOf (openingOf reading gaps node) none :: new ∧
        ∀ component ∈ new, component.parent.isSome := by
  obtain ⟨count, inside, heq, hinside⟩ := Outline.component_eq_nested reading gaps node
  have hopen := recorder.stack_openComponent_ne_nil (openingOf reading gaps node)
  obtain ⟨hframes, new, hnew, hparents⟩ := extends_run hinside recordReads hopen
  rw [heq, run_cons, run_append]
  constructor
  · have hlength := congrArg List.length hframes
    simp only [List.length_map, length_stack_openComponent, hstack, List.length_nil] at hlength
    refine List.eq_nil_of_length_eq_zero ?_
    change (run recordReads (recorder.openComponent _) inside).stack.tail.length = 0
    rw [List.length_tail, hlength]
  · refine ⟨new, ?_, hparents⟩
    rw [components_openComponent, hstack, List.append_assoc] at hnew
    exact hnew

/-- A statement at top level keeps the decorators of every component in order. -/
theorem decoratorsOrdered_run_component (hsound : recorder.IsSound)
    (hordered : DecoratorsOrdered recorder.findings.decorators) (recordReads : Bool)
    (reading : Reading) (gaps : Gaps) (node : Node) :
    DecoratorsOrdered
      (recorder.run recordReads (component reading gaps node)).findings.decorators := by
  obtain ⟨count, inside, heq, hinside⟩ := Outline.component_eq_nested reading gaps node
  have hopened := hsound.step recordReads (.enter (openingOf reading gaps node))
  rw [heq, run_cons, run_append]
  have hcurrent := recorder.current?_openComponent (openingOf reading gaps node)
  refine (decorated_run hinside recordReads hopened hcurrent ?_ ?_).ordered
  · simpa [step] using hordered
  · intro owned howned howner
    have := hsound.decorators owned (by simpa [step] using howned)
    omega

/-- The statements of a file keep the decorators of every component in order. -/
theorem decoratorsOrdered_run_statements (hsound : recorder.IsSound)
    (hordered : DecoratorsOrdered recorder.findings.decorators) (recordReads : Bool)
    (reading : Reading) (cursor : Nat) (statements : List Node) :
    DecoratorsOrdered (recorder.run recordReads
      (statementEvents reading cursor statements)).findings.decorators := by
  fun_induction statementEvents reading cursor statements generalizing recorder with
  | case1 => exact hordered
  | case2 cursor last =>
    exact decoratorsOrdered_run_component hsound hordered recordReads reading _ last
  | case3 cursor statement rest _ ih =>
    rw [run_append]
    exact ih (hsound.run recordReads _)
      (decoratorsOrdered_run_component hsound hordered recordReads reading _ statement)

/-- Components are recorded with the digests of their texts, whatever the event. -/
theorem contentHash_step (recordReads : Bool) (event : Event)
    (h : ∀ component ∈ recorder.findings.components,
      component.contentHash = digest component.segment.text) :
    ∀ component ∈ (recorder.step recordReads event).findings.components,
      component.contentHash = digest component.segment.text := by
  by_cases hplain : event.isPlain
  · rw [(recorder.notes_step recordReads hplain).components]
    exact h
  cases event with
  | enter opening =>
    intro component hcomponent
    rw [step, components_openComponent] at hcomponent
    rcases List.mem_append.1 hcomponent with hold | hnew
    · exact h component hold
    · rw [List.mem_singleton.1 hnew]
      rfl
  | leave => exact h
  | decorate decorator =>
    simp only [step, addDecorator]
    split
    · exact h
    · exact h
  | _ => exact absurd rfl hplain

theorem contentHash_run (recordReads : Bool) (events : List Event)
    (h : ∀ component ∈ recorder.findings.components,
      component.contentHash = digest component.segment.text) :
    ∀ component ∈ (recorder.run recordReads events).findings.components,
      component.contentHash = digest component.segment.text := by
  induction events generalizing recorder with
  | nil => exact h
  | cons event rest ih => exact ih (contentHash_step recordReads event h)

end Recorder

namespace Extraction

/-- What is true of every extraction that is given names: it is an arena, decorators are in order,
and names are unique. -/
structure IsWellFormed (extraction : Extraction) : Prop where
  arena : extraction.IsArena
  decorators : Recorder.DecoratorsOrdered extraction.decorators
  named : Naming.IsNamed extraction.components

variable {path source : String} {tree : Syntax.Tree} {recordReads : Bool}

theorem isArena_staged : (staged path source tree recordReads).IsArena :=
  (Recorder.isSound_empty.run recordReads _).toIsArena

theorem decoratorsOrdered_staged :
    Recorder.DecoratorsOrdered (staged path source tree recordReads).decorators := by
  change Recorder.DecoratorsOrdered
    (Recorder.run recordReads {} (moduleEvents ⟨source, tree.lines⟩ tree.root)).findings.decorators
  unfold moduleEvents
  split
  · split
    · exact List.Pairwise.nil
    · exact List.Pairwise.nil
  · exact Recorder.decoratorsOrdered_run_statements Recorder.isSound_empty .nil recordReads _ 0 _

/-- Giving names changes the names and positions of the components, and nothing else. -/
theorem named_ok {extraction result : Extraction} {policy : DuplicatePolicy}
    (h : extraction.named policy = .ok result) :
    Naming.IsNamed result.components ∧
      result.components.map Component.unnamed = extraction.components.map Component.unnamed ∧
      result = { extraction with components := result.components } := by
  unfold named at h
  split at h
  · rename_i components hassign
    obtain rfl := Except.ok.inj h
    obtain ⟨hnamed, hunnamed⟩ := Naming.assign_ok hassign
    exact ⟨hnamed, hunnamed, rfl⟩
  · simp at h

/-- Giving names only fails where duplicates are refused, and then names the refused one. -/
theorem named_error {extraction : Extraction} {policy : DuplicatePolicy} {failure : Failure}
    (h : extraction.named policy = .error failure) :
    policy = .reject ∧ ∃ name, failure = .ambiguousName extraction.path name := by
  unfold named at h
  split at h
  · simp at h
  · rename_i name hassign
    exact ⟨Naming.assign_error hassign, name, (Except.error.inj h).symm⟩

/-- What is taken from a text, with names given or not. -/
structure IsTaken (path source : String) (tree : Syntax.Tree) (recordReads : Bool)
    (extraction : Extraction) : Prop where
  components : extraction.components.map Component.unnamed =
    (staged path source tree recordReads).components.map Component.unnamed
  rest : extraction =
    { staged path source tree recordReads with components := extraction.components }

/-- What holds of all that is taken from a text holds before names are given and afterwards. -/
theorem forall_isTaken {property : Extraction → Prop}
    (h : ∀ extraction, IsTaken path source tree recordReads extraction → property extraction)
    (policy : DuplicatePolicy) :
    property (staged path source tree recordReads) ∧
      ∀ result, (staged path source tree recordReads).named policy = .ok result →
        property result := by
  refine ⟨h _ ⟨rfl, rfl⟩, fun result hresult => ?_⟩
  obtain ⟨_, hcomponents, hrest⟩ := named_ok hresult
  exact h result ⟨hcomponents, hrest⟩

/-- Being an arena does not depend on names. -/
theorem isArena_named {extraction result : Extraction} {policy : DuplicatePolicy}
    (h : extraction.named policy = .ok result) (harena : extraction.IsArena) :
    result.IsArena := by
  obtain ⟨_, hunnamed, heq⟩ := named_ok h
  have hlength : result.components.length = extraction.components.length := by
    simpa using congrArg List.length hunnamed
  rw [heq]
  refine { parents := ?_, symbols := ?_, calls := ?_, imports := ?_, globals := ?_,
           decorators := ?_ }
  · intro position component hcomponent parent hparent
    obtain ⟨old, hold, hsame⟩ := Component.exists_getElem?_of_unnamed hunnamed hcomponent
    have hparent' : old.parent = some parent := by
      rw [← Component.unnamed_parent, hsame, Component.unnamed_parent, hparent]
    exact harena.parents position old hold parent hparent'
  · exact hlength ▸ harena.symbols
  · exact hlength ▸ harena.calls
  · exact hlength ▸ harena.imports
  · exact hlength ▸ harena.globals
  · exact hlength ▸ harena.decorators

end Extraction

/-- What an extraction is made from: a tree without faults, and names that are not refused. -/
theorem extract_ok {path text : String} {tree : Syntax.Tree} {options : ExtractOptions}
    {extraction : Extraction} (h : extract path text tree options = .ok extraction) :
    tree.root.attributes.hasFault = false ∧
      (Extraction.staged path text tree options.recordReads).named options.duplicateNames =
        .ok extraction := by
  unfold extract checkTree at h
  split at h
  · simp [bind, Except.bind] at h
  · rename_i hfault
    exact ⟨by simpa using hfault, h⟩

/-- An extraction is what is taken from its text, with names given. -/
theorem isTaken_extract {path text : String} {tree : Syntax.Tree} {options : ExtractOptions}
    {extraction : Extraction} (h : extract path text tree options = .ok extraction) :
    extraction.IsTaken path text tree options.recordReads := by
  obtain ⟨_, hcomponents, hrest⟩ := Extraction.named_ok (extract_ok h).2
  exact ⟨hcomponents, hrest⟩

/-- An extraction has the path it was asked for. -/
theorem path_of_extract {path text : String} {tree : Syntax.Tree} {options : ExtractOptions}
    {extraction : Extraction} (h : extract path text tree options = .ok extraction) :
    extraction.path = path := by
  rw [(isTaken_extract h).rest]
  rfl

/-- An extraction fails on a tree with faults, and otherwise only where duplicates are refused. -/
theorem extract_error {path text : String} {tree : Syntax.Tree} {options : ExtractOptions}
    {failure : Failure} (h : extract path text tree options = .error failure) :
    (tree.root.attributes.hasFault = true ∧ failure = .unparsable path tree.describeFault) ∨
      (tree.root.attributes.hasFault = false ∧ options.duplicateNames = .reject ∧
        ∃ name, failure = .ambiguousName path name) := by
  unfold extract checkTree at h
  split at h
  · rename_i hfault
    exact .inl ⟨hfault, (Except.error.inj h).symm⟩
  · rename_i hfault
    obtain ⟨hpolicy, name, hname⟩ := Extraction.named_error h
    exact .inr ⟨by simpa using hfault, hpolicy, name, hname⟩

/-- A text that parses is extracted where duplicates are not refused. -/
theorem exists_extract {path text : String} {tree : Syntax.Tree} {options : ExtractOptions}
    (hfault : tree.root.attributes.hasFault = false) (hpolicy : options.duplicateNames ≠ .reject) :
    ∃ extraction, extract path text tree options = .ok extraction := by
  cases hextract : extract path text tree options with
  | ok extraction => exact ⟨extraction, rfl⟩
  | error failure =>
    rcases extract_error hextract with ⟨hfaulty, _⟩ | ⟨_, hreject, _⟩
    · rw [hfault] at hfaulty
      exact absurd hfaulty Bool.false_ne_true
    · exact absurd hreject hpolicy

/-- Every component of an extraction has the digest of its text. -/
theorem contentHash_extract {path text : String} {tree : Syntax.Tree} {options : ExtractOptions}
    {extraction : Extraction} (h : extract path text tree options = .ok extraction)
    {component : Component} (hcomponent : component ∈ extraction.components) :
    component.contentHash = digest component.segment.text := by
  obtain ⟨position, hposition⟩ := List.mem_iff_getElem?.1 hcomponent
  obtain ⟨old, hold, hsame⟩ :=
    Component.exists_getElem?_of_unnamed (isTaken_extract h).components hposition
  have hhash := congrArg Component.contentHash hsame
  have hsegment := congrArg Component.segment hsame
  change old.contentHash = component.contentHash at hhash
  change old.segment = component.segment at hsegment
  rw [← hhash, ← hsegment]
  exact Recorder.contentHash_run options.recordReads _ (by simp) old (List.mem_of_getElem? hold)

/-- Every extraction is well formed. -/
theorem wellFormed_extract {path text : String} {tree : Syntax.Tree} {options : ExtractOptions}
    {extraction : Extraction} (h : extract path text tree options = .ok extraction) :
    extraction.IsWellFormed := by
  obtain ⟨_, hnamed⟩ := extract_ok h
  obtain ⟨hnames, _, hrest⟩ := Extraction.named_ok hnamed
  refine ⟨Extraction.isArena_named hnamed Extraction.isArena_staged, ?_, hnames⟩
  rw [hrest]
  exact Extraction.decoratorsOrdered_staged

end SourceLedger
