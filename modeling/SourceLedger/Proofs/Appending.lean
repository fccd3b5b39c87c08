import SourceLedger.Proofs.Accord
import SourceLedger.Proofs.Arena
import SourceLedger.Proofs.Beginnings
import SourceLedger.Proofs.Bindings
import SourceLedger.Proofs.Comparison
import SourceLedger.Proofs.Increment
import SourceLedger.Proofs.Refusal

/-!
# Statements put at the end

When statements are put behind those of a file, nothing that was found before goes away or
changes. Nothing is open between two statements at top level, so the events of the new ones add
facts about new components only. Names are given in order, and those given first do not depend on
what follows. Only the text behind the last of the old statements is now told by someone else.

## Main definitions

* `Findings.Continues` says that findings begin with others, up to trailing texts.

## Main statements

* `Recorder.exists_run_closed` says that where nothing is open only facts about new components are
  added.
* `Extraction.continues_staged` compares findings, and `Extraction.continues_named` says that giving
  names keeps what was found.
* `Extraction.appending_only_adds` puts this together.
-/

namespace SourceLedger

open Outline (Event Gaps Reading component moduleEvents openingOf statementEvents)
open Syntax (Node)
open Text (SameBefore)

/-- Further facts are about later components. -/
def Owned.Continues {α : Type} (bound : Nat) (old new : List (Owned α)) : Prop :=
  ∃ later, new = old ++ later ∧ ∀ owned ∈ later, bound ≤ owned.owner

/-- The component as if no text followed it. -/
def Component.withoutTrailing (component : Component) : Component :=
  { component with segment := { component.segment with trailing := "" } }

/-- Findings begin with others: the first components are the same up to trailing texts, and so are
the facts about them. -/
structure Findings.Continues (old new : Findings) : Prop where
  components : (new.components.take old.components.length).map Component.withoutTrailing =
    old.components.map Component.withoutTrailing
  symbols : Owned.Continues old.components.length old.symbols new.symbols
  calls : Owned.Continues old.components.length old.calls new.calls
  imports : Owned.Continues old.components.length old.imports new.imports
  globals : Owned.Continues old.components.length old.globals new.globals
  decorators : Owned.Continues old.components.length old.decorators new.decorators

/-- The facts about an old component stay as they were. -/
theorem Owned.Continues.select_eq {α : Type} {bound position : Nat} {old new : List (Owned α)}
    (h : Continues bound old new) (hposition : position < bound) :
    select position new = select position old := by
  obtain ⟨later, rfl, hlater⟩ := h
  have hnone : later.filter (·.owner == position) = [] := by
    refine List.filter_eq_nil_iff.2 fun owned howned => ?_
    have howner := hlater owned howned
    simp only [beq_iff_eq]
    omega
  rw [select, select, List.filter_append, hnone, List.append_nil]

namespace Findings.Continues

variable {old new : Findings}

theorem exists_component (h : old.Continues new) {position : Nat} {component : Component}
    (hcomponent : old.components[position]? = some component) :
    ∃ other, new.components[position]? = some other ∧
      other.withoutTrailing = component.withoutTrailing := by
  obtain ⟨hposition, _⟩ := List.getElem?_eq_some_iff.1 hcomponent
  have hat := congrArg (·[position]?) h.components
  simp only [List.getElem?_map, List.getElem?_take_of_lt hposition, hcomponent,
    Option.map_some] at hat
  exact Option.map_eq_some_iff.1 hat

theorem factsAt_eq (h : old.Continues new) {component other : Component} {position : Nat}
    (hposition : position < old.components.length)
    (hsame : other.withoutTrailing = component.withoutTrailing) :
    new.factsAt other position = old.factsAt component position := by
  have hkept {α : Type} (field : Component → α)
      (hfield : ∀ component, field component.withoutTrailing = field component) :
      field other = field component := by
    rw [← hfield, hsame, hfield]
  simp only [factsAt, hkept Component.qualifiedName fun _ => rfl, hkept Component.kind fun _ => rfl,
    hkept Component.contentHash fun _ => rfl, hkept Component.structureHash fun _ => rfl,
    hkept Component.signature fun _ => rfl, h.calls.select_eq hposition,
    h.imports.select_eq hposition, h.symbols.select_eq hposition]

/-- The facts of all components begin with the old ones. -/
theorem facts_begin (h : old.Continues new) : old.facts <+: new.facts := by
  refine List.prefix_iff_getElem?.2 fun position hposition => ?_
  have hlength : position < old.components.length := by simpa [facts] using hposition
  obtain ⟨other, hother, hsame⟩ := h.exists_component (List.getElem?_eq_getElem hlength)
  simp [facts, hother, h.factsAt_eq hlength hsame]

end Findings.Continues

namespace Findings

/-- All facts are about components from some position on. -/
structure IsAbove (findings : Findings) (bound : Nat) : Prop where
  symbols : ∀ owned ∈ findings.symbols, bound ≤ owned.owner
  calls : ∀ owned ∈ findings.calls, bound ≤ owned.owner
  imports : ∀ owned ∈ findings.imports, bound ≤ owned.owner
  globals : ∀ owned ∈ findings.globals, bound ≤ owned.owner
  decorators : ∀ owned ∈ findings.decorators, bound ≤ owned.owner

theorem IsAbove.append {findings more : Findings} {bound : Nat} (h : findings.IsAbove bound)
    (hmore : more.IsAbove bound) : (findings ++ more).IsAbove bound where
  symbols := List.forall_mem_append.2 ⟨h.symbols, hmore.symbols⟩
  calls := List.forall_mem_append.2 ⟨h.calls, hmore.calls⟩
  imports := List.forall_mem_append.2 ⟨h.imports, hmore.imports⟩
  globals := List.forall_mem_append.2 ⟨h.globals, hmore.globals⟩
  decorators := List.forall_mem_append.2 ⟨h.decorators, hmore.decorators⟩

theorem isAbove_empty (bound : Nat) : IsAbove {} bound :=
  ⟨List.forall_mem_nil _, List.forall_mem_nil _, List.forall_mem_nil _, List.forall_mem_nil _,
    List.forall_mem_nil _⟩

end Findings

namespace Recorder

variable {recordReads : Bool} {bound : Nat}

theorem isAbove_increment (recordReads : Bool) {top : Option Frame}
    (h : ∀ frame ∈ top, bound ≤ frame.component) (event : Event) :
    (increment recordReads top event).IsAbove bound := by
  have hnoted {α : Type} (fact? : Frame → Option α) :
      ∀ owned ∈ Owned.noted top fact?, bound ≤ owned.owner := by
    rcases Owned.noted_cases top fact? with hnone | ⟨frame, fact, htop, _, hone⟩
    · simp [hnone]
    · simpa [hone] using h frame htop
  exact ⟨hnoted _, hnoted _, hnoted _, hnoted _, hnoted _⟩

/-- Where only components from some position on are open, only facts about such components are
added. -/
theorem exists_run_above (events : List Event) {recorder : Recorder}
    (hframes : ∀ frame ∈ recorder.stack, bound ≤ frame.component)
    (hbound : bound ≤ recorder.findings.components.length) :
    ∃ later, (recorder.run recordReads events).findings = recorder.findings ++ later ∧
      later.IsAbove bound := by
  induction events generalizing recorder with
  | nil => exact ⟨{}, recorder.findings.append_empty.symm, Findings.isAbove_empty bound⟩
  | cons event rest ih =>
    have htop : ∀ frame ∈ recorder.stack.head?, bound ≤ frame.component :=
      fun frame hframe => hframes frame (List.mem_of_mem_head? hframe)
    let added := increment recordReads recorder.stack.head? event
    let frames := following recorder.stack recorder.findings.components.length event
    have hnext : ∀ frame ∈ frames, bound ≤ frame.component := by
      intro frame hframe
      rcases mem_following hframe with hold | ⟨top, hhead, rfl⟩ | ⟨opening, _, rfl⟩
      · exact hframes frame hold
      · rw [Frame.component_next]
        exact htop top hhead
      · exact hbound
    have hcount : bound ≤ (recorder.findings ++ added).components.length := by
      rw [Findings.append_def, Findings.append, List.length_append]
      omega
    rw [run_cons, step_eq]
    obtain ⟨later, hlater, habove⟩ := @ih ⟨recorder.findings ++ added, frames⟩ hnext hcount
    refine ⟨added ++ later, ?_, (isAbove_increment recordReads htop event).append habove⟩
    rw [← Findings.append_assoc]
    exact hlater

/-- Where nothing is open, only facts about new components are added. -/
theorem exists_run_closed (recordReads : Bool) (events : List Event) {recorder : Recorder}
    (h : recorder.stack = []) :
    ∃ later, (recorder.run recordReads events).findings = recorder.findings ++ later ∧
      later.IsAbove recorder.findings.components.length :=
  exists_run_above events (by simp [h]) (Nat.le_refl _)

/-- What the text behind a statement at top level is makes no difference to what is found, apart
from the component of the statement itself. -/
theorem run_statement {recorder : Recorder} (hstack : recorder.stack = []) (recordReads : Bool)
    (reading : Reading) (node : Node) (leading trailing trailing' : Option String) :
    ∃ new, (recorder.run recordReads (component reading ⟨leading, trailing⟩ node)).findings =
        recorder.findings ++ increment recordReads none
          (.enter (openingOf reading ⟨leading, trailing⟩ node)) ++ new ∧
      (recorder.run recordReads (component reading ⟨leading, trailing'⟩ node)).findings =
        recorder.findings ++ increment recordReads none
          (.enter (openingOf reading ⟨leading, trailing'⟩ node)) ++ new := by
  let opened (trailing : Option String) : Recorder :=
    ⟨recorder.findings ++ increment recordReads none
        (.enter (openingOf reading ⟨leading, trailing⟩ node)),
      following [] recorder.findings.components.length
        (.enter (openingOf reading ⟨leading, trailing⟩ node))⟩
  have hopened (trailing : Option String) : recorder.step recordReads
      (.enter (openingOf reading ⟨leading, trailing⟩ node)) = opened trailing := by
    rw [step_eq, hstack]
    rfl
  have hcount : (opened trailing).findings.components.length =
      (opened trailing').findings.components.length := by
    simp [opened, Findings.append_def, Findings.append, increment]
  rw [Outline.component_eq, Outline.component_eq, run_cons, run_cons, hopened, hopened]
  -- The frame that opens knows nothing of the gaps.
  exact (@run_add recordReads _ (opened trailing) (opened trailing') rfl hcount).2

end Recorder

namespace Outline

theorem statementEvents_cons (reading : Reading) (cursor : Nat) (statement : Node)
    {rest : List Node} (h : rest ≠ []) :
    statementEvents reading cursor (statement :: rest) =
      component reading ⟨Text.slice? reading.source cursor statement.start, some ""⟩ statement ++
        statementEvents reading statement.stop rest := by
  cases rest with
  | nil => exact absurd rfl h
  | cons next rest => rfl

theorem exists_trailing (reading : Reading) (cursor : Nat) (statement : Node) (rest : List Node) :
    ∃ trailing, statementEvents reading cursor (statement :: rest) =
      component reading ⟨Text.slice? reading.source cursor statement.start, trailing⟩ statement ++
        statementEvents reading statement.stop rest := by
  cases rest with
  | nil => exact ⟨_, (List.append_nil _).symm⟩
  | cons next rest => exact ⟨some "", rfl⟩

theorem moduleEvents_eq (reading : Reading) {root : Node} (h : root.namedChildren ≠ []) :
    moduleEvents reading root = statementEvents reading 0 root.namedChildren := by
  unfold moduleEvents
  split
  · rename_i hnone
    exact absurd hnone h
  · rfl

end Outline

section Events

variable {source source' : String} {bound : Nat} (h : SameBefore source source' bound)
include h

theorem agreeOn_of_sameBefore {root : Node}
    (hinside : ∀ node ∈ root.preorder, node.start ≤ bound ∧ node.stop ≤ bound) :
    Reading.AgreeOn ⟨source, .ofText source⟩ ⟨source', .ofText source'⟩ root where
  text := fun node hnode => h.slice?_eq node.start (hinside node hnode).2
  line := fun node hnode => h.firstLine_eq (hinside node hnode).1
  lastLine := fun node hnode => h.lastLine_eq (hinside node hnode).1 (hinside node hnode).2

/-- The statements in front of the last common one have the same events in both files, and leave
nothing open. -/
theorem statementEvents_common {statements : List Node}
    (hinside : ∀ statement ∈ statements, ∀ node ∈ statement.preorder,
      node.start ≤ bound ∧ node.stop ≤ bound) (last : Node) (more : List Node) (cursor : Nat) :
    ∃ front cursor',
      statementEvents ⟨source, .ofText source⟩ cursor (statements ++ [last]) =
        front ++ statementEvents ⟨source, .ofText source⟩ cursor' [last] ∧
      statementEvents ⟨source', .ofText source'⟩ cursor (statements ++ last :: more) =
        front ++ statementEvents ⟨source', .ofText source'⟩ cursor' (last :: more) ∧
      ∀ recordReads (recorder : Recorder), recorder.stack = [] →
        (recorder.run recordReads front).stack = [] := by
  induction statements generalizing cursor with
  | nil => exact ⟨[], cursor, rfl, rfl, fun _ _ hstack => hstack⟩
  | cons statement rest ih =>
    obtain ⟨hstatement, hrest⟩ := List.forall_mem_cons.1 hinside
    obtain ⟨front, cursor', hfirst, hsecond, hfront⟩ := ih hrest statement.stop
    have hstart := (hstatement statement statement.mem_preorder_self).1
    let gaps : Gaps := ⟨Text.slice? source cursor statement.start, some ""⟩
    let events := component ⟨source, .ofText source⟩ gaps statement
    have hevents : component ⟨source', .ofText source'⟩
        ⟨Text.slice? source' cursor statement.start, some ""⟩ statement = events := by
      rw [← h.slice?_eq cursor hstart]
      exact ((agreeOn_of_sameBefore h hstatement).component_eq gaps).symm
    refine ⟨events ++ front, cursor', ?_, ?_, fun recordReads recorder hstack => ?_⟩
    · rw [List.cons_append, Outline.statementEvents_cons _ _ _ (by simp), hfirst, List.append_assoc]
    · rw [List.cons_append, Outline.statementEvents_cons _ _ _ (by simp), hsecond, hevents,
        List.append_assoc]
    · rw [Recorder.run_append]
      exact hfront recordReads _ (Recorder.run_component hstack recordReads _ gaps statement).1

/-- A file that begins with the statements of another one has the same events up to the last of
them, but for the text behind it. -/
theorem moduleEvents_common {root root' last : Node} {statements more : List Node}
    (hinside : ∀ statement ∈ statements ++ [last], ∀ node ∈ statement.preorder,
      node.start ≤ bound ∧ node.stop ≤ bound)
    (hroot : root.namedChildren = statements ++ [last])
    (hroot' : root'.namedChildren = statements ++ last :: more) :
    ∃ front leading trailing trailing',
      moduleEvents ⟨source, .ofText source⟩ root =
        front ++ component ⟨source, .ofText source⟩ ⟨leading, trailing⟩ last ∧
      moduleEvents ⟨source', .ofText source'⟩ root' =
        front ++ (component ⟨source, .ofText source⟩ ⟨leading, trailing'⟩ last ++
          statementEvents ⟨source', .ofText source'⟩ last.stop more) ∧
      ∀ recordReads (recorder : Recorder), recorder.stack = [] →
        (recorder.run recordReads front).stack = [] := by
  obtain ⟨hstatements, hlast⟩ := List.forall_mem_append.1 hinside
  have hnodes := hlast last (List.mem_singleton.2 rfl)
  obtain ⟨front, cursor, hfirst, hsecond, hclosed⟩ :=
    statementEvents_common h hstatements last more 0
  obtain ⟨trailing, hfile⟩ := Outline.exists_trailing ⟨source, .ofText source⟩ cursor last []
  obtain ⟨trailing', hfile'⟩ := Outline.exists_trailing ⟨source', .ofText source'⟩ cursor last more
  have hleading : Text.slice? source cursor last.start = Text.slice? source' cursor last.start :=
    h.slice?_eq cursor (hnodes last last.mem_preorder_self).1
  refine ⟨front, Text.slice? source cursor last.start, trailing, trailing', ?_, ?_, hclosed⟩
  · rw [Outline.moduleEvents_eq _ (by simp [hroot]), hroot, hfirst, hfile]
    exact congrArg (front ++ ·) (List.append_nil _)
  · rw [Outline.moduleEvents_eq _ (by simp [hroot']), hroot', hsecond, hfile', hleading,
      (agreeOn_of_sameBefore h hnodes).component_eq]

end Events

namespace Naming

theorem isUnnoticed_withoutTrailing : IsUnnoticed Component.withoutTrailing :=
  ⟨fun _ => rfl, fun _ => rfl, fun _ => rfl, fun _ _ _ => rfl⟩

theorem run_append {policy : DuplicatePolicy} {state after : State} {front rest : List Component}
    (h : run policy state (front ++ rest) = .ok after) :
    ∃ middle, run policy state front = .ok middle ∧ run policy middle rest = .ok after := by
  induction front generalizing state with
  | nil => exact ⟨state, rfl, h⟩
  | cons component front ih =>
    rw [List.cons_append, run] at h
    rw [run]
    cases hstep : step policy state component with
    | ok next =>
      rw [hstep] at h
      exact ih h
    | error base => simp [hstep] at h

/-- Names that are given first do not depend on what follows. -/
theorem assign_append {policy : DuplicatePolicy} {front rest named : List Component}
    (h : assign policy (front ++ rest) = .ok named) :
    ∃ first, assign policy front = .ok first ∧ first <+: named := by
  unfold assign at h
  cases hrun : run policy {} (front ++ rest) with
  | error base => simp [hrun, Except.map] at h
  | ok after =>
    obtain rfl : after.done = named := by simpa [hrun, Except.map] using h
    obtain ⟨middle, hmiddle, hrest⟩ := run_append hrun
    exact ⟨middle.done, by rw [assign, hmiddle]; rfl, prefix_run hrest⟩

end Naming

namespace Extraction

/-- Components with different texts behind them make no difference, and neither does what is found
later about later components. -/
theorem continues_append {recordReads : Bool} {reading : Reading} {node : Node}
    {leading trailing trailing' : Option String} {front new later : Findings}
    (hlater : later.IsAbove (front ++ Recorder.increment recordReads none
      (.enter (openingOf reading ⟨leading, trailing'⟩ node)) ++ new).components.length) :
    (front ++ Recorder.increment recordReads none
        (.enter (openingOf reading ⟨leading, trailing⟩ node)) ++ new).Continues
      (front ++ Recorder.increment recordReads none
        (.enter (openingOf reading ⟨leading, trailing'⟩ node)) ++ new ++ later) := by
  have hcount : (front ++ Recorder.increment recordReads none
        (.enter (openingOf reading ⟨leading, trailing⟩ node)) ++ new).components.length =
      (front ++ Recorder.increment recordReads none
        (.enter (openingOf reading ⟨leading, trailing'⟩ node)) ++ new).components.length := by
    simp [Findings.append_def, Findings.append, Recorder.increment]
  rw [← hcount] at hlater
  refine
    { components := ?_
      symbols := ⟨later.symbols, rfl, hlater.symbols⟩
      calls := ⟨later.calls, rfl, hlater.calls⟩
      imports := ⟨later.imports, rfl, hlater.imports⟩
      globals := ⟨later.globals, rfl, hlater.globals⟩
      decorators := ⟨later.decorators, rfl, hlater.decorators⟩ }
  rw [hcount, Findings.append_def _ later, Findings.append, List.take_left]
  simp only [Findings.append_def, Findings.append, List.map_append]
  rfl

/-- The findings in a file begin with those in another one, if the file begins with the statements
of the other one. -/
theorem continues_staged {source source' : String} {root root' last : Node}
    {statements more : List Node} (hroot : root.namedChildren = statements ++ [last])
    (hroot' : root'.namedChildren = statements ++ last :: more)
    (hinside : ∀ statement ∈ statements ++ [last], ∀ node ∈ statement.preorder,
      node.start ≤ last.stop ∧ node.stop ≤ last.stop)
    (hbytes : SameBefore source source' last.stop) (path path' : String) (recordReads : Bool) :
    (staged path source ⟨root, .ofText source⟩ recordReads).toFindings.Continues
      (staged path' source' ⟨root', .ofText source'⟩ recordReads).toFindings := by
  let reading : Reading := ⟨source, .ofText source⟩
  let reading' : Reading := ⟨source', .ofText source'⟩
  obtain ⟨front, leading, trailing, trailing', hevents, hevents', hclosed⟩ :=
    moduleEvents_common hbytes hinside hroot hroot'
  have hstack := hclosed recordReads {} rfl
  obtain ⟨new, hrun, hrun'⟩ :=
    Recorder.run_statement hstack recordReads reading last leading trailing trailing'
  -- Behind the last common statement nothing is open.
  have hopen := (Recorder.run_component hstack recordReads reading ⟨leading, trailing'⟩ last).1
  obtain ⟨later, hlater, habove⟩ :=
    Recorder.exists_run_closed recordReads (statementEvents reading' last.stop more) hopen
  change (Recorder.run recordReads {} (moduleEvents reading root)).findings.Continues
    (Recorder.run recordReads {} (moduleEvents reading' root')).findings
  rw [hevents, hevents', Recorder.run_append, Recorder.run_append, Recorder.run_append, hrun,
    hlater, hrun']
  rw [hrun'] at habove
  exact continues_append habove

theorem assign_of_named {extraction named : Extraction} {policy : DuplicatePolicy}
    (h : extraction.named policy = .ok named) :
    Naming.assign policy extraction.components = .ok named.components := by
  unfold Extraction.named at h
  split at h
  · rename_i components hassign
    obtain rfl := Except.ok.inj h
    exact hassign
  · simp at h

theorem length_of_named {extraction named : Extraction} {policy : DuplicatePolicy}
    (h : extraction.named policy = .ok named) :
    named.components.length = extraction.components.length := by
  simpa using congrArg List.length (named_ok h).2.1

/-- Giving names in both files keeps what was found. -/
theorem continues_named {first second named named' : Extraction} {policy : DuplicatePolicy}
    (h : first.toFindings.Continues second.toFindings) (hfirst : first.named policy = .ok named)
    (hsecond : second.named policy = .ok named') :
    named.toFindings.Continues named'.toFindings := by
  have hassign := assign_of_named hfirst
  have hcount := length_of_named hfirst
  have hassign' := assign_of_named hsecond
  rw [← List.take_append_drop first.components.length second.components] at hassign'
  obtain ⟨common, hcommon, hbegins⟩ := Naming.assign_append hassign'
  -- Trailing texts go unnoticed, so the common components get the same names in both files.
  have hnames : common.map Component.withoutTrailing =
      named.components.map Component.withoutTrailing := by
    have hboth := congrArg (Naming.assign policy) h.components
    rw [Naming.assign_map Naming.isUnnoticed_withoutTrailing,
      Naming.assign_map Naming.isUnnoticed_withoutTrailing, hcommon, hassign] at hboth
    exact Except.ok.inj hboth
  have hlength : common.length = named.components.length := by
    simpa using congrArg List.length hnames
  have hcomponents : (named'.components.take named.components.length).map
      Component.withoutTrailing = named.components.map Component.withoutTrailing := by
    rw [← hlength, ← List.prefix_iff_eq_take.1 hbegins, hnames]
  rw [(named_ok hfirst).2.2, (named_ok hsecond).2.2]
  exact
    { components := hcomponents
      symbols := hcount ▸ h.symbols
      calls := hcount ▸ h.calls
      imports := hcount ▸ h.imports
      globals := hcount ▸ h.globals
      decorators := hcount ▸ h.decorators }

/-- Putting statements behind those of a file only adds components. Those that were there are the
first ones, the same up to trailing texts and with the same facts, and a comparison of the two files
counts them as unchanged and all others as added.

The nodes of the old statements are taken to end in front of the end of the last statement. This is
so in every tree that a parser makes for a text: the range of a node holds those of its children,
and statements stand one after another. -/
theorem appending_only_adds {path path' source source' : String} {root root' last : Node}
    {statements more : List Node} {options : ExtractOptions} {first second : Extraction}
    (hfirst : extract path source ⟨root, .ofText source⟩ options = .ok first)
    (hsecond : extract path' source' ⟨root', .ofText source'⟩ options = .ok second)
    (hroot : root.namedChildren = statements ++ [last])
    (hroot' : root'.namedChildren = statements ++ [last] ++ more)
    (hinside : ∀ statement ∈ statements ++ [last], ∀ node ∈ statement.preorder,
      node.start ≤ last.stop ∧ node.stop ≤ last.stop)
    (hbytes : SameBefore source source' last.stop) :
    first.toFindings.Continues second.toFindings ∧
      (Drift.compare first.facts second.facts).summary =
        { added := second.components.length - first.components.length
          removed := 0
          modified := 0
          unchanged := first.components.length } := by
  rw [List.append_assoc] at hroot'
  have hcontinues : first.toFindings.Continues second.toFindings :=
    continues_named (continues_staged hroot hroot' hinside hbytes path path' options.recordReads)
      (extract_ok hfirst).2 (extract_ok hsecond).2
  have hnames : (Drift.names second.facts).Nodup := by
    rw [Findings.names_facts]
    exact (wellFormed_extract hsecond).named.unique
  have hlength (findings : Findings) : findings.facts.length = findings.components.length := by
    simp [Findings.facts]
  refine ⟨hcontinues, ?_⟩
  rw [Drift.summary_compare_beginning hnames hcontinues.facts_begin, hlength, hlength]

/-- A module of assignments of one letter. -/
def letterModule (starts : List Nat) (stop : Nat) : Node :=
  .mk { kind := "module", start := 0, stop } (starts.map (letterAssignment · "integer"))

/-- One more assignment to the same name is one more component, and the blank lines in front of it
no longer belong to the one before. -/
theorem appending_only_adds_assignment :
    let source := "x = 1\nx = 2\n"
    let source' := "x = 1\nx = 2\n\nx = 3\n"
    ∃ first second,
      extract "a.py" source ⟨letterModule [0, 6] 12, .ofText source⟩ {} = .ok first ∧
      extract "a.py" source' ⟨letterModule [0, 6, 13] 19, .ofText source'⟩ {} = .ok second ∧
      first.toFindings.Continues second.toFindings ∧
      (Drift.compare first.facts second.facts).summary = ⟨1, 0, 0, 2⟩ := by
  intro source source'
  obtain ⟨first, hfirst⟩ : ∃ first,
      extract "a.py" source ⟨letterModule [0, 6] 12, .ofText source⟩ {} = .ok first :=
    exists_extract rfl (by decide)
  obtain ⟨second, hsecond⟩ : ∃ second,
      extract "a.py" source' ⟨letterModule [0, 6, 13] 19, .ofText source'⟩ {} = .ok second :=
    exists_extract rfl (by decide)
  have hroot : (letterModule [0, 6] 12).namedChildren =
      [letterAssignment 0 "integer"] ++ [letterAssignment 6 "integer"] := rfl
  have hroot' : (letterModule [0, 6, 13] 19).namedChildren =
      [letterAssignment 0 "integer"] ++ [letterAssignment 6 "integer"] ++
        [letterAssignment 13 "integer"] := rfl
  obtain ⟨hcontinues, hsummary⟩ := appending_only_adds hfirst hsecond hroot hroot' (by decide)
    (by decide +kernel)
  have hlength : first.components.length = 2 := by
    rw [length_of_named (extract_ok hfirst).2]
    decide +kernel
  have hlength' : second.components.length = 3 := by
    rw [length_of_named (extract_ok hsecond).2]
    decide +kernel
  rw [hlength, hlength'] at hsummary
  exact ⟨first, second, hfirst, hsecond, hcontinues, hsummary⟩

end Extraction

end SourceLedger
