import Mathlib.Data.List.Forall2
import SourceLedger.Proofs.Arena
import SourceLedger.Proofs.Enclosure
import SourceLedger.Proofs.Increment

/-!
# Who owns what is found

A recorder that follows the events of a tour writes down a component for each visit that opens one,
and what is found at each visit that finds something: a call, or all that an import statement lists.
Components stand in the order in which they are visited, so a position among them is a place of the
tour: the parent of a component and the owner of what is found are the positions of the component
around the visit.

## Main definitions

* `Component.IsAt`, `CallSite.IsAt` and `ImportRecord.AreAt` say that a component, a call or some
  imports are those of a visit.
* `Recorder.Reports` relates a recorder to one that has followed a tour.

## Main statements

* `Recorder.reports_run` is the run along a tour.
* `Extraction.IsTaken.reports` finds what is taken from a text in the tour of its tree: the
  components and the calls. `exists_imports_run` finds the imports.
* `Extraction.IsTaken.standsIn` gives every component its place and its parent.
-/

namespace SourceLedger.Outline

/-- A place lies below another one. -/
def Place.IsBelow (place outer : Place) : Prop :=
  outer.path <+: place.path ∧ outer.path ≠ place.path

/-- The position of the innermost of some places around a place. -/
def IsParent (places : List Place) (place : Place) : Option Nat → Prop
  | none => ∀ outer ∈ places, ¬ place.IsBelow outer
  | some position => ∃ outer, places[position]? = some outer ∧ place.IsBelow outer ∧
      ∀ other ∈ places, place.IsBelow other → other.path <+: outer.path

end SourceLedger.Outline

namespace SourceLedger

open Outline (Event IsParent Opening Place Reading Sought Tells Visit entered fileTour
  importRecords)

/-- A component is the one that opens at a visit. The component around the visit is given by its
place among all components, and by its position in the list of them. -/
structure Component.IsAt (component : Component) (reading : Reading) (places : List Place)
    (visit : Visit) : Prop where
  start : component.start = visit.place.node.start
  stop : component.stop = visit.place.node.stop
  firstLine : component.firstLine = reading.line visit.place.node
  lastLine : component.lastLine = reading.lastLine visit.place.node
  structureHash : component.structureHash = digest (visit.place.node.canonical reading.source)
  parent : Option.Rel (fun place position => places[position]? = some place) visit.under
    component.parent

/-- A call is the one that is found at a visit. -/
structure CallSite.IsAt (call : Owned CallSite) (reading : Reading) (places : List Place)
    (visit : Visit) : Prop where
  callee : reading.compactChild? visit.place.node "function" = some call.fact.callee
  line : call.fact.line = reading.line visit.place.node
  owner : ∃ place, visit.under = some place ∧ places[call.owner]? = some place

/-- Some imports are those of a statement that is found at a visit. -/
def ImportRecord.AreAt (group : List (Owned ImportRecord)) (reading : Reading)
    (places : List Place) (visit : Visit) : Prop :=
  ∃ place position, visit.under = some place ∧ places[position]? = some place ∧
    group = (importRecords reading visit.place.node).map (⟨position, ·⟩)

theorem rel_append {places : List Place} {under : Option Place} {position : Option Nat}
    (h : Option.Rel (fun place position => places[position]? = some place) under position)
    (more : List Place) :
    Option.Rel (fun place position => (places ++ more)[position]? = some place) under
      position := by
  cases h with
  | some h => exact .some (List.getElem?_append_left (List.getElem?_eq_some_iff.1 h).1 ▸ h)
  | none => exact .none

theorem Component.IsAt.append {component : Component} {reading : Reading} {places : List Place}
    {visit : Visit} (h : component.IsAt reading places visit) (more : List Place) :
    component.IsAt reading (places ++ more) visit :=
  { h with parent := rel_append h.parent more }

theorem CallSite.IsAt.append {call : Owned CallSite} {reading : Reading} {places : List Place}
    {visit : Visit} (h : IsAt call reading places visit) (more : List Place) :
    IsAt call reading (places ++ more) visit := by
  obtain ⟨place, hunder, hplace⟩ := h.owner
  refine { h with owner := ⟨place, hunder, ?_⟩ }
  rw [List.getElem?_append_left (List.getElem?_eq_some_iff.1 hplace).1, hplace]

theorem ImportRecord.AreAt.append {group : List (Owned ImportRecord)} {reading : Reading}
    {places : List Place} {visit : Visit} (h : AreAt group reading places visit)
    (more : List Place) : AreAt group reading (places ++ more) visit := by
  obtain ⟨place, position, hunder, hplace, hgroup⟩ := h
  refine ⟨place, position, hunder, ?_, hgroup⟩
  rw [List.getElem?_append_left (List.getElem?_eq_some_iff.1 hplace).1, hplace]

/-- What is looked for is written down for some visits that find it, and nothing else of its
kind. -/
def Outline.Sought.IsNoted (sought : Sought) (reading : Reading) (places : List Place)
    (visits : List Visit) (before after : Findings) : Prop :=
  match sought with
  | .calls => ∃ new, after.calls = before.calls ++ new ∧
      List.Forall₂ (fun visit call => CallSite.IsAt call reading places visit) visits new
  | .imports => ∃ groups, after.imports = before.imports ++ groups.flatten ∧
      List.Forall₂ (fun visit group => ImportRecord.AreAt group reading places visit) visits groups

namespace Outline.Sought.IsNoted

variable {sought : Sought} {reading : Reading} {places more : List Place}
  {visits others : List Visit} {first second third : Findings}

/-- Nothing of the kind has been written down. -/
theorem nil (hcalls : sought = .calls → second.calls = first.calls)
    (himports : sought = .imports → second.imports = first.imports) :
    sought.IsNoted reading places [] first second := by
  cases sought with
  | calls => exact ⟨[], by rw [hcalls rfl, List.append_nil], .nil⟩
  | imports => exact ⟨[], by rw [himports rfl, List.flatten_nil, List.append_nil], .nil⟩

theorem append (h : sought.IsNoted reading places visits first second)
    (h' : sought.IsNoted reading (places ++ more) others second third) :
    sought.IsNoted reading (places ++ more) (visits ++ others) first third := by
  cases sought with
  | calls =>
    obtain ⟨new, hnew, hcalls⟩ := h
    obtain ⟨new', hnew', hcalls'⟩ := h'
    refine ⟨new ++ new', by rw [hnew', hnew, List.append_assoc], ?_⟩
    exact List.rel_append (hcalls.imp fun _ _ hat => hat.append _) hcalls'
  | imports =>
    obtain ⟨groups, hgroups, himports⟩ := h
    obtain ⟨groups', hgroups', himports'⟩ := h'
    refine ⟨groups ++ groups', ?_, ?_⟩
    · rw [hgroups', hgroups, List.append_assoc, List.flatten_append]
    · exact List.rel_append (himports.imp fun _ _ hat => hat.append _) himports'

/-- Only what is looked for matters. -/
theorem congr (h : sought.IsNoted reading places visits first third)
    (hcalls : first.calls = second.calls) (himports : first.imports = second.imports) :
    sought.IsNoted reading places visits second third := by
  cases sought with
  | calls =>
    obtain ⟨new, hnew, hall⟩ := h
    exact ⟨new, hcalls ▸ hnew, hall⟩
  | imports =>
    obtain ⟨groups, hgroups, hall⟩ := h
    exact ⟨groups, himports ▸ hgroups, hall⟩

end Outline.Sought.IsNoted

namespace Recorder

/-- A recorder that has components in some places has followed some visits: it has written down
their components and what they find, and the same components are open as before. -/
structure Reports (reading : Reading) (sought : Sought) (places : List Place)
    (visits : List Visit) (before after : Recorder) : Prop where
  stack : after.stack.map Frame.bare = before.stack.map Frame.bare
  components : ∃ new, after.findings.components = before.findings.components ++ new ∧
    List.Forall₂ (fun visit component =>
      Component.IsAt component reading (places ++ entered visits) visit)
      (visits.filter (·.opens)) new
  found : sought.IsNoted reading (places ++ entered visits) (visits.filter (!·.opens))
    before.findings after.findings

variable {reading : Reading} {sought : Sought} {places : List Place}

theorem Reports.refl (recorder : Recorder) :
    Reports reading sought places [] recorder recorder :=
  ⟨rfl, ⟨[], by simp, .nil⟩, .nil (fun _ => rfl) fun _ => rfl⟩

theorem Reports.trans {visits more : List Visit} {first second third : Recorder}
    (h : Reports reading sought places visits first second)
    (h' : Reports reading sought (places ++ entered visits) more second third) :
    Reports reading sought places (visits ++ more) first third := by
  obtain ⟨hstack, ⟨new, hnew, hcomponents⟩, hfound⟩ := h
  obtain ⟨hstack', ⟨new', hnew', hcomponents'⟩, hfound'⟩ := h'
  refine ⟨hstack'.trans hstack, ⟨new ++ new', ?_, ?_⟩, ?_⟩
  · rw [hnew', hnew, List.append_assoc]
  · rw [List.filter_append, Outline.entered_append, ← List.append_assoc]
    exact List.rel_append (hcomponents.imp fun _ _ hat => hat.append _) hcomponents'
  · rw [List.filter_append, Outline.entered_append, ← List.append_assoc]
    exact hfound.append hfound'

/-- A recorder has written down as many components as there are places. -/
theorem Reports.length {visits : List Visit} {before after : Recorder}
    (h : Reports reading sought places visits before after)
    (hlength : places.length = before.findings.components.length) :
    (places ++ entered visits).length = after.findings.components.length := by
  obtain ⟨new, hnew, hcomponents⟩ := h.components
  rw [hnew, List.length_append, List.length_append, hlength, entered, List.length_map,
    hcomponents.length_eq]

section Steps

variable (recorder : Recorder)

/-- Opening a component finds nothing. -/
theorem found_openComponent (opening : Opening) :
    (recorder.openComponent opening).findings.calls = recorder.findings.calls ∧
      (recorder.openComponent opening).findings.imports = recorder.findings.imports := by
  have hstep := recorder.step_eq true (.enter opening)
  change recorder.openComponent opening = _ at hstep
  rw [hstep]
  simp [Findings.append_def, Findings.append, increment, Owned.noted]

/-- An event that neither opens nor closes a component and is not looked for adds neither. -/
theorem reports_quiet (reading : Reading) (places : List Place) (recordReads : Bool)
    {event : Event} (h : event.isQuiet sought) :
    Reports reading sought places [] recorder (recorder.step recordReads event) := by
  have hfound : sought.IsNoted reading (places ++ entered []) [] recorder.findings
      (recorder.step recordReads event).findings := by
    rw [step_eq]
    refine .nil ?_ ?_
    · rintro rfl
      cases event with
      | call => simp [Event.isQuiet] at h
      | _ => simp [Findings.append_def, Findings.append, increment, Owned.noted]
    · rintro rfl
      cases event with
      | imports => simp [Event.isQuiet] at h
      | _ => simp [Findings.append_def, Findings.append, increment, Owned.noted]
  by_cases hplain : event.isPlain
  · have hnotes := recorder.notes_step recordReads hplain
    exact ⟨hnotes.stack, ⟨[], by simp [hnotes.components], .nil⟩, hfound⟩
  · cases event with
    | decorate decorator =>
      refine ⟨?_, ⟨[], ?_, .nil⟩, hfound⟩
      · simp only [step, addDecorator]
        split <;> rfl
      · simp only [step, addDecorator, List.append_nil]
        split <;> rfl
    | enter | leave => simp [Event.isQuiet] at h
    | _ => exact absurd rfl hplain

theorem reports_call (recordReads : Bool) {under place : Place} {callee : String}
    (hcallee : reading.compactChild? place.node "function" = some callee)
    (hunder : Option.Rel (fun place position => places[position]? = some place) (some under)
      recorder.current?) :
    Reports reading .calls places [⟨place, false, some under⟩] recorder
      (recorder.step recordReads (.call ⟨callee, reading.line place.node⟩)) := by
  simp only [step, addCall]
  cases hstack : recorder.stack with
  | nil =>
    rw [current?, hstack] at hunder
    cases hunder
  | cons frame below =>
    rw [current?, hstack] at hunder
    cases hunder with
    | some howner =>
      refine ⟨by simp [hstack], ⟨[], by simp, .nil⟩, _, rfl, ?_⟩
      refine .cons ⟨hcallee, rfl, under, rfl, ?_⟩ .nil
      simpa [entered] using howner

/-- What a statement imports is written down for the component that is open. -/
theorem run_imports (recordReads : Bool) {position : Nat} (h : recorder.current? = some position)
    (records : List ImportRecord) :
    let after := recorder.run recordReads (records.map .imports)
    after.stack.map Frame.bare = recorder.stack.map Frame.bare ∧
      after.findings.components = recorder.findings.components ∧
      after.findings.imports = recorder.findings.imports ++ records.map (⟨position, ·⟩) := by
  induction records generalizing recorder with
  | nil => exact ⟨rfl, rfl, (List.append_nil _).symm⟩
  | cons record rest ih =>
    have hplain : (Event.imports record).isPlain := rfl
    have hnotes := recorder.notes_step recordReads hplain
    have himports : (recorder.step recordReads (.imports record)).findings.imports =
        recorder.findings.imports ++ [⟨position, record⟩] := by
      obtain ⟨frame, hframe, rfl⟩ := Option.map_eq_some_iff.1 h
      rw [step_eq, hframe]
      rfl
    obtain ⟨hstack, hcomponents, hrest⟩ := ih (recorder.step recordReads (.imports record))
      ((current?_eq hnotes.stack).trans h)
    refine ⟨hstack.trans hnotes.stack, hcomponents.trans hnotes.components, ?_⟩
    rw [List.map_cons, run_cons, hrest, himports, List.append_assoc]
    rfl

/-- What is looked for is written down where it is found. -/
theorem reports_found (recordReads : Bool) {under place : Place}
    (hfound : sought.isAt place.node)
    (hunder : Option.Rel (fun place position => places[position]? = some place) (some under)
      recorder.current?) :
    Reports reading sought places [⟨place, false, some under⟩] recorder
      (recorder.run recordReads (sought.events reading place.node)) := by
  cases sought with
  | calls =>
    obtain ⟨function, hfunction⟩ := Option.isSome_iff_exists.1 (Bool.and_eq_true_iff.1 hfound).2
    have hcallee : reading.compactChild? place.node "function" =
        some (reading.compact function) := by rw [Reading.compactChild?, hfunction]; rfl
    simp only [Sought.events, Outline.callEvents, hcallee]
    exact recorder.reports_call recordReads hcallee hunder
  | imports =>
    generalize hcurrent : recorder.current? = current at hunder
    cases hunder with
    | @some _ position howner =>
      obtain ⟨hstack, hcomponents, himports⟩ :=
        recorder.run_imports recordReads hcurrent (importRecords reading place.node)
      refine ⟨hstack, ⟨[], ?_, .nil⟩, [_], ?_, .cons ⟨under, position, rfl, ?_, rfl⟩ .nil⟩
      · exact hcomponents.trans (List.append_nil _).symm
      · exact himports.trans (by rw [List.flatten_singleton])
      · simpa [entered] using howner

end Steps

/-- A component that opens and closes again is written down, and so is what was found in it. -/
theorem Reports.component {under : Option Place} {place : Place} {found : List Visit}
    {opening : Opening} {before after : Recorder}
    (hopening : opening.IsAt reading place.node)
    (hunder : Option.Rel (fun place position => places[position]? = some place) under
      before.current?)
    (h : Reports reading sought (places ++ [place]) found (before.openComponent opening) after) :
    Reports reading sought places (⟨place, true, under⟩ :: found) before
      { after with stack := after.stack.tail } := by
  obtain ⟨noted, hnoted, heq⟩ := before.openComponent_eq opening
  obtain ⟨hstack, ⟨new, hnew, hcomponents⟩, hfound⟩ := h
  obtain ⟨hcalls, himports⟩ := before.found_openComponent opening
  have hplaces : places ++ entered (⟨place, true, under⟩ :: found) =
      places ++ [place] ++ entered found := by simp [entered]
  refine ⟨?_, ⟨componentOf opening before.stack.head? :: new, ?_, ?_⟩, ?_⟩
  · rw [List.map_tail, hstack, heq]
    exact hnoted.stack
  · rw [hnew, components_openComponent, List.append_assoc]
    rfl
  · rw [hplaces, List.append_assoc]
    refine .cons ⟨hopening.start, hopening.stop, hopening.firstLine, hopening.lastLine, ?_,
      rel_append hunder _⟩ ?_
    · rw [componentOf, hopening.canonical]
    · rwa [List.append_assoc] at hcomponents
  · rw [hplaces]
    exact hfound.congr hcalls himports

/-- A recorder that follows a tour writes down its components and what it finds. -/
theorem reports_run {under : Option Place} {events : List Event} {visits : List Visit}
    (h : Tells reading sought under events visits) (recordReads : Bool) {recorder : Recorder}
    (hlength : places.length = recorder.findings.components.length)
    (hunder : Option.Rel (fun place position => places[position]? = some place) under
      recorder.current?) :
    Reports reading sought places visits recorder (recorder.run recordReads events) := by
  -- The places are those of the components that the recorder has written down so far.
  induction h generalizing recorder places with
  | nil => exact .refl recorder
  | quiet hquiet _ ih =>
    have hstep := recorder.reports_quiet reading places recordReads hquiet
    refine hstep.trans (ih ?_ ?_)
    · exact hstep.length hlength
    · rw [current?_eq hstep.stack]
      exact rel_append hunder _
  | found hfound _ ih =>
    have hstep : Reports reading sought places _ recorder _ :=
      recorder.reports_found recordReads hfound hunder
    rw [run_append]
    refine hstep.trans (ih ?_ ?_)
    · exact hstep.length hlength
    · rw [current?_eq hstep.stack]
      exact rel_append hunder _
  | @component under place opening inside rest found visits hopening _ _ ihinside ihrest =>
    have hinside : Reports reading sought (places ++ [place]) found
        (recorder.openComponent opening)
        ((recorder.openComponent opening).run recordReads inside) := by
      refine ihinside ?_ ?_
      · simp [hlength]
      · rw [current?_openComponent]
        exact .some (by simp [hlength])
    have hclosed := hinside.component hopening hunder
    rw [run_cons, run_append, run_cons]
    refine hclosed.trans (ihrest ?_ ?_)
    · exact hclosed.length hlength
    · exact (current?_eq hclosed.stack).symm ▸ rel_append hunder _

end Recorder

/-- Where a component opens does not depend on its name. -/
theorem Component.isAt_unnamed {component : Component} {reading : Reading} {places : List Place}
    {visit : Visit} :
    component.unnamed.IsAt reading places visit ↔ component.IsAt reading places visit :=
  ⟨fun h => ⟨h.start, h.stop, h.firstLine, h.lastLine, h.structureHash, h.parent⟩,
    fun h => ⟨h.start, h.stop, h.firstLine, h.lastLine, h.structureHash, h.parent⟩⟩

/-- The events of a file make a recorder write down its components and what is found in it. -/
theorem Recorder.reports_moduleEvents (text : String) (tree : Syntax.Tree) (sought : Sought)
    (recordReads : Bool) :
    Reports ⟨text, tree.lines⟩ sought [] (fileTour text tree.root sought) {}
      (run recordReads {} (Outline.moduleEvents ⟨text, tree.lines⟩ tree.root)) :=
  reports_run (Outline.tells_moduleEvents ⟨text, tree.lines⟩ tree.root) recordReads rfl .none

/-- The components and calls that are taken from a text are those of the tour of its tree, in
order. -/
theorem Extraction.IsTaken.reports {path text : String} {tree : Syntax.Tree} {recordReads : Bool}
    {extraction : Extraction} (h : extraction.IsTaken path text tree recordReads) :
    List.Forall₂ (fun visit component =>
        Component.IsAt component ⟨text, tree.lines⟩ (entered (fileTour text tree.root)) visit)
      ((fileTour text tree.root).filter (·.opens)) extraction.components ∧
    List.Forall₂ (fun visit call =>
        CallSite.IsAt call ⟨text, tree.lines⟩ (entered (fileTour text tree.root)) visit)
      ((fileTour text tree.root).filter (!·.opens)) extraction.calls := by
  obtain ⟨_, ⟨components, hcomponents, hopened⟩, calls, hcalls, hcalled⟩ :=
    Recorder.reports_moduleEvents text tree .calls recordReads
  obtain ⟨hunnamed, heq⟩ := h
  refine ⟨?_, ?_⟩
  · have hstaged : (Extraction.staged path text tree recordReads).components =
        components := hcomponents
    rw [hstaged] at hunnamed
    refine List.Forall₂.imp (fun _ _ hat => Component.isAt_unnamed.1 hat) ?_
    rw [← List.forall₂_map_right_iff (R := fun visit component => Component.IsAt component
      ⟨text, tree.lines⟩ (entered (fileTour text tree.root)) visit), hunnamed,
      List.forall₂_map_right_iff]
    exact hopened.imp fun _ _ hat => Component.isAt_unnamed.2 hat
  · have hstaged : extraction.calls = calls := by
      rw [heq]
      exact hcalls
    rw [hstaged]
    exact hcalled

/-- The imports that a recorder writes down for a text are those of the statements that a tour of
its tree finds, in order. -/
theorem exists_imports_run (text : String) (tree : Syntax.Tree) (recordReads : Bool) :
    ∃ groups, (Recorder.run recordReads {}
        (Outline.moduleEvents ⟨text, tree.lines⟩ tree.root)).findings.imports = groups.flatten ∧
      List.Forall₂ (fun visit group => ImportRecord.AreAt group ⟨text, tree.lines⟩
          (entered (fileTour text tree.root .imports)) visit)
        ((fileTour text tree.root .imports).filter (!·.opens)) groups := by
  obtain ⟨_, _, groups, hgroups, hfound⟩ :=
    Recorder.reports_moduleEvents text tree .imports recordReads
  exact ⟨groups, hgroups, hfound⟩

/-- A component stands in one of some places, and its parent in another. -/
structure Component.StandsIn (component : Component) (tree : Syntax.Tree) (places : List Place)
    (place : Place) : Prop where
  start : component.start = place.node.start
  stop : component.stop = place.node.stop
  firstLine : component.firstLine = tree.firstLine place.node
  lastLine : component.lastLine = tree.lastLine place.node
  parent : IsParent places place component.parent

/-- The component around a visit is the parent of the one that opens there. -/
theorem Component.standsIn_of_isAt {component : Component} {text : String} {tree : Syntax.Tree}
    {places : List Place} {visit : Visit} (hopens : visit.opens)
    (howner : visit.KnowsOwner places none)
    (hat : component.IsAt ⟨text, tree.lines⟩ places visit) :
    component.StandsIn tree places visit.place := by
  have hinside (outer : Place) : visit.place.IsBelow outer ↔ visit.IsInside outer :=
    ⟨fun h => ⟨h.1, fun _ => h.2⟩, fun h => ⟨h.1, h.2 hopens⟩⟩
  refine ⟨hat.start, hat.stop, hat.firstLine, hat.lastLine, ?_⟩
  have hparent := hat.parent
  cases howner with
  | outside hunder hnone =>
    rw [hunder] at hparent
    generalize component.parent = parent at hparent ⊢
    cases hparent
    exact fun outer houter hbelow => hnone outer houter ((hinside outer).1 hbelow)
  | @inside owner hunder _ hin hinner =>
    rw [hunder] at hparent
    generalize component.parent = parent at hparent ⊢
    cases hparent with
    | some hposition =>
      refine ⟨owner, hposition, (hinside owner).2 hin, fun other hother hbelow => ?_⟩
      exact hinner other hother ((hinside other).1 hbelow)

/-- What is known of the visits of a file is known of their places, where it follows with the help
of the component around a visit. -/
theorem Outline.forall₂_fileTour {α : Type} {text : String} {root : Syntax.Node} {sought : Sought}
    {keep : Visit → Bool} {r : Visit → α → Prop} {s : Place → α → Prop} {items : List α}
    (hdecorates : root.Everywhere DecoratesOthers)
    (hitems : List.Forall₂ r ((fileTour text root sought).filter keep) items)
    (h : ∀ visit item, keep visit →
      visit.KnowsOwner (entered (fileTour text root sought)) none → r visit item →
        s visit.place item) :
    List.Forall₂ s (((fileTour text root sought).filter keep).map (·.place)) items := by
  have hall := (List.forall₂_and_left _ _).2 ⟨fun visit hvisit => hvisit, hitems⟩
  refine List.forall₂_map_left_iff.2 (hall.imp fun visit item hvisit => ?_)
  obtain ⟨hmem, hkeep⟩ := List.mem_filter.1 hvisit.1
  exact h visit item hkeep (knowsOwner_fileTour hdecorates visit hmem) hvisit.2

/-- The components that are taken from a text stand in the places of its tour. -/
theorem Extraction.IsTaken.standsIn {path text : String} {tree : Syntax.Tree} {recordReads : Bool}
    {extraction : Extraction} (h : extraction.IsTaken path text tree recordReads)
    (hdecorates : tree.root.Everywhere Outline.DecoratesOthers) :
    let places := entered (fileTour text tree.root)
    List.Forall₂ (fun place component => component.StandsIn tree places place) places
      extraction.components := by
  exact Outline.forall₂_fileTour hdecorates h.reports.1 fun _ _ hopens howner hat =>
    Component.standsIn_of_isAt hopens howner hat

end SourceLedger
