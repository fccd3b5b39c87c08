import Mathlib.Data.List.Infix
import SourceLedger.Proofs.Recording
import SourceLedger.Proofs.Sighting

/-!
# What a step adds

A step of a recorder looks at the frame on top and at the number of components, and at nothing else
that was written down. It puts new facts behind those that are there, and changes the frame on top.
`step_eq` spells this out. Whatever a run has written down was therefore added by one of its events,
at a time when all that stands in front of it was there and nothing else.

## Main definitions

* `Frame.binding?` is the bare name that an event binds in a frame.
* `Recorder.increment` is what an event adds to the findings, and `Recorder.following` are the
  frames behind it.

## Main statements

* `Recorder.step_eq` is the step as an addition.
* `Recorder.run_add` says that recorders with the same frames and equally many components add the
  same.
* `Recorder.exists_symbol_event` and `Recorder.exists_global_event` find the event that wrote
  something down.
-/

namespace SourceLedger

open Outline (Event Opening)

/-- A bare name that is assigned, updated or deleted. -/
structure Binding where
  name : String
  access : AccessKind
  typeText : Option String
  line : Nat

namespace Frame

/-- The bare name that an event binds. Only functions bind the names of definitions and imports. -/
def binding? (frame : Frame) : Event → Option Binding
  | .bind name access typeText line => some ⟨name, access, typeText, line⟩
  | .enter opening =>
    if opening.form.isNamedDefinition ∧ frame.scope = .functionBody then
      some ⟨opening.name, .write, none, opening.nameLine⟩
    else none
  | .imports record =>
    if frame.scope = .functionBody ∧ record.name ≠ some "*" then
      some ⟨record.boundName, .write, none, record.line⟩
    else none
  | _ => none

/-- Where a bare name lives that is bound in a frame. -/
def scopeOf (frame : Frame) (name : String) : ScopeKind :=
  match frame.scope with
  | .moduleBody => .globalName
  | .classBody => .member
  | .functionBody => if name ∈ frame.globals then .globalName else .localName

/-- Where a bare name lives that is used in a frame, if the use is written down. -/
def readScope? (frame : Frame) (name : String) : Option ScopeKind :=
  if frame.scope = .functionBody then
    if name ∈ frame.parameters then some .parameter
    else if name ∈ frame.locals then some .localName
    else none
  else none

/-- The use of a name that an event writes down. -/
def symbol? (recordReads : Bool) (frame : Frame) : Event → Option SymbolUse
  | .parameter name typeText line => some ⟨name, .parameter, .write, frame.level, line, typeText⟩
  | .store place scope access typeText line =>
    some ⟨place, scope, access, frame.level, line, typeText⟩
  | .mention name line =>
    if recordReads then
      (frame.readScope? name).map fun scope => ⟨name, scope, .read, frame.level, line, none⟩
    else none
  | event => (frame.binding? event).map fun binding =>
      ⟨binding.name, frame.scopeOf binding.name, binding.access, frame.level, binding.line,
        binding.typeText⟩

/-- The change of a global variable that an event writes down. -/
def global? (frame : Frame) (event : Event) : Option GlobalAccess :=
  (frame.binding? event).bind fun binding =>
    if frame.scope = .functionBody ∧ binding.name ∈ frame.globals then
      some ⟨binding.name, binding.access, binding.line⟩
    else none

/-- The frame once a name is bound. A function knows the names that it binds and keeps. -/
def bind (frame : Frame) (binding : Binding) : Frame :=
  if frame.scope = .functionBody ∧ binding.name ∉ frame.globals ∧ binding.access ≠ .delete then
    { frame with locals := binding.name :: frame.locals }
  else frame

/-- The frame behind an event. -/
def next (frame : Frame) : Event → Frame
  | .parameter name _ _ =>
    { frame with parameters := name :: frame.parameters, locals := name :: frame.locals }
  | .declareGlobal name => { frame with globals := name :: frame.globals }
  | .declareNonlocal name => { frame with locals := name :: frame.locals }
  | event => (frame.binding? event).elim frame frame.bind

variable {recordReads : Bool} {frame : Frame} {event : Event}

theorem access_of_binding? {binding : Binding} (h : frame.binding? event = some binding)
    (hwrites : event.Writes) : binding.access ≠ .read := by
  cases event with
  | bind name access typeText line =>
    obtain rfl := Option.some.inj h
    exact hwrites
  | enter opening =>
    obtain ⟨_, hsome⟩ := Option.ite_none_right_eq_some.1 h
    obtain rfl := Option.some.inj hsome
    exact nofun
  | imports record =>
    obtain ⟨_, hsome⟩ := Option.ite_none_right_eq_some.1 h
    obtain rfl := Option.some.inj hsome
    exact nofun
  | _ => simp [binding?] at h

/-- A bare name that is bound is written down. -/
theorem symbol?_of_binding? {binding : Binding} (h : frame.binding? event = some binding)
    (recordReads : Bool) :
    frame.symbol? recordReads event = some ⟨binding.name, frame.scopeOf binding.name,
      binding.access, frame.level, binding.line, binding.typeText⟩ := by
  cases event <;> simp_all [symbol?, binding?]

/-- Names are bound, and uses of names are written down only where a name is used. -/
theorem mention_of_symbol? {symbol : SymbolUse} (h : frame.symbol? recordReads event = some symbol)
    (hwrites : event.Writes) (hread : symbol.access = .read) :
    (∃ line, event = .mention symbol.name line) ∧
      frame.readScope? symbol.name = some symbol.scope := by
  cases event with
  | parameter name typeText line =>
    obtain rfl := Option.some.inj h
    simp at hread
  | store place scope access typeText line =>
    obtain rfl := Option.some.inj h
    exact absurd hread hwrites.2
  | mention name line =>
    obtain ⟨_, hsome⟩ := Option.ite_none_right_eq_some.1 h
    obtain ⟨scope, hscope, rfl⟩ := Option.map_eq_some_iff.1 hsome
    exact ⟨⟨line, rfl⟩, hscope⟩
  | _ =>
    simp only [symbol?] at h
    obtain ⟨binding, hbinding, rfl⟩ := Option.map_eq_some_iff.1 h
    exact absurd hread (access_of_binding? hbinding hwrites)

/-- An event changes which names a frame knows, and nothing else. -/
@[simp]
theorem bare_next (frame : Frame) (event : Event) : (frame.next event).bare = frame.bare := by
  have hbind (binding : Binding) : (frame.bind binding).bare = frame.bare := by
    unfold bind
    split <;> rfl
  cases event with
  | parameter | declareGlobal | declareNonlocal => rfl
  | _ =>
    simp only [next]
    cases frame.binding? _ with
    | none => rfl
    | some binding => exact hbind binding

@[simp]
theorem component_next (frame : Frame) (event : Event) :
    (frame.next event).component = frame.component := by
  have hbare := congrArg Frame.component (frame.bare_next event)
  exact hbare

@[simp]
theorem scope_next (frame : Frame) (event : Event) : (frame.next event).scope = frame.scope := by
  have hbare := congrArg Frame.scope (frame.bare_next event)
  exact hbare

end Frame

namespace Findings

/-- Findings with others behind them. -/
protected def append (findings more : Findings) : Findings where
  components := findings.components ++ more.components
  symbols := findings.symbols ++ more.symbols
  calls := findings.calls ++ more.calls
  imports := findings.imports ++ more.imports
  globals := findings.globals ++ more.globals
  decorators := findings.decorators ++ more.decorators
  missingSegments := findings.missingSegments + more.missingSegments

instance : Append Findings := ⟨Findings.append⟩

theorem append_def (findings more : Findings) : findings ++ more = findings.append more :=
  rfl

theorem append_assoc (first second third : Findings) :
    first ++ second ++ third = first ++ (second ++ third) := by
  simp only [append_def, Findings.append, List.append_assoc, Nat.add_assoc]

theorem append_empty (findings : Findings) : findings ++ {} = findings := by
  simp only [append_def, Findings.append, List.append_nil, Nat.add_zero]

end Findings

/-- The fact about the component of a frame, if there is a frame and a fact. -/
def Owned.noted {α : Type} (top : Option Frame) (fact? : Frame → Option α) : List (Owned α) :=
  top.toList.flatMap fun frame => (fact? frame).toList.map (⟨frame.component, ·⟩)

namespace Recorder

/-- What an event adds to the findings below a frame. -/
def increment (recordReads : Bool) (top : Option Frame) (event : Event) : Findings where
  components := match event with
    | .enter opening => [componentOf opening top]
    | _ => []
  symbols := Owned.noted top (·.symbol? recordReads event)
  calls := Owned.noted top fun _ => match event with
    | .call site => some site
    | _ => none
  imports := Owned.noted top fun _ => match event with
    | .imports record => some record
    | _ => none
  globals := Owned.noted top (·.global? event)
  decorators := Owned.noted top fun _ => match event with
    | .decorate decorator => some decorator
    | _ => none
  missingSegments := missingAt event

/-- The frames that are open behind an event, where `count` components were there before it. -/
def following (stack : List Frame) (count : Nat) : Event → List Frame
  | .enter opening =>
    frameOf opening count stack.head? :: stack.modifyHead (·.next (.enter opening))
  | .leave => stack.tail
  | event => stack.modifyHead (·.next event)

/-- The frames behind an event: those that were open, the one on top as the event leaves it, and one
that opens. -/
theorem mem_following {stack : List Frame} {count : Nat} {event : Event} {frame : Frame}
    (h : frame ∈ following stack count event) :
    frame ∈ stack ∨ (∃ top, stack.head? = some top ∧ frame = top.next event) ∨
      ∃ opening, event = .enter opening ∧ frame = frameOf opening count stack.head? := by
  have htop (h : frame ∈ stack.modifyHead (·.next event)) :
      frame ∈ stack ∨ ∃ top, stack.head? = some top ∧ frame = top.next event := by
    cases stack with
    | nil => simp at h
    | cons top below =>
      rcases List.mem_cons.1 h with hframe | hframe
      · exact .inr ⟨top, rfl, hframe⟩
      · exact .inl (List.mem_cons_of_mem _ hframe)
  cases event with
  | enter opening =>
    rcases List.mem_cons.1 h with hframe | hframe
    · exact .inr (.inr ⟨opening, rfl, hframe⟩)
    · exact (htop hframe).imp_right .inl
  | leave => exact .inl (List.mem_of_mem_tail h)
  | _ => exact (htop h).imp_right .inl

/-- An event that binds a name writes it down and changes the frame on top. -/
theorem bindName_eq {frame : Frame} {event : Event} {binding : Binding}
    (h : frame.binding? event = some binding) (recordReads : Bool) (findings : Findings)
    (below : List Frame) :
    bindName ⟨findings, frame :: below⟩ binding.name binding.access binding.typeText binding.line =
      ⟨{ findings with
          symbols := findings.symbols ++ Owned.noted (some frame) (·.symbol? recordReads event)
          globals := findings.globals ++ Owned.noted (some frame) (·.global? event) },
        frame.next event :: below⟩ := by
  have hsymbol := Frame.symbol?_of_binding? h recordReads
  have hnext : frame.next event = frame.bind binding := by
    cases event <;> simp_all [Frame.next, Frame.binding?]
  simp only [Owned.noted, Option.toList_some, List.flatMap_cons, List.flatMap_nil, List.append_nil,
    hsymbol, hnext, Frame.global?, h, Option.bind_some, List.map_cons, List.map_nil]
  unfold bindName Frame.scopeOf Frame.bind
  cases hscope : frame.scope with
  | moduleBody => simp [hscope, addSymbol]
  | classBody => simp [hscope, addSymbol]
  | functionBody =>
    by_cases hglobal : binding.name ∈ frame.globals
    · simp [hscope, hglobal, addSymbol]
    · by_cases hdelete : binding.access = .delete
      · simp [hscope, hglobal, hdelete, addSymbol, setTop]
      · simp [hscope, hglobal, hdelete, addSymbol, setTop]

/-- A function knows what it imports under the name that the import binds. -/
theorem importedAs_eq (record : ImportRecord) : importedAs record = record.boundName := by
  obtain ⟨_, name, asName, _, _, _⟩ := record
  cases asName with
  | some asName => rfl
  | none => cases name <;> rfl

/-- Where nothing is open, only a component that opens is written down. -/
theorem step_nil (recordReads : Bool) (findings : Findings) (event : Event) :
    step recordReads ⟨findings, []⟩ event =
      ⟨findings ++ increment recordReads none event,
        following [] findings.components.length event⟩ := by
  rw [Findings.append_def, Findings.append]
  cases event with
  | enter opening =>
    simp [step, openComponent, increment, following, Owned.noted, missingAt]
  | mention name line =>
    cases recordReads <;> simp [step, mentionName, increment, following, Owned.noted, missingAt]
  | _ =>
    simp [step, bindName, bindParameter, storePlace, declareGlobal, declareNonlocal, addCall,
      addDecorator, addImport, increment, following, Owned.noted, missingAt]

theorem step_cons (recordReads : Bool) (findings : Findings) (frame : Frame) (below : List Frame)
    (event : Event) :
    step recordReads ⟨findings, frame :: below⟩ event =
      ⟨findings ++ increment recordReads (some frame) event,
        following (frame :: below) findings.components.length event⟩ := by
  rw [Findings.append_def, Findings.append]
  cases event with
  | enter opening =>
    by_cases hbinds : opening.form.isNamedDefinition ∧ frame.scope = .functionBody
    · have hbinding : frame.binding? (.enter opening) =
          some ⟨opening.name, .write, none, opening.nameLine⟩ := if_pos hbinds
      have hbind := bindName_eq hbinding recordReads findings below
      simp [step, openComponent, hbinds, hbind, increment, following, missingAt, Owned.noted]
    · simp [step, openComponent, hbinds, increment, following, missingAt, Owned.noted,
        Frame.symbol?, Frame.global?, Frame.next, Frame.binding?]
  | bind name access typeText line =>
    have hbinding : frame.binding? (.bind name access typeText line) =
        some ⟨name, access, typeText, line⟩ := rfl
    have hbind := bindName_eq hbinding recordReads findings below
    simp [step, hbind, increment, following, missingAt, Owned.noted]
  | imports record =>
    by_cases hbinds : frame.scope = .functionBody ∧ record.name ≠ some "*"
    · have hbinding : frame.binding? (.imports record) =
          some ⟨record.boundName, .write, none, record.line⟩ := if_pos hbinds
      have hbind := bindName_eq hbinding recordReads findings below
      simp [step, addImport, importedAs_eq, hbinds, hbind, increment, following, missingAt,
        Owned.noted]
    · simp [step, addImport, hbinds, increment, following, missingAt, Owned.noted,
        Frame.symbol?, Frame.global?, Frame.next, Frame.binding?]
  | mention name line =>
    have hquiet : frame.global? (.mention name line) = none := rfl
    have hnext : frame.next (.mention name line) = frame := rfl
    cases recordReads with
    | false =>
      simp [step, increment, following, missingAt, Owned.noted, Frame.symbol?, hquiet, hnext]
    | true =>
      by_cases hscope : frame.scope = .functionBody
      · by_cases hparameter : name ∈ frame.parameters
        · simp [step, mentionName, increment, following, missingAt, Owned.noted, Frame.symbol?,
            Frame.readScope?, hquiet, hnext, hscope, hparameter, addSymbol]
        · by_cases hlocal : name ∈ frame.locals
          · simp [step, mentionName, increment, following, missingAt, Owned.noted, Frame.symbol?,
              Frame.readScope?, hquiet, hnext, hscope, hparameter, hlocal, addSymbol]
          · simp [step, mentionName, increment, following, missingAt, Owned.noted, Frame.symbol?,
              Frame.readScope?, hquiet, hnext, hscope, hparameter, hlocal]
      · simp [step, mentionName, increment, following, missingAt, Owned.noted, Frame.symbol?,
          Frame.readScope?, hquiet, hnext, hscope]
  | _ =>
    simp [step, bindParameter, storePlace, declareGlobal, declareNonlocal, addCall, addDecorator,
      increment, following, missingAt, Owned.noted, addSymbol, setTop, Frame.symbol?,
      Frame.global?, Frame.next, Frame.binding?]

/-- A step puts what the event adds behind the findings, and changes the frames. -/
theorem step_eq (recordReads : Bool) (recorder : Recorder) (event : Event) :
    recorder.step recordReads event =
      ⟨recorder.findings ++ increment recordReads recorder.stack.head? event,
        following recorder.stack recorder.findings.components.length event⟩ := by
  obtain ⟨findings, _ | ⟨frame, below⟩⟩ := recorder
  · exact step_nil recordReads findings event
  · exact step_cons recordReads findings frame below event

theorem run_concat (recordReads : Bool) (recorder : Recorder) (past : List Event) (event : Event) :
    recorder.run recordReads (past ++ [event]) =
      (recorder.run recordReads past).step recordReads event := by
  rw [run_append]
  rfl

/-- Recorders with the same frames and equally many components add the same. -/
theorem run_add (recordReads : Bool) (events : List Event) {first second : Recorder}
    (hstack : first.stack = second.stack)
    (hcount : first.findings.components.length = second.findings.components.length) :
    (first.run recordReads events).stack = (second.run recordReads events).stack ∧
      ∃ new, (first.run recordReads events).findings = first.findings ++ new ∧
        (second.run recordReads events).findings = second.findings ++ new := by
  induction events generalizing first second with
  | nil => exact ⟨hstack, {}, first.findings.append_empty.symm, second.findings.append_empty.symm⟩
  | cons event rest ih =>
    rw [run_cons, run_cons, step_eq, step_eq, hstack, hcount]
    let added := increment recordReads second.stack.head? event
    let frames := following second.stack second.findings.components.length event
    have hcount' : (first.findings ++ added).components.length =
        (second.findings ++ added).components.length := by
      simp [Findings.append_def, Findings.append, hcount]
    obtain ⟨hrest, new, hfirst, hsecond⟩ :=
      @ih ⟨first.findings ++ added, frames⟩ ⟨second.findings ++ added, frames⟩ rfl hcount'
    refine ⟨hrest, added ++ new, ?_, ?_⟩
    · rw [hfirst, Findings.append_assoc]
    · rw [hsecond, Findings.append_assoc]

/-- Findings only grow. -/
theorem exists_run_eq (recordReads : Bool) (events : List Event) (recorder : Recorder) :
    ∃ new, (recorder.run recordReads events).findings = recorder.findings ++ new := by
  obtain ⟨_, new, hnew, _⟩ := run_add recordReads events (rfl : recorder.stack = _) rfl
  exact ⟨new, hnew⟩

end Recorder

section Written

variable {α : Type}

theorem Owned.noted_cases (top : Option Frame) (fact? : Frame → Option α) :
    noted top fact? = [] ∨ ∃ frame fact, top = some frame ∧ fact? frame = some fact ∧
      noted top fact? = [⟨frame.component, fact⟩] := by
  cases top with
  | none => exact .inl rfl
  | some frame =>
    cases hfact : fact? frame with
    | none => exact .inl (by simp [noted, hfact])
    | some fact => exact .inr ⟨frame, fact, rfl, hfact, by simp [noted, hfact]⟩

/-- What has been written down was written down by an event, in the frame that was on top, when
nothing was there but what stands in front of it. -/
theorem Recorder.exists_event {recordReads : Bool} (facts : Findings → List (Owned α))
    (fact? : Frame → Event → Option α) (hempty : facts {} = [])
    (hstep : ∀ recorder event, facts (Recorder.step recordReads recorder event).findings =
      facts recorder.findings ++ Owned.noted recorder.stack.head? (fact? · event))
    {events : List Event} {front rest : List (Owned α)} {owned : Owned α}
    (h : facts (run recordReads {} events).findings = front ++ owned :: rest) :
    ∃ before event frame, before ++ [event] <+: events ∧
      facts (run recordReads {} before).findings = front ∧
      (run recordReads {} before).stack.head? = some frame ∧
      fact? frame event = some owned.fact ∧ owned.owner = frame.component := by
  induction events using List.reverseRecOn generalizing rest with
  | nil => simp [run, hempty] at h
  | append_singleton past event ih =>
    have hearlier {rest : List (Owned α)}
        (h : facts (run recordReads {} past).findings = front ++ owned :: rest) :
        ∃ before event' frame, before ++ [event'] <+: past ++ [event] ∧
          facts (run recordReads {} before).findings = front ∧
          (run recordReads {} before).stack.head? = some frame ∧
          fact? frame event' = some owned.fact ∧ owned.owner = frame.component := by
      obtain ⟨before, event', frame, hbefore, hfound⟩ := ih h
      exact ⟨before, event', frame, hbefore.trans (List.prefix_append _ _), hfound⟩
    rw [run_concat, hstep] at h
    rcases Owned.noted_cases (run recordReads {} past).stack.head? (fact? · event) with
      hnone | ⟨frame, fact, htop, hfact, hnoted⟩
    · rw [hnone, List.append_nil] at h
      exact hearlier h
    · -- Either the last entry is the one that is looked for, or it stands behind it.
      rw [hnoted] at h
      rcases List.eq_nil_or_concat rest with rfl | ⟨rest, last, rfl⟩
      · obtain ⟨hfront, hlast⟩ := List.append_inj' h rfl
        obtain rfl := List.singleton_inj.1 hlast
        exact ⟨past, event, frame, List.prefix_rfl, hfront, htop, hfact, rfl⟩
      · rw [List.concat_eq_append, ← List.cons_append, ← List.append_assoc] at h
        exact hearlier (List.append_inj' h rfl).1

end Written

namespace Recorder

variable {recordReads : Bool} {events : List Event}

/-- A use of a name was written down by an event. -/
theorem exists_symbol_event {front rest : List (Owned SymbolUse)} {symbol : Owned SymbolUse}
    (h : (run recordReads {} events).findings.symbols = front ++ symbol :: rest) :
    ∃ before event frame, before ++ [event] <+: events ∧
      (run recordReads {} before).findings.symbols = front ∧
      (run recordReads {} before).stack.head? = some frame ∧
      frame.symbol? recordReads event = some symbol.fact ∧ symbol.owner = frame.component :=
  exists_event Findings.symbols (Frame.symbol? recordReads) rfl
    (fun recorder event => by rw [step_eq]; rfl) h

/-- What is imported was written down by an event of its own. -/
theorem exists_import_event {front rest : List (Owned ImportRecord)} {owned : Owned ImportRecord}
    (h : (run recordReads {} events).findings.imports = front ++ owned :: rest) :
    ∃ before frame, before ++ [.imports owned.fact] <+: events ∧
      (run recordReads {} before).stack.head? = some frame ∧ owned.owner = frame.component := by
  obtain ⟨before, event, frame, hbefore, _, hframe, hfact, howner⟩ :=
    exists_event Findings.imports (fun _ event => match event with
      | .imports record => some record
      | _ => none) rfl (fun recorder event => by rw [step_eq]; rfl) h
  cases event with
  | imports record =>
    obtain rfl := Option.some.inj hfact
    exact ⟨before, frame, hbefore, hframe, howner⟩
  | _ => simp at hfact

/-- A change of a global variable was written down by an event. -/
theorem exists_global_event {front rest : List (Owned GlobalAccess)} {change : Owned GlobalAccess}
    (h : (run recordReads {} events).findings.globals = front ++ change :: rest) :
    ∃ before event frame, before ++ [event] <+: events ∧
      (run recordReads {} before).findings.globals = front ∧
      (run recordReads {} before).stack.head? = some frame ∧
      frame.global? event = some change.fact ∧ change.owner = frame.component :=
  exists_event Findings.globals Frame.global? rfl (fun recorder event => by rw [step_eq]; rfl) h

end Recorder

end SourceLedger
