import SourceLedger.Proofs.Arena
import SourceLedger.Proofs.Scoping

/-!
# Names that functions bind and declare

A frame knows names: parameters, locals and names that were declared to be global. Each of them was
bound by a symbol that has been written down for the component of the frame, or it was declared by a
statement that was met while the frame was on top. So a use of a name that is written down refers to
something that came before it.

## Main definitions

* `Recorder.HasDeclared` says that a statement has declared a name in a frame.
* `Recorder.Recalls` says where the names come from that a frame knows.
* `Findings.ReadsFollowBindings` says what uses of names refer to.

## Main statements

* `Recorder.recalls_stack` says that all frames recall their names.
* `Extraction.reads_follow_bindings` says it of what is taken from a text.
-/

namespace SourceLedger

open Outline (DecoratesDefinition Event Opening Reading declaredNames moduleEvents)
open Syntax (Node Construct)

/-- The statements that say where a name belongs. -/
inductive Declaration where
  | global
  | nonlocal

namespace Declaration

/-- The construct of a statement that declares names. -/
def construct : Declaration → Construct
  | global => .globalStatement
  | nonlocal => .nonlocalStatement

/-- The event of a name that is declared. -/
def event : Declaration → String → Event
  | global => .declareGlobal
  | nonlocal => .declareNonlocal

end Declaration

/-- One of the symbols binds a name of a component in some scope, by one of some accesses. -/
def Binds (symbols : List (Owned SymbolUse)) (owner : Nat) (name : String) (scope : ScopeKind)
    (accesses : List AccessKind) : Prop :=
  ∃ earlier ∈ symbols, earlier.owner = owner ∧ earlier.fact.name = name ∧
    earlier.fact.scope = scope ∧ earlier.fact.access ∈ accesses

/-- What an event does to the frame on top: names are added to those that the frame knows. -/
theorem Frame.next_cases (frame : Frame) (event : Event) :
    (∃ name typeText line, event = .parameter name typeText line ∧ frame.next event =
      { frame with parameters := name :: frame.parameters, locals := name :: frame.locals }) ∨
    (∃ name, event = .declareGlobal name ∧
      frame.next event = { frame with globals := name :: frame.globals }) ∨
    (∃ name, event = .declareNonlocal name ∧
      frame.next event = { frame with locals := name :: frame.locals }) ∨
    (∃ binding, frame.binding? event = some binding ∧ frame.scope = .functionBody ∧
      binding.name ∉ frame.globals ∧ binding.access ≠ .delete ∧
      frame.next event = { frame with locals := binding.name :: frame.locals }) ∨
    frame.next event = frame := by
  have hbind (hnext : frame.next event = (frame.binding? event).elim frame frame.bind) :
      (∃ binding, frame.binding? event = some binding ∧ frame.scope = .functionBody ∧
        binding.name ∉ frame.globals ∧ binding.access ≠ .delete ∧
        frame.next event = { frame with locals := binding.name :: frame.locals }) ∨
      frame.next event = frame := by
    cases hbinding : frame.binding? event with
    | none => exact .inr (by rw [hnext, hbinding, Option.elim_none])
    | some binding =>
      rw [hnext, hbinding, Option.elim_some, Frame.bind]
      split
      · rename_i hkept
        exact .inl ⟨binding, rfl, hkept.1, hkept.2.1, hkept.2.2, rfl⟩
      · exact .inr rfl
  cases event with
  | parameter name typeText line => exact .inl ⟨name, typeText, line, rfl, rfl⟩
  | declareGlobal name => exact .inr (.inl ⟨name, rfl, rfl⟩)
  | declareNonlocal name => exact .inr (.inr (.inl ⟨name, rfl, rfl⟩))
  | _ => exact .inr (.inr (.inr (hbind rfl)))

namespace Recorder

section Past

variable (reading : Reading) (recordReads : Bool) (past : List Event)

/-- A statement has declared a name in the frame of a component. It is part of the definition at
which the component opened. -/
def HasDeclared (owner : Nat) (declaration : Declaration) (name : String) : Prop :=
  ∃ before definition statement, before ++ [declaration.event name] <+: past ∧
    (run recordReads {} before).current? = some owner ∧
    OpenedAt reading recordReads before owner definition ∧ statement ∈ definition.preorder ∧
    statement.construct = declaration.construct ∧ name ∈ declaredNames reading statement

/-- The names that a frame knows have been bound or declared. -/
structure Recalls (frame : Frame) : Prop where
  parameters : ∀ name ∈ frame.parameters,
    Binds (run recordReads {} past).findings.symbols frame.component name .parameter [.write]
  locals : ∀ name ∈ frame.locals, name ∈ frame.parameters ∨
    Binds (run recordReads {} past).findings.symbols frame.component name .localName
      [.write, .both] ∨
    HasDeclared reading recordReads past frame.component .nonlocal name
  globals : ∀ name ∈ frame.globals,
    HasDeclared reading recordReads past frame.component .global name

end Past

variable {reading : Reading} {recordReads : Bool} {root : Node} {past : List Event}

theorem symbols_concat (event : Event) :
    (run recordReads {} (past ++ [event])).findings.symbols =
      (run recordReads {} past).findings.symbols ++
        Owned.noted (run recordReads {} past).stack.head? (·.symbol? recordReads event) := by
  rw [run_concat, step_eq]
  rfl

/-- A symbol that is written down is there afterwards. -/
theorem binds_concat {event : Event} {top : Frame} {symbol : SymbolUse}
    (htop : (run recordReads {} past).stack.head? = some top)
    (hsymbol : top.symbol? recordReads event = some symbol) {accesses : List AccessKind}
    (haccess : symbol.access ∈ accesses) :
    Binds (run recordReads {} (past ++ [event])).findings.symbols top.component symbol.name
      symbol.scope accesses := by
  refine ⟨⟨top.component, symbol⟩, ?_, rfl, rfl, rfl, haccess⟩
  rw [symbols_concat, htop]
  simp [Owned.noted, hsymbol]

/-- A name that is declared next is declared afterwards. -/
theorem hasDeclared_concat {declaration : Declaration} {name : String} {top : Frame}
    (htop : (run recordReads {} past).stack.head? = some top)
    (h : Comes reading recordReads root past (declaration.event name)) :
    HasDeclared reading recordReads (past ++ [declaration.event name]) top.component declaration
      name := by
  have hplain : (declaration.event name).isPlain := by
    cases declaration with
    | global | nonlocal => rfl
  obtain ⟨frame, definition, statement, hframe, hopened, hstatement, hmet⟩ := h.exists_met hplain
  obtain rfl := Option.some.inj (hframe.symm.trans htop)
  have hcurrent : (run recordReads {} past).current? = some frame.component := by
    rw [current?, htop, Option.map_some]
  have hdeclares : statement.construct = declaration.construct ∧
      name ∈ declaredNames reading statement := by
    cases declaration with
    | global | nonlocal => exact hmet
  exact ⟨past, definition, statement, List.prefix_rfl, hcurrent, hopened, hstatement, hdeclares⟩

namespace Recalls

variable {frame : Frame}

theorem concat (h : Recalls reading recordReads past frame) (event : Event) :
    Recalls reading recordReads (past ++ [event]) frame := by
  have hbinds {name : String} {scope : ScopeKind} {accesses : List AccessKind}
      (hbound : Binds (run recordReads {} past).findings.symbols frame.component name scope
        accesses) :
      Binds (run recordReads {} (past ++ [event])).findings.symbols frame.component name scope
        accesses := by
    obtain ⟨earlier, hearlier, hbound⟩ := hbound
    rw [symbols_concat]
    exact ⟨earlier, List.mem_append_left _ hearlier, hbound⟩
  have hdeclared {declaration : Declaration} {name : String}
      (hdeclared : HasDeclared reading recordReads past frame.component declaration name) :
      HasDeclared reading recordReads (past ++ [event]) frame.component declaration name := by
    obtain ⟨before, definition, statement, hbefore, hrest⟩ := hdeclared
    exact ⟨before, definition, statement, hbefore.trans (List.prefix_append _ _), hrest⟩
  exact
    { parameters := fun name hname => hbinds (h.parameters name hname)
      locals := fun name hname => (h.locals name hname).imp_right (.imp hbinds hdeclared)
      globals := fun name hname => hdeclared (h.globals name hname) }

/-- The frame on top recalls what the next event adds to it. -/
theorem next {event : Event} (h : Recalls reading recordReads past frame)
    (htop : (run recordReads {} past).stack.head? = some frame)
    (hcomes : Comes reading recordReads root past event) :
    Recalls reading recordReads (past ++ [event]) (frame.next event) := by
  have hkept := h.concat event
  rcases frame.next_cases event with ⟨name, typeText, line, rfl, hnext⟩ | ⟨name, rfl, hnext⟩ |
    ⟨name, rfl, hnext⟩ | ⟨binding, hbinding, hscope, hlocal, hdelete, hnext⟩ | hnext
  · rw [hnext]
    have hsymbol : frame.symbol? recordReads (.parameter name typeText line) =
        some ⟨name, .parameter, .write, frame.level, line, typeText⟩ := rfl
    have hbinds := binds_concat htop hsymbol (List.mem_singleton.2 rfl)
    refine ⟨List.forall_mem_cons.2 ⟨hbinds, hkept.parameters⟩,
      List.forall_mem_cons.2 ⟨.inl List.mem_cons_self, ?_⟩, hkept.globals⟩
    exact fun other hother => (hkept.locals other hother).imp_left (List.mem_cons_of_mem _)
  · rw [hnext]
    have hdeclared : HasDeclared reading recordReads (past ++ [.declareGlobal name])
        frame.component .global name := hasDeclared_concat htop hcomes
    exact ⟨hkept.parameters, hkept.locals, List.forall_mem_cons.2 ⟨hdeclared, hkept.globals⟩⟩
  · rw [hnext]
    have hdeclared : HasDeclared reading recordReads (past ++ [.declareNonlocal name])
        frame.component .nonlocal name := hasDeclared_concat htop hcomes
    exact ⟨hkept.parameters, List.forall_mem_cons.2 ⟨.inr (.inr hdeclared), hkept.locals⟩,
      hkept.globals⟩
  · rw [hnext]
    have hsymbol := Frame.symbol?_of_binding? hbinding recordReads
    rw [Frame.scopeOf, hscope, if_neg hlocal] at hsymbol
    have hread := Frame.access_of_binding? hbinding hcomes.writes
    have haccess : binding.access ∈ [AccessKind.write, .both] := by
      cases hkind : binding.access <;> simp_all
    exact ⟨hkept.parameters, List.forall_mem_cons.2
      ⟨.inr (.inl (binds_concat htop hsymbol haccess)), hkept.locals⟩, hkept.globals⟩
  · rw [hnext]
    exact hkept

end Recalls

/-- All along, the frames that are open recall the names that they know. -/
theorem recalls_stack {events : List Event} (h : Unfolds reading recordReads root [] events) :
    ∀ frame ∈ (run recordReads {} events).stack, Recalls reading recordReads events frame := by
  refine h.keeps (P := fun past => ∀ frame ∈ (run recordReads {} past).stack,
    Recalls reading recordReads past frame) (by simp [run]) ?_
  intro past event hpast hcomes frame hframe
  rw [run_concat, step_eq] at hframe
  rcases mem_following hframe with hold | ⟨top, htop, rfl⟩ | ⟨opening, rfl, rfl⟩
  · exact (hpast frame hold).concat event
  · exact (hpast top (List.mem_of_mem_head? htop)).next htop hcomes
  · exact ⟨List.forall_mem_nil _, List.forall_mem_nil _, List.forall_mem_nil _⟩

end Recorder

theorem Frame.Fits.of_unnamed {frame : Frame} {component other : Component}
    (h : frame.Fits component) (hsame : other.unnamed = component.unnamed) : frame.Fits other := by
  have hkind := congrArg Component.kind hsame
  have hparent := congrArg Component.parent hsame
  change other.kind = component.kind at hkind
  change other.parent = component.parent at hparent
  constructor
  · rw [hkind]
    exact h.function
  · rw [hkind, hparent]
    exact h.module

/-- Every use of a name belongs to a function or method. It is a use of a parameter that has been
bound before, or of a local name that has been bound or declared `nonlocal` before, by the same
function. What has been declared is told by the events of the tree up to that use. -/
def Findings.ReadsFollowBindings (findings : Findings) (reading : Reading) (recordReads : Bool)
    (root : Node) : Prop :=
  ∀ front symbol rest, findings.symbols = front ++ symbol :: rest → symbol.fact.access = .read →
    (∃ component, findings.components[symbol.owner]? = some component ∧
        component.kind.isFunction) ∧
      (symbol.fact.scope = .parameter ∧
          Binds front symbol.owner symbol.fact.name .parameter [.write] ∨
        symbol.fact.scope = .localName ∧
          (Binds front symbol.owner symbol.fact.name .localName [.write, .both] ∨
            ∃ past, past <+: moduleEvents reading root ∧
              (Recorder.run recordReads {} past).findings.symbols = front ∧
              Recorder.HasDeclared reading recordReads past symbol.owner .nonlocal
                symbol.fact.name))

namespace Extraction

variable {path text : String} {tree : Syntax.Tree} {recordReads : Bool}
  {extraction : Extraction}

theorem writes_before {before : List Event} {event : Event}
    (h : before ++ [event] <+: moduleEvents ⟨text, tree.lines⟩ tree.root) : event.Writes :=
  Outline.writes_moduleEvents _ _ event (h.subset (List.mem_append_right _ List.mem_cons_self))

/-- What an event of a file finds on top: a frame that recalls its names and fits its component. -/
theorem frame_before (h : extraction.IsTaken path text tree recordReads)
    (hdecorates : ∀ node ∈ tree.root.preorder, DecoratesDefinition node) {before : List Event}
    {event : Event} (hbefore : before ++ [event] <+: moduleEvents ⟨text, tree.lines⟩ tree.root)
    {frame : Frame}
    (hframe : (Recorder.run recordReads {} before).stack.head? = some frame) :
    Recorder.Recalls ⟨text, tree.lines⟩ recordReads before frame ∧
      ∃ component, extraction.components[frame.component]? = some component ∧
        frame.Fits component := by
  obtain ⟨hunfolds, _⟩ := (Recorder.unfolds_moduleEvents ⟨text, tree.lines⟩ recordReads
    tree.root).upTo hbefore
  have hmem := List.mem_of_mem_head? hframe
  refine ⟨Recorder.recalls_stack hunfolds frame hmem, ?_⟩
  obtain ⟨component, hcomponent, hfits⟩ := Recorder.exists_fits hunfolds hdecorates frame hmem
  obtain ⟨rest, hrest⟩ := (List.prefix_append before [event]).trans hbefore
  obtain ⟨new, hnew⟩ := Recorder.exists_run_eq recordReads rest
    (Recorder.run recordReads {} before)
  have hstaged : (staged path text tree recordReads).components[frame.component]? =
      some component := by
    change (Recorder.run recordReads {} (moduleEvents ⟨text, tree.lines⟩
      tree.root)).findings.components[frame.component]? = some component
    rw [← hrest, Recorder.run_append, hnew, Findings.append_def, Findings.append,
      List.getElem?_append_left (List.getElem?_eq_some_iff.1 hcomponent).1]
    exact hcomponent
  obtain ⟨final, hfinal, hsame⟩ :=
    Component.exists_getElem?_of_unnamed h.components.symm hstaged
  exact ⟨final, hfinal, hfits.of_unnamed hsame⟩

theorem IsTaken.symbols (h : extraction.IsTaken path text tree recordReads) :
    extraction.symbols = (Recorder.run recordReads {}
      (moduleEvents ⟨text, tree.lines⟩ tree.root)).findings.symbols := by
  rw [h.rest]
  rfl

theorem IsTaken.globals (h : extraction.IsTaken path text tree recordReads) :
    extraction.globals = (Recorder.run recordReads {}
      (moduleEvents ⟨text, tree.lines⟩ tree.root)).findings.globals := by
  rw [h.rest]
  rfl

theorem IsTaken.readsFollowBindings (h : extraction.IsTaken path text tree recordReads)
    (hdecorates : ∀ node ∈ tree.root.preorder, DecoratesDefinition node) :
    extraction.ReadsFollowBindings ⟨text, tree.lines⟩ recordReads tree.root := by
  intro front symbol rest hsymbols hread
  rw [h.symbols] at hsymbols
  obtain ⟨before, event, frame, hbefore, hfront, hframe, hsymbol, howner⟩ :=
    Recorder.exists_symbol_event hsymbols
  obtain ⟨_, hreads⟩ := Frame.mention_of_symbol? hsymbol (writes_before hbefore) hread
  obtain ⟨hrecalls, component, hcomponent, hfits⟩ := frame_before h hdecorates hbefore hframe
  unfold Frame.readScope? at hreads
  obtain ⟨hfunction, hnames⟩ := Option.ite_none_right_eq_some.1 hreads
  rw [howner, ← hfront]
  refine ⟨⟨component, hcomponent, hfits.function.1 hfunction⟩, ?_⟩
  by_cases hparameter : symbol.fact.name ∈ frame.parameters
  · rw [if_pos hparameter] at hnames
    exact .inl ⟨(Option.some.inj hnames).symm, hrecalls.parameters _ hparameter⟩
  · rw [if_neg hparameter] at hnames
    obtain ⟨hlocal, hscope⟩ := Option.ite_none_right_eq_some.1 hnames
    refine .inr ⟨(Option.some.inj hscope).symm, ?_⟩
    rcases hrecalls.locals _ hlocal with habsurd | hbinds | hdeclared
    · exact absurd habsurd hparameter
    · exact .inl hbinds
    · exact .inr ⟨before, (List.prefix_append _ _).trans hbefore, rfl, hdeclared⟩

/-- Uses of names follow what they refer to, in what is taken from a text, with names given or
not. -/
theorem reads_follow_bindings (path text : String) {tree : Syntax.Tree} (options : ExtractOptions)
    (hdecorates : ∀ node ∈ tree.root.preorder, DecoratesDefinition node) :
    (staged path text tree options.recordReads).ReadsFollowBindings ⟨text, tree.lines⟩
        options.recordReads tree.root ∧
      ∀ result, (staged path text tree options.recordReads).named options.duplicateNames =
          .ok result →
        result.ReadsFollowBindings ⟨text, tree.lines⟩ options.recordReads tree.root :=
  forall_isTaken (fun _ htaken => htaken.readsFollowBindings hdecorates) _

/-- A fixed token at an offset. -/
def fixedToken (kind : String) (start : Nat) : Node :=
  .mk { kind, named := false, start, stop := start + kind.utf8ByteSize } []

/-- A name of one letter at an offset. -/
def letterName (start : Nat) (role : Option String) : Node :=
  .mk { kind := "identifier", role, start, stop := start + 1 } []

/-- An assignment of a value of one letter to a name of one letter. -/
def letterAssignment (start : Nat) (value : String) : Node :=
  .mk { kind := "expression_statement", start, stop := start + 5 } [
    .mk { kind := "assignment", start, stop := start + 5 } [
      letterName start (some "left"), fixedToken "=" (start + 2),
      .mk { kind := value, role := some "right", start := start + 4, stop := start + 5 } []]]

/-- A function that changes a global variable, and one inside it that uses its parameter. -/
def declaringText : String :=
  "c = 0\ndef f(a):\n global c\n c = a\n @d\n def g():\n  nonlocal a\n  b = a\n  return b\n"

/-- The tree of `declaringText`. -/
def declaringTree : Syntax.Tree where
  root := .mk { kind := "module", start := 0, stop := 79 } [
    letterAssignment 0 "integer",
    .mk { kind := "function_definition", start := 6, stop := 78 } [
      fixedToken "def" 6, letterName 10 (some "name"),
      .mk { kind := "parameters", role := some "parameters", start := 11, stop := 14 } [
        fixedToken "(" 11, letterName 12 none, fixedToken ")" 13],
      fixedToken ":" 14,
      .mk { kind := "block", role := some "body", start := 17, stop := 78 } [
        .mk { kind := "global_statement", start := 17, stop := 25 } [
          fixedToken "global" 17, letterName 24 none],
        letterAssignment 27 "identifier",
        .mk { kind := "decorated_definition", start := 34, stop := 78 } [
          .mk { kind := "decorator", start := 34, stop := 36 } [
            fixedToken "@" 34, letterName 35 none],
          .mk { kind := "function_definition", role := some "definition", start := 38,
                stop := 78 } [
            fixedToken "def" 38, letterName 42 (some "name"),
            .mk { kind := "parameters", role := some "parameters", start := 43, stop := 45 } [
              fixedToken "(" 43, fixedToken ")" 44],
            fixedToken ":" 45,
            .mk { kind := "block", role := some "body", start := 49, stop := 78 } [
              .mk { kind := "nonlocal_statement", start := 49, stop := 59 } [
                fixedToken "nonlocal" 49, letterName 58 none],
              letterAssignment 62 "identifier",
              .mk { kind := "return_statement", start := 70, stop := 78 } [
                fixedToken "return" 70, letterName 77 none]]]]]]]
  lines := .ofText declaringText

/-- The inner function of `declaringText` uses a name that it has declared and not bound. -/
theorem reads_follow_bindings_declaring :
    ∃ extraction past, extract "a.py" declaringText declaringTree {} = .ok extraction ∧
      (∀ node ∈ declaringTree.root.preorder, DecoratesDefinition node) ∧
      ⟨2, "a", .localName, .read, 2, 8, none⟩ ∈ extraction.symbols ∧
      past <+: moduleEvents ⟨declaringText, declaringTree.lines⟩ declaringTree.root ∧
      Recorder.HasDeclared ⟨declaringText, declaringTree.lines⟩ true past 2 .nonlocal "a" := by
  obtain ⟨extraction, hextract⟩ :
      ∃ extraction, extract "a.py" declaringText declaringTree {} = .ok extraction :=
    exists_extract rfl (by decide)
  have hdecorates : ∀ node ∈ declaringTree.root.preorder, DecoratesDefinition node := by decide
  have hsymbols : extraction.symbols =
      [⟨0, "c", .globalName, .write, 0, 1, none⟩, ⟨1, "a", .parameter, .write, 1, 2, none⟩,
        ⟨1, "a", .parameter, .read, 1, 4, none⟩, ⟨1, "c", .globalName, .write, 1, 4, none⟩,
        ⟨1, "g", .localName, .write, 1, 6, none⟩] ++ ⟨2, "a", .localName, .read, 2, 8, none⟩ ::
        [⟨2, "b", .localName, .write, 2, 8, none⟩, ⟨2, "b", .localName, .read, 2, 9, none⟩] := by
    rw [(isTaken_extract hextract).symbols]
    decide +kernel
  obtain ⟨hscope, _⟩ | ⟨_, hbinds | ⟨past, hpast, _, hdeclared⟩⟩ :=
    ((reads_follow_bindings "a.py" declaringText {} hdecorates).2 extraction
      (extract_ok hextract).2 _ _ _ hsymbols rfl).2
  · simp at hscope
  · simp [Binds] at hbinds
  · exact ⟨extraction, past, hextract, hdecorates, by simp [hsymbols], hpast, hdeclared⟩

end Extraction

end SourceLedger
