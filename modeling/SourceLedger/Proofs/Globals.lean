import SourceLedger.Proofs.Bindings

/-!
# Global variables

Whether a bare name is a global variable is decided where it is bound: in the namespace of the
module it always is, and in that of a function if it has been declared so. The second case is
written down twice, as a symbol and as a change of a global variable. The two lists agree, because
a component has the namespace of a function exactly if it is a function or a method.

## Main definitions

* `Owned.isGlobalInFunction` picks the symbols that are global variables of functions and methods.
* `Owned.asGlobal` is a symbol as a change of a global variable.
* `Findings.GlobalsFollowSymbols` says how the two lists agree.

## Main statements

* `Frame.global?_eq` compares what one event writes down in the two lists.
* `Extraction.globals_follow_symbols` says it of what is taken from a text.
-/

namespace SourceLedger

open Outline (DecoratesDefinition Event Reading moduleEvents)
open Syntax (Node)

/-- Whether a symbol is a global variable that is bound in a function or method. -/
def Owned.isGlobalInFunction (components : List Component) (symbol : Owned SymbolUse) : Bool :=
  symbol.fact.scope == .globalName && components[symbol.owner]?.any (·.kind.isFunction)

/-- A symbol as a change of a global variable. -/
def Owned.asGlobal (symbol : Owned SymbolUse) : Owned GlobalAccess :=
  ⟨symbol.owner, symbol.fact.name, symbol.fact.access, symbol.fact.line⟩

namespace Frame

variable {frame : Frame} {event : Event} {recordReads : Bool}

theorem scopeOf_eq_globalName {name : String} (h : frame.scopeOf name = .globalName) :
    frame.scope = .moduleBody ∨ frame.scope = .functionBody ∧ name ∈ frame.globals := by
  unfold scopeOf at h
  cases hscope : frame.scope with
  | moduleBody => exact .inl rfl
  | classBody => simp [hscope] at h
  | functionBody => exact .inr ⟨rfl, by simpa [hscope] using h⟩

/-- A global variable that is written down has been bound. -/
theorem binding_of_symbol? {symbol : SymbolUse} (h : frame.symbol? recordReads event = some symbol)
    (hwrites : event.Writes) (hglobal : symbol.scope = .globalName) :
    ∃ binding, frame.binding? event = some binding := by
  cases event with
  | parameter name typeText line =>
    obtain rfl := Option.some.inj h
    simp at hglobal
  | store place scope access typeText line =>
    obtain rfl := Option.some.inj h
    exact absurd hglobal hwrites.1
  | mention name line =>
    obtain ⟨_, hsome⟩ := Option.ite_none_right_eq_some.1 h
    obtain ⟨scope, hscope, rfl⟩ := Option.map_eq_some_iff.1 hsome
    unfold readScope? at hscope
    grind
  | _ =>
    simp only [symbol?] at h
    obtain ⟨binding, hbinding, _⟩ := Option.map_eq_some_iff.1 h
    exact ⟨binding, hbinding⟩

/-- A change of a global variable is written down along with a symbol, and for every global variable
that is bound in the namespace of a function. -/
theorem global?_eq (frame : Frame) (hwrites : event.Writes) (recordReads : Bool) :
    frame.global? event = (frame.symbol? recordReads event).bind fun symbol =>
      if symbol.scope = .globalName ∧ frame.scope = .functionBody then
        some ⟨symbol.name, symbol.access, symbol.line⟩
      else none := by
  cases hbinding : frame.binding? event with
  | some binding =>
    rw [global?, hbinding, symbol?_of_binding? hbinding, Option.bind_some, Option.bind_some]
    cases hscope : frame.scope <;> simp [scopeOf, hscope]
  | none =>
    rw [global?, hbinding, Option.bind_none]
    symm
    rw [Option.bind_eq_none_iff]
    intro symbol hsymbol
    refine if_neg fun hglobal => ?_
    obtain ⟨binding, hsome⟩ := binding_of_symbol? hsymbol hwrites hglobal.1
    simp [hbinding] at hsome

end Frame

namespace Recorder

variable {recordReads : Bool} {past : List Event}

theorem globals_concat (event : Event) :
    (run recordReads {} (past ++ [event])).findings.globals =
      (run recordReads {} past).findings.globals ++
        Owned.noted (run recordReads {} past).stack.head? (·.global? event) := by
  rw [run_concat, step_eq]
  rfl

/-- What one event writes down in the two lists agrees if the frame on top fits its component. -/
theorem noted_global {event : Event} (hwrites : event.Writes) {top : Option Frame}
    {components : List Component}
    (hfits : ∀ frame ∈ top, ∃ component, components[frame.component]? = some component ∧
      frame.Fits component) :
    Owned.noted top (·.global? event) =
      ((Owned.noted top (·.symbol? recordReads event)).filter
        (Owned.isGlobalInFunction components)).map Owned.asGlobal := by
  cases top with
  | none => rfl
  | some frame =>
    obtain ⟨component, hcomponent, hfit⟩ := hfits frame rfl
    have hglobal := frame.global?_eq hwrites recordReads
    cases hsymbol : frame.symbol? recordReads event with
    | none => simp [Owned.noted, hglobal, hsymbol]
    | some symbol =>
      have hpicked : Owned.isGlobalInFunction components ⟨frame.component, symbol⟩ ↔
          symbol.scope = .globalName ∧ frame.scope = .functionBody := by
        simp [Owned.isGlobalInFunction, hcomponent, hfit.function]
      rw [hsymbol, Option.bind_some] at hglobal
      simp only [Owned.noted, Option.toList_some, List.flatMap_cons, List.flatMap_nil,
        List.append_nil, hglobal, hsymbol, List.map_cons, List.map_nil, List.filter_singleton]
      by_cases hboth : symbol.scope = .globalName ∧ frame.scope = .functionBody
      · rw [if_pos hboth, hpicked.2 hboth]
        rfl
      · rw [if_neg hboth, Bool.eq_false_iff.2 (hpicked.not.2 hboth)]
        rfl

end Recorder

/-- How the changes of global variables and the symbols agree. What has been declared is told by the
events of the tree up to a change. -/
structure Findings.GlobalsFollowSymbols (findings : Findings) (reading : Reading)
    (recordReads : Bool) (root : Node) : Prop where
  /-- The changes of global variables are the symbols of functions and methods that are global
  variables, in the same order. -/
  agree : findings.globals =
    (findings.symbols.filter (Owned.isGlobalInFunction findings.components)).map Owned.asGlobal
  /-- None of them is a use, and each was declared before, by the same function. -/
  declared : ∀ front change rest, findings.globals = front ++ change :: rest →
    change.fact.access ≠ .read ∧
      ∃ past, past <+: moduleEvents reading root ∧
        (Recorder.run recordReads {} past).findings.globals = front ∧
        Recorder.HasDeclared reading recordReads past change.owner .global change.fact.name
  /-- Other components with global variables stand at top level and are no definitions. -/
  outside : ∀ symbol ∈ findings.symbols, symbol.fact.scope = .globalName →
    ∃ component, findings.components[symbol.owner]? = some component ∧
      (component.kind.isFunction ∨
        component.parent = none ∧ component.kind.isNamedDefinition = false)

namespace Extraction

variable {path text : String} {tree : Syntax.Tree} {recordReads : Bool} {extraction : Extraction}

/-- All along, the changes of global variables are the symbols that are global variables of
functions and methods. -/
theorem globals_run (h : extraction.IsTaken path text tree recordReads)
    (hdecorates : ∀ node ∈ tree.root.preorder, DecoratesDefinition node) {past : List Event}
    (hpast : past <+: moduleEvents ⟨text, tree.lines⟩ tree.root) :
    (Recorder.run recordReads {} past).findings.globals =
      ((Recorder.run recordReads {} past).findings.symbols.filter
        (Owned.isGlobalInFunction extraction.components)).map Owned.asGlobal := by
  induction past using List.reverseRecOn with
  | nil => rfl
  | append_singleton past event ih =>
    have hfits : ∀ frame ∈ (Recorder.run recordReads {} past).stack.head?, ∃ component,
        extraction.components[frame.component]? = some component ∧ frame.Fits component :=
      fun frame hframe => (frame_before h hdecorates hpast hframe).2
    rw [Recorder.globals_concat, Recorder.symbols_concat, List.filter_append, List.map_append,
      ih ((List.prefix_append _ _).trans hpast),
      Recorder.noted_global (writes_before hpast) hfits]

theorem IsTaken.globalsFollowSymbols (h : extraction.IsTaken path text tree recordReads)
    (hdecorates : ∀ node ∈ tree.root.preorder, DecoratesDefinition node) :
    extraction.GlobalsFollowSymbols ⟨text, tree.lines⟩ recordReads tree.root where
  agree := by
    rw [h.globals, h.symbols]
    exact globals_run h hdecorates List.prefix_rfl
  declared front change rest hglobals := by
    rw [h.globals] at hglobals
    obtain ⟨before, event, frame, hbefore, hfront, hframe, hchange, howner⟩ :=
      Recorder.exists_global_event hglobals
    obtain ⟨binding, hbinding, hdeclared⟩ := Option.bind_eq_some_iff.1 hchange
    obtain ⟨⟨_, hname⟩, hsome⟩ := Option.ite_none_right_eq_some.1 hdeclared
    obtain ⟨hrecalls, _⟩ := frame_before h hdecorates hbefore hframe
    rw [← Option.some.inj hsome, howner]
    exact ⟨Frame.access_of_binding? hbinding (writes_before hbefore), before,
      (List.prefix_append _ _).trans hbefore, hfront, hrecalls.globals _ hname⟩
  outside symbol hsymbol hglobal := by
    rw [h.symbols] at hsymbol
    obtain ⟨front, rest, hsymbols⟩ := List.append_of_mem hsymbol
    obtain ⟨before, event, frame, hbefore, _, hframe, hfact, howner⟩ :=
      Recorder.exists_symbol_event hsymbols
    obtain ⟨_, component, hcomponent, hfits⟩ := frame_before h hdecorates hbefore hframe
    obtain ⟨binding, hbinding⟩ :=
      Frame.binding_of_symbol? hfact (writes_before hbefore) hglobal
    have hsame := (Frame.symbol?_of_binding? hbinding recordReads).symm.trans hfact
    rw [← Option.some.inj hsame] at hglobal
    rw [howner]
    refine ⟨component, hcomponent, ?_⟩
    rcases Frame.scopeOf_eq_globalName hglobal with hmodule | ⟨hfunction, _⟩
    · exact .inr (hfits.module hmodule)
    · exact .inl (hfits.function.1 hfunction)

/-- The changes of global variables follow the symbols, in what is taken from a text, with names
given or not. -/
theorem globals_follow_symbols (path text : String) {tree : Syntax.Tree} (options : ExtractOptions)
    (hdecorates : ∀ node ∈ tree.root.preorder, DecoratesDefinition node) :
    (staged path text tree options.recordReads).GlobalsFollowSymbols ⟨text, tree.lines⟩
        options.recordReads tree.root ∧
      ∀ result, (staged path text tree options.recordReads).named options.duplicateNames =
          .ok result →
        result.GlobalsFollowSymbols ⟨text, tree.lines⟩ options.recordReads tree.root :=
  forall_isTaken (fun _ htaken => htaken.globalsFollowSymbols hdecorates) _

/-- The outer function of `declaringText` changes a global variable, which the module has bound. -/
theorem globals_follow_symbols_declaring :
    ∃ extraction past, extract "a.py" declaringText declaringTree {} = .ok extraction ∧
      (∀ node ∈ declaringTree.root.preorder, DecoratesDefinition node) ∧
      extraction.globals = [⟨1, "c", .write, 4⟩] ∧
      (extraction.symbols.filter (Owned.isGlobalInFunction extraction.components)).map
        Owned.asGlobal = [⟨1, "c", .write, 4⟩] ∧
      past <+: moduleEvents ⟨declaringText, declaringTree.lines⟩ declaringTree.root ∧
      Recorder.HasDeclared ⟨declaringText, declaringTree.lines⟩ true past 1 .global "c" := by
  obtain ⟨extraction, hextract⟩ :
      ∃ extraction, extract "a.py" declaringText declaringTree {} = .ok extraction :=
    exists_extract rfl (by decide)
  have hdecorates : ∀ node ∈ declaringTree.root.preorder, DecoratesDefinition node := by decide
  have hglobals : extraction.globals = [⟨1, "c", .write, 4⟩] := by
    rw [(isTaken_extract hextract).globals]
    decide +kernel
  have hfollows := (globals_follow_symbols "a.py" declaringText {} hdecorates).2 extraction
    (extract_ok hextract).2
  obtain ⟨_, past, hpast, _, hstatement⟩ := hfollows.declared [] _ [] hglobals
  exact ⟨extraction, past, hextract, hdecorates, hglobals, hfollows.agree ▸ hglobals, hpast,
    hstatement⟩

end Extraction

end SourceLedger
