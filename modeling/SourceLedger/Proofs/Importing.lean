import SourceLedger.Proofs.Bindings
import SourceLedger.Proofs.Callsites
import SourceLedger.Proofs.Placement

/-!
# What is imported

Where imports stand as statements only, as definitions do, all of them are found, from front to
back. An import statement gives one record for each name that it lists, and one for all names if it
takes all. The records belong to the innermost component around the statement, which is the
statement itself at top level. A function knows what it imports: the name that a record binds is
written down as a write of the function.

## Main definitions

* `Node.ImportsInStatements` says that imports stand as statements only.
* `ImportRecord.AreOf` are the records of an import statement in full.
* `ImportRecord.StandIn` ties them to a place and to its owner.
* `Findings.ImportsStandIn` is what is said of the imports as a whole.

## Main statements

* `areOf_importRecords` says what the records of a statement are.
* `mem_sites_iff` finds the import statements of a tour.
* `Extraction.IsTaken.import_binds` is what a function writes down for an import.
* `Extraction.imports_in_order` finds the imports of a text, and says to whom they belong.
-/

namespace SourceLedger.Syntax.Node

/-- Imports and definitions stand as statements only. -/
structure ImportsInStatements (root : Node) : Prop extends root.DefinesInStatements where
  outermost : root.construct.isImport = false
  imports : root.StandInStatements Construct.isImport

/-- An import statement takes all names from a module. In the grammar only a `from` import has a
wildcard, and it is not looked for elsewhere. -/
def takesAll (statement : Node) : Bool :=
  statement.construct != .importStatement &&
    statement.namedChildren.any (·.construct == .wildcardImport)

end SourceLedger.Syntax.Node

namespace SourceLedger

open Outline (DecoratesDefinition Event IsComponentAt IsOwner Place Reading entered fileTour found
  fromModule importRecords moduleEvents moduleRecord splitAlias)
open Syntax (Construct Node)

namespace ImportRecord

/-- A record is one of an import statement: it has the line of the statement, and it takes from the
module that the statement gives. An `import` statement takes modules and not names. -/
structure IsTakenBy (record : ImportRecord) (reading : Reading) (statement : Node) : Prop where
  line : record.line = reading.line statement
  isFrom : record.isFrom = (statement.construct != .importStatement)
  name : record.name.isSome = record.isFrom
  absolute : statement.construct = .importStatement → record.level = 0
  origin : statement.construct = .importFromStatement →
    (record.modulePath, record.level) = fromModule reading statement
  future : statement.construct = .futureImportStatement →
    (record.modulePath, record.level) = ("__future__", 0)

/-- A record is that of one name in an import statement. -/
structure IsOfName (record : ImportRecord) (reading : Reading) (statement part : Node) : Prop
    extends record.IsTakenBy reading statement where
  imported : splitAlias reading part = (record.name.getD record.modulePath, record.asName)

/-- A record is that of all names of a module. -/
structure IsOfAll (record : ImportRecord) (reading : Reading) (statement : Node) : Prop
    extends record.IsTakenBy reading statement where
  wildcard : record.name = some "*"
  plain : record.asName = none

/-- Some records are those of an import statement. -/
def AreOf (records : List ImportRecord) (reading : Reading) (statement : Node) : Prop :=
  ∃ listed starred, records = listed ++ starred ∧
    List.Forall₂ (fun part record => IsOfName record reading statement part)
      (statement.childrenIn "name") listed ∧
    starred.length = (if statement.takesAll then 1 else 0) ∧
    ∀ record ∈ starred, record.IsOfAll reading statement

/-- Some imports are those of a statement in a place, and their owner is one of some places. -/
def StandIn (group : List (Owned ImportRecord)) (reading : Reading) (places : List Place)
    (site : Place) : Prop :=
  ∃ owner records, IsOwner places site owner ∧ AreOf records reading site.node ∧
    group = records.map (⟨owner, ·⟩)

variable {reading : Reading} {statement : Node}

theorem isOfName_moduleRecord (h : statement.construct = .importStatement) (part : Node) :
    (moduleRecord reading (reading.line statement) part).IsOfName reading statement part where
  line := rfl
  isFrom := by rw [h]; rfl
  name := rfl
  absolute _ := rfl
  origin hfrom := by simp [h] at hfrom
  future hfuture := by simp [h] at hfuture
  imported := rfl

/-- What a `from` import gives takes from its module, whatever its names are. -/
theorem isTakenBy_from (h : statement.construct ≠ .importStatement) (name : String)
    (asName : Option String) :
    let origin := if statement.construct = .futureImportStatement then ("__future__", 0)
      else fromModule reading statement
    IsTakenBy ⟨origin.1, some name, asName, origin.2, true, reading.line statement⟩ reading
      statement where
  line := rfl
  isFrom := by simp [h]
  name := rfl
  absolute himport := absurd himport h
  origin hfrom := by simp [hfrom]
  future hfuture := by simp [hfuture]

/-- The records of an import statement are complete. -/
theorem areOf_importRecords (reading : Reading) (statement : Node) :
    AreOf (importRecords reading statement) reading statement := by
  have hlisted {record : Node → ImportRecord}
      (h : ∀ part, (record part).IsOfName reading statement part) :
      List.Forall₂ (fun part record => IsOfName record reading statement part)
        (statement.childrenIn "name") ((statement.childrenIn "name").map record) :=
    List.forall₂_map_right_iff.2 (List.forall₂_same.2 fun part _ => h part)
  unfold importRecords
  by_cases himport : statement.construct = .importStatement
  · rw [if_pos himport]
    refine ⟨_, [], (List.append_nil _).symm, hlisted (isOfName_moduleRecord himport), ?_, by simp⟩
    simp [Node.takesAll, himport]
  · rw [if_neg himport]
    refine ⟨_, _, rfl, hlisted fun part => ?_, ?_, fun record hrecord => ?_⟩
    · exact { isTakenBy_from himport .. with imported := rfl }
    · simp [Node.takesAll, himport, apply_ite List.length]
    · obtain ⟨_, hmem⟩ := List.mem_ite_nil_right.1 hrecord
      obtain rfl := List.mem_singleton.1 hmem
      exact { isTakenBy_from himport .. with wildcard := rfl, plain := rfl }

/-- The component around a visit is the owner of what is imported there. -/
theorem standIn_of_areAt {group : List (Owned ImportRecord)} {places : List Place}
    {visit : Outline.Visit} (hopens : visit.opens = false) (howner : visit.KnowsOwner places none)
    (hat : AreAt group reading places visit) : StandIn group reading places visit.place := by
  obtain ⟨place, position, hunder, hposition, hgroup⟩ := hat
  exact ⟨position, _, howner.isOwner hopens hunder hposition, areOf_importRecords _ _, hgroup⟩

end ImportRecord

namespace Outline

variable {root : Node} (hroot : root.ImportsInStatements)

include hroot

/-- The import statements of a tree are those that a tour finds. -/
theorem mem_tour_iff_isImport {site : Place} :
    (∃ owner, ⟨site, false, owner⟩ ∈ tour .top none ⟨[], root⟩ .imports) ↔
      root.at? site.path = some site.node ∧ site.node.construct.isImport := by
  rw [mem_tour_iff]
  constructor
  · rintro ⟨stance, hleads, hfound⟩
    refine ⟨hleads.at?, ?_⟩
    cases stance <;> simp_all [isFound, finds, Sought.isAt]
  · rintro ⟨hsite, himport⟩
    obtain ⟨path, node⟩ := site
    rcases List.eq_nil_or_concat' path with rfl | ⟨above, index, rfl⟩
    · obtain rfl := Option.some.inj hsite
      exact absurd hroot.outermost (by simp [himport])
    obtain ⟨parent, hparent, hchild⟩ := Node.exists_parent hsite
    have hholds : node.holds Construct.isImport := Node.holds_self himport
    have hextra := Node.extra_of_isProper (hroot.imports.isProper hparent hchild hholds)
    obtain ⟨stance, hleads, hentry⟩ :=
      exists_entry hroot.toDefinesInStatements hroot.imports hparent hchild hholds
    refine ⟨stance, hleads, ?_⟩
    cases hentry with
    | statement hstance =>
      cases stance <;> simp_all [isFound, finds, Sought.isAt, Stance.isStatement]
    | decorated => simp [isFound, finds, Sought.isAt, hextra, himport]
    | body hblock => simp [Node.construct_eq_other hblock rfl, Construct.isImport] at himport

/-- They are found from front to back. -/
theorem pairwise_lt_found :
    (found (tour .top none ⟨[], root⟩ .imports)).Pairwise (·.path < ·.path) := by
  have hsites : ∀ visit ∈ tour .top none ⟨[], root⟩ .imports, visit.opens = false →
      IsSurrounded root visit.place := by
    rintro ⟨site, _, owner⟩ hvisit rfl
    obtain ⟨hsite, himport⟩ := (mem_tour_iff_isImport hroot).1 ⟨owner, hvisit⟩
    exact isSurrounded_of_holds hroot.toDefinesInStatements hroot.imports hsite
      (Node.holds_self himport)
  have hsorted :=
    pairwise_lt_tour_of hroot.toDefinesInStatements false (.here .top root) hsites
  refine List.pairwise_map.2 (List.pairwise_filter.2 (hsorted.imp fun hlt hopens hopens' => ?_))
  exact hlt (by simpa using hopens) (by simpa using hopens')

end Outline

/-- What is said of components, imports and symbols where the components stand in some places, and
the imports come in groups, one for each statement. -/
structure Findings.ImportsStandIn (findings : Findings) (tree : Syntax.Tree) (places : List Place)
    (groups : List (List (Owned ImportRecord))) : Prop where
  components : List.Forall₂ (fun place component => component.StandsIn tree places place) places
    findings.components
  imports : findings.imports = groups.flatten
  /-- A function that imports something else than all names writes the name that the import
  binds. -/
  bound : ∀ owned ∈ findings.imports, ∀ component,
    findings.components[owned.owner]? = some component → component.kind.isFunction →
    owned.fact.name ≠ some "*" →
      ∃ symbol ∈ findings.symbols, symbol.owner = owned.owner ∧ symbol.fact.access = .write ∧
        symbol.fact.line = owned.fact.line ∧ symbol.fact.name = owned.fact.boundName

namespace Extraction

variable {path text : String} {tree : Syntax.Tree} {recordReads : Bool} {extraction : Extraction}

theorem IsTaken.imports (h : extraction.IsTaken path text tree recordReads) :
    extraction.imports = (Recorder.run recordReads {}
      (moduleEvents ⟨text, tree.lines⟩ tree.root)).findings.imports := by
  rw [h.rest]
  rfl

/-- Naming the components does not change their kinds. -/
theorem IsTaken.kinds (h : extraction.IsTaken path text tree recordReads) :
    extraction.components.map Component.kind =
      (staged path text tree recordReads).components.map Component.kind := by
  have hunnamed := congrArg (List.map Component.kind) h.components
  rw [List.map_map, List.map_map] at hunnamed
  exact hunnamed

/-- A use of a name that an event writes down is among the symbols. -/
theorem IsTaken.mem_symbols (h : extraction.IsTaken path text tree recordReads)
    {before : List Event} {event : Event}
    (hbefore : before ++ [event] <+: moduleEvents ⟨text, tree.lines⟩ tree.root)
    {frame : Frame} {symbol : SymbolUse}
    (hframe : (Recorder.run recordReads {} before).stack.head? = some frame)
    (hsymbol : frame.symbol? recordReads event = some symbol) :
    ⟨frame.component, symbol⟩ ∈ extraction.symbols := by
  obtain ⟨rest, hrest⟩ := hbefore
  obtain ⟨new, hnew⟩ := Recorder.exists_run_eq recordReads rest
    (Recorder.run recordReads {} (before ++ [event]))
  rw [h.symbols, ← hrest, Recorder.run_append, hnew, Findings.append_def, Findings.append,
    Recorder.symbols_concat, hframe]
  simp [Owned.noted, hsymbol]

/-- A function writes down the name that an import binds, unless it takes all names. -/
theorem IsTaken.import_binds (h : extraction.IsTaken path text tree recordReads)
    (hdecorates : ∀ node ∈ tree.root.preorder, DecoratesDefinition node)
    {owned : Owned ImportRecord} (hmem : owned ∈ extraction.imports) {component : Component}
    (hcomponent : extraction.components[owned.owner]? = some component)
    (hfunction : component.kind.isFunction) (hname : owned.fact.name ≠ some "*") :
    ∃ symbol ∈ extraction.symbols, symbol.owner = owned.owner ∧ symbol.fact.access = .write ∧
      symbol.fact.line = owned.fact.line ∧ symbol.fact.name = owned.fact.boundName := by
  rw [h.imports] at hmem
  obtain ⟨front, rest, hsplit⟩ := List.append_of_mem hmem
  obtain ⟨before, frame, hbefore, hframe, howner⟩ := Recorder.exists_import_event hsplit
  obtain ⟨_, other, hother, hfits⟩ := frame_before h hdecorates hbefore hframe
  rw [howner] at hcomponent
  obtain rfl := Option.some.inj (hother.symm.trans hcomponent)
  have hbinding : frame.binding? (.imports owned.fact) =
      some ⟨owned.fact.boundName, .write, none, owned.fact.line⟩ :=
    if_pos ⟨hfits.function.2 hfunction, hname⟩
  have hsymbol := Frame.symbol?_of_binding? hbinding recordReads
  exact ⟨_, h.mem_symbols hbefore hframe hsymbol, howner.symm, rfl, rfl, rfl⟩

/-- Where imports and definitions stand as statements only, the imports that are taken from a text
are those of the import statements of its tree, from front to back: one for each name that a
statement lists and one for all names if it takes all, owned by the innermost component around the
statement. A function that imports something else than all names writes the name that the import
binds. All this holds with names given or not.

A wildcard is read as taking all names where it stands in a `from` import, of the future or not:
`Node.takesAll` leaves out the other import statements, in which the grammar has no wildcard. -/
theorem imports_in_order (path text : String) {tree : Syntax.Tree} (options : ExtractOptions)
    (hstatements : tree.root.namedChildren ≠ []) (hroot : tree.root.ImportsInStatements) :
    ∃ (places sites : List Place) (groups : List (List (Owned ImportRecord))),
      (∀ place, place ∈ places ↔ IsComponentAt tree.root place) ∧
      (∀ site, site ∈ sites ↔
        tree.root.at? site.path = some site.node ∧ site.node.construct.isImport) ∧
      sites.Pairwise (·.path < ·.path) ∧
      List.Forall₂ (fun site group =>
        ImportRecord.StandIn group ⟨text, tree.lines⟩ places site) sites groups ∧
      (staged path text tree options.recordReads).ImportsStandIn tree places groups ∧
      ∀ result, (staged path text tree options.recordReads).named options.duplicateNames =
          .ok result →
        result.ImportsStandIn tree places groups := by
  have hdefines := hroot.toDefinesInStatements
  have hdecorates := Outline.decoratesOthers hdefines
  have htour (sought : Outline.Sought) :
      fileTour text tree.root sought = Outline.tour .top none ⟨[], tree.root⟩ sought :=
    if_neg hstatements
  obtain ⟨groups, hflatten, hgroups⟩ := exists_imports_run text tree options.recordReads
  rw [Outline.entered_fileTour .imports .calls] at hgroups
  have hall : ∀ node ∈ tree.root.preorder, DecoratesDefinition node :=
    fun node hnode => hroot.definition.of_mem_preorder hnode
  have hstand (extraction : Extraction)
      (htaken : extraction.IsTaken path text tree options.recordReads) :
      extraction.ImportsStandIn tree (entered (fileTour text tree.root)) groups :=
    { components := htaken.standsIn hdecorates
      imports := htaken.imports.trans hflatten
      bound := fun _ hmem _ hcomponent hfunction hname =>
        htaken.import_binds hall hmem hcomponent hfunction hname }
  refine ⟨entered (fileTour text tree.root), found (fileTour text tree.root .imports), groups,
    fun place => ?_, fun site => ?_, ?_, ?_, forall_isTaken hstand _⟩
  · rw [htour]
    exact Outline.mem_entered_iff hdefines
  · rw [Outline.mem_found, htour]
    exact Outline.mem_tour_iff_isImport hroot
  · rw [htour]
    exact Outline.pairwise_lt_found hroot
  · refine Outline.forall₂_fileTour hdecorates hgroups fun visit group hcloses howner hat => ?_
    rw [Outline.entered_fileTour .imports .calls] at howner
    exact ImportRecord.standIn_of_areAt (by simpa using hcloses) howner hat

/-- An import at top level, and two in a function, of which the last one takes all names. -/
def importingText : String :=
  "from .m import x\ndef f():\n import a.b as c\n from d import *\n"

/-- The tree of `importingText`. -/
def importingTree : Syntax.Tree where
  root := .mk { kind := "module", start := 0, stop := 60 } [
    .mk { kind := "import_from_statement", start := 0, stop := 16 } [
      fixedToken "from" 0,
      .mk { kind := "relative_import", role := some "module_name", start := 5, stop := 7 } [
        .mk { kind := "import_prefix", start := 5, stop := 6 } [fixedToken "." 5],
        .mk { kind := "dotted_name", start := 6, stop := 7 } [letterName 6 none]],
      fixedToken "import" 8,
      .mk { kind := "dotted_name", role := some "name", start := 15, stop := 16 } [
        letterName 15 none]],
    .mk { kind := "function_definition", start := 17, stop := 59 } [
      fixedToken "def" 17, letterName 21 (some "name"),
      .mk { kind := "parameters", role := some "parameters", start := 22, stop := 24 } [
        fixedToken "(" 22, fixedToken ")" 23],
      fixedToken ":" 24,
      .mk { kind := "block", role := some "body", start := 27, stop := 59 } [
        .mk { kind := "import_statement", start := 27, stop := 42 } [
          fixedToken "import" 27,
          .mk { kind := "aliased_import", role := some "name", start := 34, stop := 42 } [
            .mk { kind := "dotted_name", role := some "name", start := 34, stop := 37 } [
              letterName 34 none, fixedToken "." 35, letterName 36 none],
            fixedToken "as" 38, letterName 41 (some "alias")]],
        .mk { kind := "import_from_statement", start := 44, stop := 59 } [
          fixedToken "from" 44,
          .mk { kind := "dotted_name", role := some "module_name", start := 49, stop := 50 } [
            letterName 49 none],
          fixedToken "import" 51,
          .mk { kind := "wildcard_import", start := 58, stop := 59 } [fixedToken "*" 58]]]]]
  lines := .ofText importingText

theorem importsInStatements_importing : importingTree.root.ImportsInStatements where
  start := by decide
  proper := Node.everywhere_of_preorder (by decide)
  passes statement h :=
    Node.everywhere_of_preorder ((by decide : ∀ statement ∈ importingTree.root.children,
      ∀ node ∈ statement.preorder, ∀ child ∈ node.children.zipIdx,
        child.1.holdsDefinition → node.passesTo child.2) statement h)
  definition := Node.everywhere_of_preorder (by decide)
  body := Node.everywhere_of_preorder (by decide)
  outermost := by decide
  imports :=
    { proper := Node.everywhere_of_preorder (by decide)
      passes := fun statement h =>
        Node.everywhere_of_preorder ((by decide : ∀ statement ∈ importingTree.root.children,
          ∀ node ∈ statement.preorder, ∀ child ∈ node.children.zipIdx,
            child.1.holds Construct.isImport → node.passesTo child.2) statement h) }

/-- The function in `importingText` writes the name under which it imports a module. -/
theorem imports_in_order_importing :
    ∃ extraction, ∃ sites : List Place,
      extract "a.py" importingText importingTree {} = .ok extraction ∧
      importingTree.root.namedChildren ≠ [] ∧ importingTree.root.ImportsInStatements ∧
      extraction.imports = [⟨0, "m", some "x", none, 1, true, 1⟩,
        ⟨1, "a.b", none, some "c", 0, false, 3⟩, ⟨1, "d", some "*", none, 0, true, 4⟩] ∧
      sites.Pairwise (·.path < ·.path) ∧ (∃ site ∈ sites, site.path = [1, 4, 1]) ∧
      ∃ symbol ∈ extraction.symbols, symbol.owner = 1 ∧ symbol.fact.access = .write ∧
        symbol.fact.line = 3 ∧ symbol.fact.name = "c" := by
  obtain ⟨extraction, hextract⟩ :
      ∃ extraction, extract "a.py" importingText importingTree {} = .ok extraction :=
    exists_extract rfl (by decide)
  have himports : extraction.imports = [⟨0, "m", some "x", none, 1, true, 1⟩,
      ⟨1, "a.b", none, some "c", 0, false, 3⟩, ⟨1, "d", some "*", none, 0, true, 4⟩] := by
    rw [(isTaken_extract hextract).imports]
    decide +kernel
  have hkinds : extraction.components.map Component.kind = [.importing, .function] := by
    rw [(isTaken_extract hextract).kinds]
    decide +kernel
  have hkind : extraction.components[1]?.map Component.kind = some .function := by
    rw [← List.getElem?_map, hkinds]
    rfl
  obtain ⟨component, hcomponent, hkind⟩ := Option.map_eq_some_iff.1 hkind
  obtain ⟨_, sites, _, _, hsites, hsorted, _, _, hnamed⟩ :=
    imports_in_order "a.py" importingText {} (by decide) importsInStatements_importing
  have hstand := hnamed extraction (extract_ok hextract).2
  have hbound := hstand.bound ⟨1, "a.b", none, some "c", 0, false, 3⟩ (by simp [himports]) component
    hcomponent (by rw [hkind]; rfl) (by decide)
  exact ⟨extraction, sites, hextract, by decide, importsInStatements_importing, himports, hsorted,
    ⟨⟨[1, 4, 1], _⟩, (hsites _).2 ⟨rfl, rfl⟩, rfl⟩, hbound⟩

end Extraction

end SourceLedger
