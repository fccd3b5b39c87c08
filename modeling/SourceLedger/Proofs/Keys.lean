import Mathlib.Data.Set.Basic
import SourceLedger.Drift.Facts
import SourceLedger.Proofs.Comparison

/-!
# What keys tell

Imports and uses of names are compared by their keys, texts that are put together from parts, some
of which may be absent. The parts can be told apart again. In the key of an import each part ends at
the first character that it cannot have: the dots at the path of the module, the path at a colon or
a blank, the imported name at a blank. The key of a use is read from its end, because a name may
have colons and the words behind it have none. Components with equal sets of keys therefore import
the same and use the same names in the same way.

## Main definitions

* `IsLegibleImport` says which imports can be read back from their keys.
* `Findings.importedBy` and `Findings.usedBy` are what a component imports and does with names.

## Main statements

* `importKey_inj` and `symbolKey_inj` read a key back.
* `keys_tell_facts` does so for the sets of keys of two components.
-/

namespace SourceLedger

/-- Lists that go on behind a stretch with a property, which ends there, have the same parts. -/
theorem append_inj_of_ends {α : Type} {p : α → Prop} {front front' rest rest' : List α}
    (hfront : ∀ x ∈ front, p x) (hfront' : ∀ x ∈ front', p x)
    (hrest : ∀ x ∈ rest.head?, ¬ p x) (hrest' : ∀ x ∈ rest'.head?, ¬ p x)
    (h : front ++ rest = front' ++ rest') : front = front' ∧ rest = rest' := by
  induction front generalizing front' with
  | nil =>
    cases front' with
    | nil => exact ⟨rfl, h⟩
    | cons x front' =>
      rw [List.nil_append] at h
      exact absurd (hfront' x (List.mem_cons_self ..)) (hrest x (by rw [h]; rfl))
  | cons x front ih =>
    cases front' with
    | nil =>
      rw [List.nil_append] at h
      exact absurd (hfront x (List.mem_cons_self ..)) (hrest' x (by rw [← h]; rfl))
    | cons y front' =>
      obtain ⟨rfl, htail⟩ := List.cons.inj h
      obtain ⟨rfl, hsame⟩ := ih (fun z hz => hfront z (List.mem_cons_of_mem _ hz))
        (fun z hz => hfront' z (List.mem_cons_of_mem _ hz)) htail
      exact ⟨rfl, hsame⟩

section Imports

/-- The parts of an import can be told apart in its key: the path of the module does not begin with
a dot and has neither colons nor blanks, and the imported name has no blanks. -/
structure IsLegibleImport (modulePath : String) (name : Option String) : Prop where
  dot : modulePath.toList.head? ≠ some '.'
  colon : ':' ∉ modulePath.toList
  blank : ' ' ∉ modulePath.toList
  name : ∀ text ∈ name, ' ' ∉ text.toList

instance (modulePath : String) (name : Option String) :
    Decidable (IsLegibleImport modulePath name) :=
  decidable_of_iff
    (modulePath.toList.head? ≠ some '.' ∧ ':' ∉ modulePath.toList ∧ ' ' ∉ modulePath.toList ∧
      ∀ text ∈ name, ' ' ∉ text.toList)
    ⟨fun ⟨hdot, hcolon, hblank, hname⟩ => ⟨hdot, hcolon, hblank, hname⟩,
      fun h => ⟨h.dot, h.colon, h.blank, h.name⟩⟩

/-- The part of a key for the imported name. -/
def nameChars (name : Option String) : List Char :=
  name.elim [] (':' :: ·.toList)

/-- The part of a key for the alias. -/
def aliasChars (asName : Option String) : List Char :=
  asName.elim [] (' ' :: 'a' :: 's' :: ' ' :: ·.toList)

variable {modulePath modulePath' : String} {name name' asName asName' : Option String}
  {level level' : Nat}

theorem toList_importKey :
    (importKey modulePath name asName level).toList =
      List.replicate level '.' ++ (modulePath.toList ++ (nameChars name ++ aliasChars asName)) := by
  have hname : (name.elim "" (":" ++ ·)).toList = nameChars name := by
    cases name with
    | none => rfl
    | some text => exact String.toList_append
  have halias : (asName.elim "" (" as " ++ ·)).toList = aliasChars asName := by
    cases asName with
    | none => rfl
    | some text => exact String.toList_append
  simp only [importKey, String.toList_append, String.toList_ofList, hname, halias,
    List.append_assoc]

theorem nameChars_injective (h : nameChars name = nameChars name') : name = name' := by
  cases name <;> cases name' <;> simp_all [nameChars, String.toList_inj]

theorem aliasChars_injective (h : aliasChars asName = aliasChars asName') : asName = asName' := by
  cases asName <;> cases asName' <;> simp_all [aliasChars, String.toList_inj]

/-- An alias begins with a blank. -/
theorem eq_blank_of_mem_aliasChars {c : Char} (h : c ∈ (aliasChars asName).head?) : c = ' ' := by
  cases asName with
  | none => cases h
  | some text => exact (Option.some.inj h).symm

/-- What stands behind the path of a module begins with a colon or a blank. -/
theorem ends_path {c : Char} (h : c ∈ (nameChars name ++ aliasChars asName).head?) :
    c = ':' ∨ c = ' ' := by
  cases name with
  | none => exact .inr (eq_blank_of_mem_aliasChars h)
  | some text => exact .inl (Option.some.inj h).symm

theorem IsLegibleImport.not_mem_nameChars (h : IsLegibleImport modulePath name) :
    ' ' ∉ nameChars name := by
  cases name with
  | none => exact List.not_mem_nil
  | some text => simpa [nameChars] using h.name text rfl

/-- Where the path does not begin with a dot, nothing behind the dots of the level does. -/
theorem IsLegibleImport.ends_dots (h : IsLegibleImport modulePath name) {c : Char}
    (hc : c ∈ (modulePath.toList ++ (nameChars name ++ aliasChars asName)).head?) : c ≠ '.' := by
  rintro rfl
  cases hpath : modulePath.toList with
  | nil =>
    rw [hpath, List.nil_append] at hc
    rcases ends_path hc with hcolon | hblank
    · exact absurd hcolon (by decide)
    · exact absurd hblank (by decide)
  | cons first rest =>
    rw [hpath] at hc
    exact h.dot (by rw [hpath]; exact hc)

/-- An import can be read back from its key. -/
theorem importKey_inj (hlegible : IsLegibleImport modulePath name)
    (hlegible' : IsLegibleImport modulePath' name')
    (h : importKey modulePath name asName level = importKey modulePath' name' asName' level') :
    modulePath = modulePath' ∧ name = name' ∧ asName = asName' ∧ level = level' := by
  have hchars := congrArg String.toList h
  rw [toList_importKey, toList_importKey] at hchars
  obtain ⟨hdots, hbehind⟩ := append_inj_of_ends (p := (· = '.'))
    (fun c hc => List.eq_of_mem_replicate hc) (fun c hc => List.eq_of_mem_replicate hc)
    (fun c hc => hlegible.ends_dots hc) (fun c hc => hlegible'.ends_dots hc) hchars
  -- The path has no colons and no blanks, and ends in front of the first of them.
  have hpath {path : String} (hcolon : ':' ∉ path.toList) (hblank : ' ' ∉ path.toList) :
      ∀ c ∈ path.toList, ¬ (c = ':' ∨ c = ' ') := by
    rintro c hc (rfl | rfl)
    · exact hcolon hc
    · exact hblank hc
  obtain ⟨hmodule, hbehind⟩ := append_inj_of_ends (hpath hlegible.colon hlegible.blank)
    (hpath hlegible'.colon hlegible'.blank) (fun c hc => not_not.2 (ends_path hc))
    (fun c hc => not_not.2 (ends_path hc)) hbehind
  obtain ⟨hname, halias⟩ := append_inj_of_ends (p := (· ≠ ' '))
    (fun c hc heq => hlegible.not_mem_nameChars (heq ▸ hc))
    (fun c hc heq => hlegible'.not_mem_nameChars (heq ▸ hc))
    (fun c hc => not_not.2 (eq_blank_of_mem_aliasChars hc))
    (fun c hc => not_not.2 (eq_blank_of_mem_aliasChars hc)) hbehind
  refine ⟨String.toList_inj.1 hmodule, nameChars_injective hname, aliasChars_injective halias, ?_⟩
  simpa using congrArg List.length hdots

/-- A path with a colon reads like a path and a name. -/
example : importKey "a:b" none none 0 = importKey "a" (some "b") none 0 := by decide

end Imports

section Symbols

theorem ScopeKind.name_inj {scope scope' : ScopeKind} (h : scope.name = scope'.name) :
    scope = scope' := by
  rw [← Option.some_inj, ← ScopeKind.ofName?_name, h, ScopeKind.ofName?_name]

theorem AccessKind.name_inj {access access' : AccessKind} (h : access.name = access'.name) :
    access = access' := by
  rw [← Option.some_inj, ← AccessKind.ofName?_name, h, AccessKind.ofName?_name]

theorem colon_not_mem_scope (scope : ScopeKind) : ':' ∉ scope.name.toList := by
  cases scope <;> decide

theorem colon_not_mem_access (access : AccessKind) : ':' ∉ access.name.toList := by
  cases access <;> decide

/-- A text behind the last colon of another one can be told apart from what stands in front. -/
theorem append_colon_inj {front front' word word' : String} (hword : ':' ∉ word.toList)
    (hword' : ':' ∉ word'.toList) (h : front ++ ":" ++ word = front' ++ ":" ++ word') :
    front = front' ∧ word = word' := by
  have hchars := congrArg (fun text => text.toList.reverse) h
  simp only [String.toList_append, List.reverse_append, List.append_assoc] at hchars
  have hends {text : String} : ∀ c ∈ (":".toList.reverse ++ text.toList.reverse).head?,
      ¬ c ≠ ':' := fun c hc => not_not.2 (Option.some.inj hc).symm
  obtain ⟨hsame, hbehind⟩ := append_inj_of_ends (p := (· ≠ ':'))
    (fun c hc heq => hword (heq ▸ List.mem_reverse.1 hc))
    (fun c hc heq => hword' (heq ▸ List.mem_reverse.1 hc)) hends hends hchars
  have hfront := List.append_cancel_left hbehind
  exact ⟨String.toList_inj.1 (List.reverse_injective hfront),
    String.toList_inj.1 (List.reverse_injective hsame)⟩

/-- A use of a name can be read back from its key, whatever the name. -/
theorem symbolKey_inj {name name' : String} {scope scope' : ScopeKind}
    {access access' : AccessKind}
    (h : symbolKey name scope access = symbolKey name' scope' access') :
    name = name' ∧ scope = scope' ∧ access = access' := by
  obtain ⟨hfront, haccess⟩ :=
    append_colon_inj (colon_not_mem_access access) (colon_not_mem_access access') h
  obtain ⟨hname, hscope⟩ :=
    append_colon_inj (colon_not_mem_scope scope) (colon_not_mem_scope scope') hfront
  exact ⟨hname, ScopeKind.name_inj hscope, AccessKind.name_inj haccess⟩

end Symbols

section Sets

/-- What is imported, wherever the import stands. -/
def ImportRecord.subject (record : ImportRecord) :
    String × Option String × Option String × Nat :=
  (record.modulePath, record.name, record.asName, record.level)

/-- What is done with which name, wherever it is done. -/
def SymbolUse.subject (symbol : SymbolUse) : String × ScopeKind × AccessKind :=
  (symbol.name, symbol.scope, symbol.access)

/-- What the component at some position imports. -/
def Findings.importedBy (findings : Findings) (position : Nat) :
    Set (String × Option String × Option String × Nat) :=
  {subject | ∃ record ∈ Owned.select position findings.imports, record.subject = subject}

/-- What the component at some position does with names. -/
def Findings.usedBy (findings : Findings) (position : Nat) :
    Set (String × ScopeKind × AccessKind) :=
  {subject | ∃ symbol ∈ Owned.select position findings.symbols, symbol.subject = subject}

theorem KeySet.ofList_eq_iff {first second : List String} :
    ofList first = ofList second ↔ ∀ key, key ∈ first ↔ key ∈ second := by
  refine ⟨fun h key => ?_, ofList_congr⟩
  rw [← mem_ofList, h, mem_ofList]

/-- Lists with the same values under a function have the same values under every function that
depends on these. -/
theorem same_values {α β γ : Type} {f : α → β} {g : α → γ} {first second : List α}
    (hfg : ∀ x ∈ first ++ second, ∀ y ∈ first ++ second, f x = f y → g x = g y)
    (h : ∀ value, (∃ x ∈ first, f x = value) ↔ ∃ x ∈ second, f x = value) (value : γ) :
    (∃ x ∈ first, g x = value) ↔ ∃ x ∈ second, g x = value := by
  constructor
  · rintro ⟨x, hx, rfl⟩
    obtain ⟨y, hy, hsame⟩ := (h (f x)).1 ⟨x, hx, rfl⟩
    exact ⟨y, hy, hfg y (List.mem_append_right _ hy) x (List.mem_append_left _ hx) hsame⟩
  · rintro ⟨y, hy, rfl⟩
    obtain ⟨x, hx, hsame⟩ := (h (f y)).2 ⟨y, hy, rfl⟩
    exact ⟨x, hx, hfg x (List.mem_append_left _ hx) y (List.mem_append_right _ hy) hsame⟩

/-- Where keys can be read back, lists have the same set of keys exactly if they have the same set
of what the keys stand for. -/
theorem KeySet.ofList_map_eq_iff {α β : Type} {key : α → String} {subject : α → β}
    {first second : List α}
    (h : ∀ x ∈ first ++ second, ∀ y ∈ first ++ second, key x = key y ↔ subject x = subject y) :
    ofList (first.map key) = ofList (second.map key) ↔
      {value | ∃ x ∈ first, subject x = value} = {value | ∃ x ∈ second, subject x = value} := by
  rw [ofList_eq_iff, Set.ext_iff]
  simp only [List.mem_map, Set.mem_ofPred_eq]
  constructor
  · exact same_values fun x hx y hy => (h x hx y hy).1
  · exact same_values fun x hx y hy => (h x hx y hy).2

theorem SymbolUse.key_eq_iff {symbol other : SymbolUse} :
    symbol.key = other.key ↔ symbol.subject = other.subject := by
  constructor
  · intro h
    obtain ⟨hname, hscope, haccess⟩ := symbolKey_inj h
    rw [subject, subject, hname, hscope, haccess]
  · intro h
    obtain ⟨hname, hscope, haccess⟩ : symbol.name = other.name ∧ symbol.scope = other.scope ∧
        symbol.access = other.access := by simpa [subject] using h
    rw [key, key, hname, hscope, haccess]

theorem ImportRecord.key_eq_iff {record other : ImportRecord}
    (h : IsLegibleImport record.modulePath record.name)
    (h' : IsLegibleImport other.modulePath other.name) :
    record.key = other.key ↔ record.subject = other.subject := by
  constructor
  · intro hkey
    obtain ⟨hpath, hname, halias, hlevel⟩ := importKey_inj h h' hkey
    rw [subject, subject, hpath, hname, halias, hlevel]
  · intro hsubject
    obtain ⟨hpath, hname, halias, hlevel⟩ : record.modulePath = other.modulePath ∧
        record.name = other.name ∧ record.asName = other.asName ∧ record.level = other.level := by
      simpa [subject] using hsubject
    rw [key, key, hpath, hname, halias, hlevel]

/-- The facts of a component are those at its position. -/
theorem Findings.exists_factsAt {findings : Findings} {position : Nat} {facts : ComponentFacts}
    (h : findings.facts[position]? = some facts) :
    ∃ component, facts = findings.factsAt component position := by
  rw [Findings.facts, List.getElem?_map, List.getElem?_zipIdx] at h
  obtain ⟨numbered, hnumbered, rfl⟩ := Option.map_eq_some_iff.1 h
  obtain ⟨component, _, rfl⟩ := Option.map_eq_some_iff.1 hnumbered
  exact ⟨component, by rw [Nat.zero_add]⟩

/-- Keys lose nothing. No two uses of names have the same key, and no two legible imports. So two
components that import legibly have the same set of import keys exactly if they import the same,
and the same set of symbol keys exactly if they use the same names in the same way. -/
theorem keys_tell_facts :
    (∀ (name name' : String) (scope scope' : ScopeKind) (access access' : AccessKind),
      symbolKey name scope access = symbolKey name' scope' access' →
        name = name' ∧ scope = scope' ∧ access = access') ∧
    (∀ (modulePath modulePath' : String) (name name' asName asName' : Option String)
      (level level' : Nat),
      IsLegibleImport modulePath name → IsLegibleImport modulePath' name' →
        importKey modulePath name asName level = importKey modulePath' name' asName' level' →
          modulePath = modulePath' ∧ name = name' ∧ asName = asName' ∧ level = level') ∧
    ∀ (old new : Findings) (i j : Nat) (before after : ComponentFacts),
      old.facts[i]? = some before → new.facts[j]? = some after →
      (∀ record ∈ Owned.select i old.imports ++ Owned.select j new.imports,
        IsLegibleImport record.modulePath record.name) →
      (before.imports = after.imports ↔ old.importedBy i = new.importedBy j) ∧
        (before.symbols = after.symbols ↔ old.usedBy i = new.usedBy j) := by
  refine ⟨fun _ _ _ _ _ _ => symbolKey_inj, fun _ _ _ _ _ _ _ _ => importKey_inj, ?_⟩
  intro old new i j before after hbefore hafter hlegible
  obtain ⟨component, rfl⟩ := Findings.exists_factsAt hbefore
  obtain ⟨component', rfl⟩ := Findings.exists_factsAt hafter
  constructor
  · apply KeySet.ofList_map_eq_iff
    exact fun x hx y hy => ImportRecord.key_eq_iff (hlegible x hx) (hlegible y hy)
  · apply KeySet.ofList_map_eq_iff
    exact fun x _ y _ => SymbolUse.key_eq_iff

/-- A component that imports two names and assigns a variable twice. -/
def twiceBound : Findings where
  components := [default]
  imports := [⟨0, "pkg", some "a", some "b as c", 2, true, 1⟩,
    ⟨0, "", some "d:e", none, 1, true, 2⟩]
  symbols := [⟨0, "x:y", .globalName, .write, 0, 3, none⟩,
    ⟨0, "x:y", .globalName, .write, 0, 4, none⟩]

/-- A second component with the same imports in another order and a single assignment. -/
def onceBound : Findings where
  components := [default, default]
  imports := [⟨1, "", some "d:e", none, 1, true, 5⟩,
    ⟨1, "pkg", some "a", some "b as c", 2, true, 6⟩]
  symbols := [⟨1, "x:y", .globalName, .write, 0, 7, none⟩]

/-- The two components are compared by what they do, not by how often and in which order. A module
in a package has another key than a name that is taken from the package. -/
theorem keys_tell_facts_rearranged :
    (∀ record ∈ Owned.select 0 twiceBound.imports ++ Owned.select 1 onceBound.imports,
        IsLegibleImport record.modulePath record.name) ∧
      twiceBound.facts[0]? = some (twiceBound.factsAt default 0) ∧
      onceBound.facts[1]? = some (onceBound.factsAt default 1) ∧
      twiceBound.importedBy 0 = onceBound.importedBy 1 ∧
      twiceBound.usedBy 0 = onceBound.usedBy 1 ∧
      IsLegibleImport "pkg.a" none ∧ IsLegibleImport "pkg" (some "a") ∧
      importKey "pkg.a" none none 0 ≠ importKey "pkg" (some "a") none 0 := by
  have hlegible : ∀ record ∈ Owned.select 0 twiceBound.imports ++ Owned.select 1 onceBound.imports,
      IsLegibleImport record.modulePath record.name := by decide
  have hmodule : IsLegibleImport "pkg.a" none := by decide
  have hname : IsLegibleImport "pkg" (some "a") := by decide
  obtain ⟨_, himport, hsets⟩ := keys_tell_facts
  obtain ⟨himports, hsymbols⟩ := hsets twiceBound onceBound 0 1 _ _ rfl rfl hlegible
  refine ⟨hlegible, rfl, rfl, himports.1 ?_, hsymbols.1 ?_, hmodule, hname, fun hsame => ?_⟩
  · decide +kernel
  · decide +kernel
  · exact absurd (himport _ _ _ _ _ _ _ _ hmodule hname hsame).2.1 (by decide)

end Sets

end SourceLedger
