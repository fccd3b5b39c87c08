import Mathlib.Data.List.Infix
import Mathlib.Data.List.Nodup
import SourceLedger.Proofs.Tour

/-!
# Where a tour goes

A tour visits a place at most once, and every visit knows the innermost component around it among
all components of the tour. The places that are visited are those that steps lead to.

## Main definitions

* `Visit.IsInside` says that a visit lies inside a component.
* `Visit.KnowsOwner` says that a visit names the innermost component around it.
* `Leads` follows the steps along a path.

## Main statements

* `knowsOwner_tour` finds the component around every visit of a tour.
* `pairwise_tour` says that no place is visited twice.
* `mem_tour_iff` finds the visits of a tour at the ends of its ways.
-/

namespace SourceLedger.Outline

open Syntax (Node Construct)

/-- The places at which a component opens. -/
def entered (visits : List Visit) : List Place :=
  (visits.filter (·.opens)).map (·.place)

theorem mem_entered {visits : List Visit} {place : Place} :
    place ∈ entered visits ↔ ∃ visit ∈ visits, visit.opens ∧ visit.place = place := by
  simp [entered, and_assoc]

/-- The places at which what is looked for is found. -/
def found (visits : List Visit) : List Place :=
  (visits.filter (!·.opens)).map (·.place)

theorem mem_found {visits : List Visit} {place : Place} :
    place ∈ found visits ↔ ∃ owner, ⟨place, false, owner⟩ ∈ visits := by
  constructor
  · intro h
    obtain ⟨⟨_, opens, owner⟩, hvisit, rfl⟩ := List.mem_map.1 h
    obtain ⟨hmem, hopens⟩ := List.mem_filter.1 hvisit
    obtain rfl : opens = false := by simpa using hopens
    exact ⟨owner, hmem⟩
  · rintro ⟨owner, hmem⟩
    exact List.mem_map.2 ⟨_, List.mem_filter.2 ⟨hmem, rfl⟩, rfl⟩

@[simp]
theorem entered_append (visits more : List Visit) :
    entered (visits ++ more) = entered visits ++ entered more := by
  simp [entered]

/-- A visit lies inside a component. A component does not lie inside itself. -/
def Visit.IsInside (visit : Visit) (place : Place) : Prop :=
  place.path <+: visit.place.path ∧ (visit.opens → place.path ≠ visit.place.path)

/-- A visit names the innermost of some components around it, and `under` if it lies inside none of
them. -/
inductive Visit.KnowsOwner (visit : Visit) (components : List Place) (under : Option Place) : Prop
  | outside (hunder : visit.under = under) (h : ∀ place ∈ components, ¬ visit.IsInside place)
  | inside {owner : Place} (hunder : visit.under = some owner) (howner : owner ∈ components)
      (hinside : visit.IsInside owner)
      (h : ∀ place ∈ components, visit.IsInside place → place.path <+: owner.path)

/-- Only the components around a visit matter. -/
theorem Visit.KnowsOwner.congr {visit : Visit} {components others : List Place}
    {under : Option Place} (h : visit.KnowsOwner components under)
    (hsame : ∀ place, visit.IsInside place → (place ∈ components ↔ place ∈ others)) :
    visit.KnowsOwner others under := by
  cases h with
  | outside hunder hnone =>
    exact .outside hunder fun place hplace hinside =>
      hnone place ((hsame place hinside).2 hplace) hinside
  | inside hunder howner hinside hinner =>
    exact .inside hunder ((hsame _ hinside).1 howner) hinside fun place hplace hin =>
      hinner place ((hsame place hin).2 hplace) hin

section Paths

variable {path inner : List Nat} {first second : Nat}

theorem not_prefix_of_ne {base : List Nat} (hne : first ≠ second)
    (hpath : base ++ [first] <+: path) (hinner : base ++ [second] <+: inner) :
    ¬ path <+: inner := by
  intro hprefix
  have hboth := List.prefix_of_prefix_length_le (hpath.trans hprefix) hinner (by simp)
  have hsame := (hboth.eq_of_length (by simp))
  simp only [List.append_cancel_left_eq, List.cons.injEq, and_true] at hsame
  exact hne hsame

theorem not_prefix_of_child (hpath : inner ++ [first] <+: path) : ¬ path <+: inner := by
  intro hprefix
  have hlength := (hpath.trans hprefix).length_le
  rw [List.length_append, List.length_singleton] at hlength
  omega

theorem prefix_of_child (hpath : inner ++ [first] <+: path) : inner <+: path :=
  (List.prefix_append _ _).trans hpath

theorem ne_of_child (hpath : inner ++ [first] <+: path) : inner ≠ path := by
  rintro rfl
  exact not_prefix_of_child hpath List.prefix_rfl

end Paths

variable {sought : Sought}

/-- A tour visits its place, to open a component or for what is found there, and then goes on. -/
theorem mem_tour {stance : Stance} {under : Option Place} {place : Place} {visit : Visit}
    (h : visit ∈ tour stance under place sought) :
    (opens stance place.node ∧ visit = ⟨place, true, under⟩) ∨
      (∃ owner, finds stance place.node sought ∧ visit = ⟨place, false, owner⟩) ∨
      ∃ inner, visit ∈ toursOf inner place (steps stance place.node) sought := by
  rw [tour_eq, List.mem_append, List.mem_append] at h
  rcases h with h | h | h
  · split at h
    · exact .inl ⟨‹_›, List.mem_singleton.1 h⟩
    · simp at h
  · split at h
    · exact .inr (.inl ⟨_, ‹_›, List.mem_singleton.1 h⟩)
    · simp at h
  · exact .inr (.inr ⟨_, h⟩)

theorem prefix_of_mem_tour {stance : Stance} {under : Option Place} {place : Place} {visit : Visit}
    (h : visit ∈ tour stance under place sought) : place.path <+: visit.place.path := by
  obtain ⟨_, rfl⟩ | ⟨_, _, rfl⟩ | ⟨inner, h⟩ := mem_tour h
  · exact List.prefix_rfl
  · exact List.prefix_rfl
  · obtain ⟨step, hstep, hvisit⟩ := List.mem_flatMap.1 h
    have hsmaller := size_lt_of_mem_steps hstep
    exact prefix_of_child (prefix_of_mem_tour hvisit)
termination_by place.node.size
decreasing_by exact hsmaller

/-- The tours of some steps stay below the children that these go to. -/
theorem prefix_of_mem_toursOf {under : Option Place} {place : Place} {row : List Step}
    {visit : Visit} (h : visit ∈ toursOf under place row sought) :
    ∃ step ∈ row, place.path ++ [step.index] <+: visit.place.path := by
  obtain ⟨step, hstep, hvisit⟩ := List.mem_flatMap.1 h
  exact ⟨step, hstep, prefix_of_mem_tour hvisit⟩

/-- No visit at a place lies inside a component below it. -/
theorem not_isInside_below {under : Option Place} {visit : Visit} {row : List Step}
    {component : Place} (h : component ∈ entered (toursOf under visit.place row sought)) :
    ¬ visit.IsInside component := by
  obtain ⟨other, hother, _, rfl⟩ := mem_entered.1 h
  obtain ⟨step, _, hpath⟩ := prefix_of_mem_toursOf hother
  exact fun hinside => not_prefix_of_child hpath hinside.1

/-- Visits of tours through different children do not lie inside components of each other. -/
theorem knowsOwner_toursOf {under : Option Place} {place : Place} {row : List Step}
    (hapart : row.Pairwise fun first second => first.index ≠ second.index)
    (h : ∀ step ∈ row, ∀ visit ∈ tour step.stance under (place.child step.node step.index) sought,
      visit.KnowsOwner (entered (tour step.stance under (place.child step.node step.index) sought))
        under) :
    ∀ visit ∈ toursOf under place row sought,
      visit.KnowsOwner (entered (toursOf under place row sought)) under := by
  induction row with
  | nil => simp [toursOf]
  | cons step rest ih =>
    obtain ⟨hstep, hrest⟩ := List.forall_mem_cons.1 h
    obtain ⟨hothers, hapart⟩ := List.pairwise_cons.1 hapart
    have hsplit : toursOf under place (step :: rest) sought =
        tour step.stance under (place.child step.node step.index) sought ++
          toursOf under place rest sought := by
      rw [toursOf, List.flatMap_cons]
      rfl
    intro visit hvisit
    rw [hsplit, entered_append]
    rw [hsplit, List.mem_append] at hvisit
    rcases hvisit with hvisit | hvisit
    · refine (hstep visit hvisit).congr fun component hinside => ?_
      rw [List.mem_append, or_iff_left]
      intro hcomponent
      obtain ⟨other, hother, _, rfl⟩ := mem_entered.1 hcomponent
      obtain ⟨next, hnext, hpath⟩ := prefix_of_mem_toursOf hother
      exact not_prefix_of_ne (hothers next hnext).symm hpath (prefix_of_mem_tour hvisit) hinside.1
    · refine (ih hapart hrest visit hvisit).congr fun component hinside => ?_
      rw [List.mem_append, or_iff_right]
      intro hcomponent
      obtain ⟨other, hother, _, rfl⟩ := mem_entered.1 hcomponent
      obtain ⟨next, hnext, hpath⟩ := prefix_of_mem_toursOf hvisit
      exact not_prefix_of_ne (hothers next hnext) (prefix_of_mem_tour hother) hpath hinside.1

/-- What a visit names among the components below a component, it names among all of them. -/
theorem Visit.KnowsOwner.below {visit : Visit} {place : Place} {components : List Place}
    {under : Option Place} (h : visit.KnowsOwner components (some place))
    (hinside : visit.IsInside place) (hcomponents : ∀ component ∈ components,
      place.path <+: component.path) : visit.KnowsOwner (place :: components) under := by
  cases h with
  | outside hunder hnone =>
    refine .inside hunder (List.mem_cons_self ..) hinside fun component hcomponent hin => ?_
    rcases List.mem_cons.1 hcomponent with rfl | hcomponent
    · exact List.prefix_rfl
    · exact absurd hin (hnone component hcomponent)
  | inside hunder howner hin hinner =>
    refine .inside hunder (List.mem_cons_of_mem _ howner) hin fun component hcomponent hin => ?_
    rcases List.mem_cons.1 hcomponent with rfl | hcomponent
    · exact hcomponents _ howner
    · exact hinner component hcomponent hin

/-- Every visit of a tour names the innermost component of the tour around it. -/
theorem knowsOwner_tour {stance : Stance} {under : Option Place} {place : Place}
    (hdecorates : place.node.Everywhere DecoratesOthers) :
    ∀ visit ∈ tour stance under place sought,
      visit.KnowsOwner (entered (tour stance under place sought)) under := by
  have hbelow (inner : Option Place) :
      ∀ visit ∈ toursOf inner place (steps stance place.node) sought, visit.KnowsOwner
        (entered (toursOf inner place (steps stance place.node) sought)) inner := by
    refine knowsOwner_toursOf ((areWays_steps stance place.node).apart hdecorates.self)
      fun step hstep => ?_
    have hsmaller := size_lt_of_mem_steps hstep
    exact knowsOwner_tour (hdecorates.child (getElem?_of_mem_steps hstep))
  intro visit hvisit
  rw [tour_eq] at hvisit ⊢
  simp only [List.mem_append] at hvisit
  -- A component that opens here is around all that follows, and nothing below is around it.
  by_cases hopens : opens stance place.node
  · have hentered (row : List Visit) :
        entered ([⟨place, true, under⟩] ++ ((if finds stance place.node sought then
          [⟨place, false, some place⟩] else []) ++ row)) = place :: entered row := by
      split <;> simp [entered]
    simp only [if_pos hopens, hentered] at hvisit ⊢
    rcases hvisit with hvisit | hvisit | hvisit
    · obtain rfl := List.mem_singleton.1 hvisit
      refine .outside rfl fun component hcomponent => ?_
      rcases List.mem_cons.1 hcomponent with rfl | hcomponent
      · exact fun hinside => hinside.2 rfl rfl
      · exact not_isInside_below hcomponent
    · split at hvisit
      · obtain rfl := List.mem_singleton.1 hvisit
        refine .inside rfl (List.mem_cons_self ..) ⟨List.prefix_rfl, by simp⟩ ?_
        intro component _ hinside
        exact hinside.1
      · simp at hvisit
    · obtain ⟨step, _, hpath⟩ := prefix_of_mem_toursOf hvisit
      refine (hbelow _ visit hvisit).below ⟨prefix_of_child hpath, fun _ => ne_of_child hpath⟩ ?_
      intro component hcomponent
      obtain ⟨other, hother, _, rfl⟩ := mem_entered.1 hcomponent
      obtain ⟨_, _, hpath⟩ := prefix_of_mem_toursOf hother
      exact prefix_of_child hpath
  · have hentered (row : List Visit) :
        entered ([] ++ ((if finds stance place.node sought then [⟨place, false, under⟩] else []) ++
          row)) = entered row := by
      split <;> simp [entered]
    simp only [if_neg hopens, hentered] at hvisit ⊢
    rcases hvisit with hvisit | hvisit | hvisit
    · simp at hvisit
    · split at hvisit
      · obtain rfl := List.mem_singleton.1 hvisit
        exact .outside rfl fun component hcomponent => not_isInside_below hcomponent
      · simp at hvisit
    · exact hbelow _ visit hvisit
termination_by place.node.size
decreasing_by exact hsmaller

/-- The components of a tour are the same whatever is looked for. -/
theorem entered_tour (sought other : Sought) (stance : Stance) (under : Option Place)
    (place : Place) : entered (tour stance under place sought) =
      entered (tour stance under place other) := by
  have hfound (kind : Sought) (owner : Option Place) :
      entered (if finds stance place.node kind then [⟨place, false, owner⟩] else []) = [] := by
    split <;> rfl
  have hsteps {inner : Option Place} {row : List Step} (h : ∀ step ∈ row,
      step ∈ steps stance place.node) :
      entered (toursOf inner place row sought) = entered (toursOf inner place row other) := by
    induction row with
    | nil => rfl
    | cons step rest ih =>
      obtain ⟨hstep, hrest⟩ := List.forall_mem_cons.1 h
      have hsmaller := size_lt_of_mem_steps hstep
      rw [toursOf, toursOf, List.flatMap_cons, List.flatMap_cons, entered_append, entered_append,
        entered_tour sought other]
      exact congrArg _ (ih hrest)
  rw [tour_eq _ _ _ sought, tour_eq _ _ _ other]
  simp only [entered_append, hfound, hsteps fun _ hstep => hstep]
termination_by place.node.size
decreasing_by exact hsmaller

/-- What holds between the visits of a place and all later ones holds throughout a tour. -/
theorem pairwise_tour_of {R : Visit → Visit → Prop} {stance : Stance} {under : Option Place}
    {place : Place} (hown : ∀ owner, R ⟨place, true, under⟩ ⟨place, false, owner⟩)
    (hbelow : ∀ inner, (toursOf inner place (steps stance place.node) sought).Sublist
      (tour stance under place sought) →
      (toursOf inner place (steps stance place.node) sought).Pairwise R)
    (hafter : ∀ opens owner visit index, place.path ++ [index] <+: visit.place.path →
      R ⟨place, opens, owner⟩ visit) :
    (tour stance under place sought).Pairwise R := by
  have hlater {opens : Bool} {owner inner : Option Place} :
      ∀ visit ∈ toursOf inner place (steps stance place.node) sought,
        R ⟨place, opens, owner⟩ visit := by
    intro visit hvisit
    obtain ⟨step, _, hpath⟩ := prefix_of_mem_toursOf hvisit
    exact hafter _ _ visit step.index hpath
  rw [tour_eq] at hbelow ⊢
  refine List.pairwise_append.2 ⟨?_, List.pairwise_append.2 ⟨?_, hbelow _ ?_, ?_⟩, ?_⟩
  · split <;> simp
  · split <;> simp
  · exact (List.sublist_append_right _ _).trans (List.sublist_append_right _ _)
  · intro visit hvisit
    split at hvisit
    · rw [List.mem_singleton.1 hvisit]
      exact hlater
    · simp at hvisit
  · intro visit hvisit other hother
    split at hvisit
    · obtain rfl := List.mem_singleton.1 hvisit
      rcases List.mem_append.1 hother with hother | hother
      · split at hother
        · rw [List.mem_singleton.1 hother]
          exact hown _
        · simp at hother
      · exact hlater other hother
    · simp at hvisit

/-- Two visits are of different kinds or at different places. -/
def Visit.IsApart (visit other : Visit) : Prop :=
  visit.opens = other.opens → visit.place.path ≠ other.place.path

/-- No place is visited twice for the same. -/
theorem pairwise_tour {stance : Stance} {under : Option Place} {place : Place}
    (hdecorates : place.node.Everywhere DecoratesOthers) :
    (tour stance under place sought).Pairwise Visit.IsApart := by
  refine pairwise_tour_of (fun _ hsame => by simp at hsame) (fun inner _ => ?_)
    fun _ _ _ _ hpath _ => ne_of_child hpath
  refine List.pairwise_flatMap.2 ⟨fun step hstep => ?_, ?_⟩
  · have hsmaller := size_lt_of_mem_steps hstep
    exact pairwise_tour (hdecorates.child (getElem?_of_mem_steps hstep))
  · refine ((areWays_steps stance place.node).apart hdecorates.self).imp ?_
    intro first second hne visit hvisit other hother _ hpath
    refine not_prefix_of_ne hne (prefix_of_mem_tour hvisit) (prefix_of_mem_tour hother) ?_
    rw [hpath]
termination_by place.node.size
decreasing_by exact hsmaller

/-- Steps lead along a path from one node, in a stance, to another. -/
inductive Leads : Stance → Node → (path : List Nat) → Stance → Node → Prop
  | here (stance : Stance) (node : Node) : Leads stance node [] stance node
  | on {stance last : Stance} {node final : Node} {step : Step} {path : List Nat}
      (hstep : step ∈ steps stance node) (hrest : Leads step.stance step.node path last final) :
      Leads stance node (step.index :: path) last final

namespace Leads

variable {stance last : Stance} {node final : Node} {path : List Nat}

theorem at? (h : Leads stance node path last final) : node.at? path = some final := by
  induction h with
  | here => rfl
  | on hstep _ ih =>
    rw [Node.at?, getElem?_of_mem_steps hstep]
    exact ih

theorem concat {step : Step} (h : Leads stance node path last final)
    (hstep : step ∈ steps last final) :
    Leads stance node (path ++ [step.index]) step.stance step.node := by
  induction h with
  | here => exact .on hstep (.here _ _)
  | on hfirst _ ih => exact .on hfirst (ih hstep)

theorem exists_last {index : Nat} (h : Leads stance node (path ++ [index]) last final) :
    ∃ before parent step, Leads stance node path before parent ∧ step ∈ steps before parent ∧
      step.index = index ∧ step.stance = last ∧ step.node = final := by
  induction path generalizing stance node with
  | nil =>
    cases h with
    | on hstep hrest =>
      cases hrest
      exact ⟨_, _, _, .here _ _, hstep, rfl, rfl, rfl⟩
  | cons first rest ih =>
    cases h with
    | on hstep hrest =>
      obtain ⟨before, parent, step, hleads, hlast⟩ := ih hrest
      exact ⟨before, parent, step, .on hstep hleads, hlast⟩

/-- There is one way along a path. -/
theorem unique {other : Stance} {found : Node} (hdecorates : node.Everywhere DecoratesOthers)
    (h : Leads stance node path last final) (hother : Leads stance node path other found) :
    other = last := by
  induction h with
  | here =>
    cases hother
    rfl
  | @on stance last node final step path hstep _ ih =>
    generalize hpath : step.index :: path = whole at hother
    cases hother with
    | here => simp at hpath
    | @on _ _ _ _ next path' hnext hrest =>
      obtain ⟨hindex, rfl⟩ := List.cons.inj hpath
      have hindices : ((steps stance node).map (·.index)).Nodup :=
        List.pairwise_map.2 ((areWays_steps stance node).apart hdecorates.self)
      obtain rfl := List.inj_on_of_nodup_map hindices hstep hnext hindex
      exact ih (hdecorates.child (getElem?_of_mem_steps hstep)) hrest

end Leads

/-- What a visit is for is found at a node. -/
def isFound (opening : Bool) (stance : Stance) (node : Node) (sought : Sought) : Bool :=
  if opening then opens stance node else finds stance node sought

theorem leads_of_mem_tour {stance : Stance} {under : Option Place} {place : Place} {visit : Visit}
    (h : visit ∈ tour stance under place sought) :
    ∃ path last, visit.place.path = place.path ++ path ∧
      Leads stance place.node path last visit.place.node ∧
      isFound visit.opens last visit.place.node sought := by
  obtain ⟨hopens, rfl⟩ | ⟨_, hcalls, rfl⟩ | ⟨inner, h⟩ := mem_tour h
  · exact ⟨[], stance, (List.append_nil _).symm, .here _ _, hopens⟩
  · exact ⟨[], stance, (List.append_nil _).symm, .here _ _, hcalls⟩
  · obtain ⟨step, hstep, hvisit⟩ := List.mem_flatMap.1 h
    have hsmaller := size_lt_of_mem_steps hstep
    obtain ⟨path, last, hpath, hleads, hfound⟩ := leads_of_mem_tour hvisit
    refine ⟨step.index :: path, last, ?_, .on hstep hleads, hfound⟩
    rw [hpath, Place.child, List.append_assoc]
    rfl
termination_by place.node.size
decreasing_by exact hsmaller

theorem mem_tour_of_leads {stance last : Stance} {node final : Node} {path : List Nat}
    {opening : Bool} (h : Leads stance node path last final)
    (hfound : isFound opening last final sought) (under : Option Place) (base : List Nat) :
    ∃ owner, ⟨⟨base ++ path, final⟩, opening, owner⟩ ∈ tour stance under ⟨base, node⟩ sought := by
  induction h generalizing under base with
  | here stance node =>
    rw [tour_eq, List.append_nil]
    cases opening with
    | true =>
      have hopens : opens stance node := hfound
      exact ⟨under, List.mem_append_left _ (by simp [hopens])⟩
    | false =>
      have hfinds : finds stance node sought := hfound
      refine ⟨if opens stance node then some ⟨base, node⟩ else under,
        List.mem_append_right _ (List.mem_append_left _ ?_)⟩
      simp [hfinds]
  | @on stance _ node _ step path hstep _ ih =>
    obtain ⟨owner, howner⟩ := ih hfound
      (if opens stance node then some ⟨base, node⟩ else under) (base ++ [step.index])
    refine ⟨owner, ?_⟩
    rw [tour_eq, List.mem_append, List.mem_append]
    refine .inr (.inr (List.mem_flatMap.2 ⟨step, hstep, ?_⟩))
    rwa [List.append_assoc] at howner

/-- A tour visits the places that steps lead to. -/
theorem mem_tour_iff {stance : Stance} {under : Option Place} {node : Node} {place : Place}
    {opening : Bool} :
    (∃ owner, ⟨place, opening, owner⟩ ∈ tour stance under ⟨[], node⟩ sought) ↔
      ∃ last, Leads stance node place.path last place.node ∧
        isFound opening last place.node sought := by
  constructor
  · rintro ⟨owner, hvisit⟩
    obtain ⟨path, last, hpath, hleads, hfound⟩ := leads_of_mem_tour hvisit
    rw [List.nil_append] at hpath
    exact ⟨last, hpath ▸ hleads, hfound⟩
  · rintro ⟨last, hleads, hfound⟩
    exact mem_tour_of_leads hleads hfound under []

section File

variable {text : String} {root : Node}

/-- Nothing is found in a file without statements, apart from the file itself. -/
theorem tour_eq_nil (h : root.namedChildren = []) : tour .top none ⟨[], root⟩ sought = [] := by
  have hchildren : root.children.zipIdx.filter (·.1.isProper) = [] := by
    rw [← List.map_eq_nil_iff, map_fst_filter_zipIdx]
    exact h
  rw [tour_eq_toursOf rfl rfl]
  simp [toursOf, steps, properSteps, hchildren]

theorem mem_fileTour_iff {place : Place} {owner : Option Place} :
    ⟨place, false, owner⟩ ∈ fileTour text root sought ↔
      ⟨place, false, owner⟩ ∈ tour .top none ⟨[], root⟩ sought := by
  rw [fileTour]
  split
  · rename_i h
    rw [tour_eq_nil h]
    split <;> simp
  · rfl

theorem knowsOwner_fileTour (h : root.Everywhere DecoratesOthers) :
    ∀ visit ∈ fileTour text root sought,
      visit.KnowsOwner (entered (fileTour text root sought)) none := by
  rw [fileTour]
  split
  · split
    · simp
    · intro visit hvisit
      obtain rfl := List.mem_singleton.1 hvisit
      refine .outside rfl fun place hplace hinside => ?_
      obtain ⟨_, hother, _, rfl⟩ := mem_entered.1 hplace
      obtain rfl := List.mem_singleton.1 hother
      exact hinside.2 rfl rfl
  · exact knowsOwner_tour h

theorem entered_fileTour (sought other : Sought) :
    entered (fileTour text root sought) = entered (fileTour text root other) := by
  rw [fileTour, fileTour]
  split
  · rfl
  · exact entered_tour ..

theorem pairwise_fileTour (h : root.Everywhere DecoratesOthers) :
    (fileTour text root sought).Pairwise Visit.IsApart := by
  rw [fileTour]
  split
  · split <;> simp
  · exact pairwise_tour h

end File

end SourceLedger.Outline
