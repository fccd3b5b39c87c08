import SourceLedger.Proofs.Commitment
import SourceLedger.Proofs.Differences

/-!
# Identity and drift agree

When a version is written, two parts of the ledger look at the version before. Identities are
resolved against its history rows, by the digests of the trees; drift is found against its
components and facts, by the digests of the texts first. Both look-ups find the same names with the
same digests, so what the one decides about a component fits what the other says became of it.

## Main definitions

* `Store.CarriesOver` says that a row commits what the version before does.
* `Store.ReadsAlike` says that components with equal texts have equal trees.
* `Store.Collides` says that a text and the one it replaces have the same digest.

## Main statements

* `Snapshot.Follows.digests_eq` compares the two look-ups.
* `Store.identity_agrees_with_drift` ties resolutions and committed digests to the drift.
-/

namespace SourceLedger

theorem DriftReport.changeFor_baseline {new : List ComponentFacts} {name : String}
    (h : name ∈ Drift.names new) : (Drift.baseline new).changeFor name = .added := by
  have hmem : name ∈ (KeySet.ofList (Drift.names new)).toList := KeySet.mem_ofList.2 h
  rw [changeFor, Drift.baseline, List.lookup_graph _ hmem]
  rfl

/-- The facts of an extraction are found under the names of its components. -/
theorem Findings.lookup?_facts {findings : Findings} (h : Naming.IsNamed findings.components)
    {component : Component} {position : Nat}
    (hcomponent : findings.components[position]? = some component) :
    Drift.lookup? findings.facts component.qualifiedName =
      some (findings.factsAt component position) := by
  have hunique := h.unique
  rw [← findings.names_facts] at hunique
  exact Drift.lookup?_of_mem hunique
    (List.mem_map.2 ⟨(component, position), List.mem_zipIdx_iff_getElem?.2 hcomponent, rfl⟩)

theorem Staging.resolution_eq_new_iff {staging : Staging} {component : Component} :
    (staging.identity component).resolution = .new ↔
      staging.identities.find? component.qualifiedName = none := by
  rw [identity, IdentityTable.resolveComponent, IdentityTable.resolve]
  cases staging.identities.find? component.qualifiedName with
  | none => simp
  | some prior =>
    by_cases hsame : prior.structureHash = component.structureHash <;> simp [hsame]

namespace Snapshot.Follows

variable {new old : Snapshot}

/-- Identities and drift see the same version before: they find the same names in it, with the same
digests. -/
theorem digests_eq (h : new.Follows old) (name : String) :
    (Drift.lookup? old.extraction.facts name).map
        (fun fact => (fact.contentHash, fact.structureHash)) =
      (new.identities.find? name).map
        fun identity => (identity.contentHash, identity.structureHash) := by
  have hnamed := (wellFormed_extract old.extracted).named
  rw [h.identities]
  by_cases hpresent : name ∈ Drift.names old.extraction.facts
  · rw [Findings.names_facts] at hpresent
    obtain ⟨component, hcomponent, rfl⟩ := List.mem_map.1 hpresent
    obtain ⟨position, hposition⟩ := List.mem_iff_getElem?.1 hcomponent
    rw [Findings.lookup?_facts hnamed hposition, Staging.find?_recorded hnamed hposition]
    rfl
  · have hfacts : Drift.lookup? old.extraction.facts name = none := by
      rw [← Option.not_isSome_iff_eq_none, Drift.isSome_lookup?_iff]
      exact hpresent
    have hidentity : old.recorded.find? name = none := by
      rw [Option.eq_none_iff_forall_not_mem]
      intro identity hfound
      obtain ⟨prior, hprior, rfl⟩ := Staging.exists_of_find?_recorded hfound
      refine hpresent ?_
      rw [Findings.names_facts, ← old.map_name_records]
      exact List.mem_map_of_mem hprior
    rw [hfacts, hidentity]
    rfl

theorem changeFor (h : new.Follows old) {component : Component} {position : Nat}
    (hcomponent : new.extraction.components[position]? = some component) :
    new.drift.changeFor component.qualifiedName =
      Drift.classify (Drift.lookup? old.extraction.facts component.qualifiedName)
        (some (new.extraction.factsAt component position)) := by
  have hname : component.qualifiedName ∈ Drift.names new.extraction.facts := by
    rw [Findings.names_facts]
    exact List.mem_map_of_mem (List.mem_of_getElem? hcomponent)
  rw [h.drift, DriftReport.changeFor_compare hname,
    Findings.lookup?_facts (wellFormed_extract new.extracted).named hcomponent]

theorem mem_changes (h : new.Follows old) {component : Component} {position : Nat}
    (hcomponent : new.extraction.components[position]? = some component) {change : DriftChange}
    (hname : change.qualifiedName = component.qualifiedName) :
    change ∈ new.drift.changes ↔
      Drift.change? (Drift.lookup? old.extraction.facts component.qualifiedName)
        (some (new.extraction.factsAt component position)) = some change := by
  rw [h.drift, Drift.mem_changes_compare, hname,
    Findings.lookup?_facts (wellFormed_extract new.extracted).named hcomponent]

theorem resolution_eq_new_iff (h : new.Follows old) {component : Component} {position : Nat}
    (hcomponent : new.extraction.components[position]? = some component) :
    (new.identity component).resolution = .new ↔
      new.drift.changeFor component.qualifiedName = .added := by
  rw [Staging.resolution_eq_new_iff, h.changeFor hcomponent, Drift.classify_eq_added_iff,
    ← Option.map_eq_none_iff (f := fun identity : CommittedIdentity =>
      (identity.contentHash, identity.structureHash)), ← h.digests_eq, Option.map_eq_none_iff]

end Snapshot.Follows

theorem Snapshot.IsFirst.resolution {snapshot : Snapshot} (h : snapshot.IsFirst)
    {component : Component} (hcomponent : component ∈ snapshot.extraction.components) :
    (snapshot.identity component).resolution = .new ∧
      snapshot.drift.changeFor component.qualifiedName = .added := by
  constructor
  · rw [Staging.resolution_eq_new_iff, h.identities]
    rfl
  · rw [h.drift, DriftReport.changeFor_baseline]
    rw [Findings.names_facts]
    exact List.mem_map_of_mem hcomponent

namespace Store

variable (store : Store)

/-- The stored text of a component, without the gaps around it. -/
def textOf? (componentId : Nat) : Option String :=
  (store.segment? componentId).map (·.text)

/-- Components with equal texts have equal trees, wherever they stand. -/
def ReadsAlike : Prop :=
  ∀ x ∈ store.components, ∀ y ∈ store.components,
    store.textOf? x.id = store.textOf? y.id → x.structureHash = y.structureHash

instance : Decidable store.ReadsAlike :=
  inferInstanceAs (Decidable (∀ x ∈ store.components, ∀ y ∈ store.components,
    store.textOf? x.id = store.textOf? y.id → x.structureHash = y.structureHash))

variable (path name : String) (number : Nat) (row : ComponentRecord)

/-- A row of a version commits what the version before commits under its name. -/
def CarriesOver : Prop :=
  ∃ previous old, store.Holds path name (number - 1) previous old ∧
    row.committedHash = old.committedHash ∧ row.committedAt = old.committedAt

/-- The text of a row and the text that the version before has under its name are different texts
with the same digest. -/
def Collides : Prop :=
  ∃ previous old before after, store.Holds path name (number - 1) previous old ∧
    store.textOf? old.id = some before ∧ store.textOf? row.id = some after ∧
    before ≠ after ∧ digest before = digest after

end Store

namespace Chronicle

variable {log : List Snapshot} {store : Store} {new old : Snapshot} {component : Component}
  {position : Nat}

/-- The component under a name in the version before, with its row and its facts. -/
theorem exists_prior (h : Chronicle log store) (hold : old ∈ log) (hfollows : new.Follows old)
    {name : String} {fact : ComponentFacts}
    (hfact : Drift.lookup? old.extraction.facts name = some fact) :
    ∃ prior place, old.extraction.components[place]? = some prior ∧ prior.qualifiedName = name ∧
      fact = old.extraction.factsAt prior place ∧
      store.Holds new.extraction.path name (new.versionNumber - 1) old.version
        (old.componentRow prior place) := by
  have hname : name ∈ Drift.names old.extraction.facts :=
    Drift.isSome_lookup?_iff.1 (by rw [hfact]; rfl)
  rw [Findings.names_facts] at hname
  obtain ⟨prior, hprior, rfl⟩ := List.mem_map.1 hname
  obtain ⟨place, hplace⟩ := List.mem_iff_getElem?.1 hprior
  rw [Findings.lookup?_facts (wellFormed_extract old.extracted).named hplace,
    Option.some.injEq] at hfact
  refine ⟨prior, place, hplace, rfl, hfact.symm, h.holds_iff.2 ?_⟩
  refine ⟨old, hold, hfollows.path.symm, ?_, rfl, Staging.mem_records.2 ⟨place, prior, hplace, rfl⟩,
    rfl⟩
  rw [hfollows.versionNumber, Nat.add_sub_cancel]

/-- What is committed is carried over where drift finds the same tree in the version before. -/
theorem carriesOver (h : Chronicle log store) (hold : old ∈ log) (hfollows : new.Follows old)
    (hcomponent : new.extraction.components[position]? = some component) {fact : ComponentFacts}
    (hfact : Drift.lookup? old.extraction.facts component.qualifiedName = some fact)
    (hsame : fact.structureHash = component.structureHash) :
    store.CarriesOver new.extraction.path component.qualifiedName new.versionNumber
      (new.componentRow component position) := by
  obtain ⟨prior, place, hplace, hname, rfl, hheld⟩ := h.exists_prior hold hfollows hfact
  refine ⟨_, _, hheld, ?_⟩
  exact Staging.committed_of_carried (wellFormed_extract old.extracted).named hfollows.identities
    (Staging.mem_records.2 ⟨position, component, hcomponent, rfl⟩)
    (Staging.mem_records.2 ⟨place, prior, hplace, rfl⟩) hname hsame

/-- What is committed is renewed where drift finds another tree in the version before. -/
theorem renewed (hfollows : new.Follows old)
    (hcomponent : new.extraction.components[position]? = some component) {fact : ComponentFacts}
    (hfact : Drift.lookup? old.extraction.facts component.qualifiedName = some fact)
    (hother : fact.structureHash ≠ component.structureHash) :
    (new.componentRow component position).committedHash = component.contentHash ∧
      (new.componentRow component position).committedAt = new.version.createdAt := by
  refine Staging.committed_of_renewed
    (Staging.mem_records.2 ⟨position, component, hcomponent, rfl⟩) ?_
  intro identity hidentity hsame
  have hdigests := hfollows.digests_eq component.qualifiedName
  have hfound : new.identities.find? component.qualifiedName = some identity := hidentity
  rw [hfact, hfound, Option.map_some, Option.map_some, Option.some.injEq, Prod.mk.injEq]
    at hdigests
  exact hother (hdigests.2.trans hsame)

theorem textOf? (h : Chronicle log store) (hnew : new ∈ log)
    (hcomponent : new.extraction.components[position]? = some component) :
    store.textOf? (new.rowId position) = some component.segment.text := by
  rw [Store.textOf?, h.segment? hnew hcomponent]
  rfl

/-- Where components with equal texts have equal trees, what is committed for an unchanged component
is carried over, unless two different texts have the same digest. -/
theorem carriesOver_of_unchanged (h : Chronicle log store) (hnew : new ∈ log) (hold : old ∈ log)
    (hfollows : new.Follows old)
    (hcomponent : new.extraction.components[position]? = some component)
    (hreads : store.ReadsAlike)
    (hunchanged : new.drift.changeFor component.qualifiedName = .unchanged) :
    store.CarriesOver new.extraction.path component.qualifiedName new.versionNumber
        (new.componentRow component position) ∨
      store.Collides new.extraction.path component.qualifiedName new.versionNumber
        (new.componentRow component position) := by
  rw [hfollows.changeFor hcomponent, Drift.classify_eq_unchanged_iff] at hunchanged
  obtain ⟨fact, hfact, hdigest⟩ := hunchanged
  obtain ⟨prior, place, hplace, _, rfl, hheld⟩ := h.exists_prior hold hfollows hfact
  have hbefore := h.textOf? hold hplace
  have hafter := h.textOf? hnew hcomponent
  -- Equal digests of the texts come from equal texts or from a collision.
  by_cases htext : prior.segment.text = component.segment.text
  · left
    refine h.carriesOver hold hfollows hcomponent hfact ?_
    refine hreads _ (h.mem_components hold hplace) _ (h.mem_components hnew hcomponent) ?_
    exact hbefore.trans (by rw [htext]; exact hafter.symm)
  · right
    refine ⟨_, _, _, _, hheld, hbefore, hafter, htext, ?_⟩
    rw [← contentHash_extract old.extracted (List.mem_of_getElem? hplace),
      ← contentHash_extract new.extracted (List.mem_of_getElem? hcomponent)]
    exact hdigest

theorem events_of_component (h : Chronicle log store) (hnew : new ∈ log)
    (hfollows : new.Follows old)
    (hcomponent : new.extraction.components[position]? = some component) :
    ∃ events, store.listEvents new.extraction.path (some new.versionNumber) = .ok events ∧
      ((∃ event ∈ events, event.qualifiedName = component.qualifiedName) ↔
        new.drift.changeFor component.qualifiedName ≠ .unchanged) ∧
      ∀ event ∈ events, event.qualifiedName = component.qualifiedName →
        Drift.change? (Drift.lookup? old.extraction.facts component.qualifiedName)
          (some (new.extraction.factsAt component position)) = some event.change := by
  obtain ⟨events, hevents, hchanges⟩ := h.listEvents_changes hnew
  have hevent : ∀ event ∈ events, event.qualifiedName = component.qualifiedName →
      Drift.change? (Drift.lookup? old.extraction.facts component.qualifiedName)
        (some (new.extraction.factsAt component position)) = some event.change := by
    intro event hmem hname
    have hchange : event.change ∈ new.drift.changes := hchanges ▸ List.mem_map_of_mem hmem
    exact (hfollows.mem_changes hcomponent hname).1 hchange
  refine ⟨events, hevents, ?_, hevent⟩
  rw [hfollows.changeFor hcomponent, Ne, ← Drift.change?_eq_none_iff (.inr Option.isSome_some)]
  constructor
  · rintro ⟨event, hmem, hname⟩ hnone
    rw [hevent event hmem hname] at hnone
    exact absurd hnone (by simp)
  · intro hsome
    obtain ⟨change, hchange⟩ := Option.ne_none_iff_exists'.1 hsome
    have hname : change.qualifiedName = component.qualifiedName := by
      rw [← Findings.lookup?_facts (wellFormed_extract new.extracted).named hcomponent] at hchange
      exact Drift.name_of_change? hchange
    have hmem := (hfollows.mem_changes hcomponent hname).2 hchange
    rw [← hchanges] at hmem
    obtain ⟨event, hevent, rfl⟩ := List.mem_map.1 hmem
    exact ⟨event, hevent, hname⟩

end Chronicle

namespace Store

variable {store : Store} {path name : String} {number : Nat} {version : VersionRow}
  {row : ComponentRecord}

/-- Every name of a version of a reachable store has one history row. It says that the identity is
new exactly if the name was added, as all names of a first version are, and never that the name was
removed. In a later version an event of the name says the same. What is committed is carried over
from the version before where only the layout was modified, is renewed where anything else was, and
is carried over again where nothing was, as long as equal texts have equal trees and no two texts
collide. -/
theorem identity_agrees_with_drift (h : store.Reachable)
    (hrow : store.Holds path name number version row) :
    ∃ entry,
      store.history.filter
        (fun entry => entry.versionId == version.id && entry.qualifiedName == name) = [entry] ∧
      entry.contentHash = row.contentHash ∧ entry.committedHash = row.committedHash ∧
      entry.committedAt = row.committedAt ∧
      (entry.resolution = .new ↔ entry.change = .added) ∧
      (number = 1 → entry.change = .added) ∧
      entry.change ≠ .removed ∧
      (2 ≤ number → ∃ events, store.listEvents path (some number) = .ok events ∧
        ((∃ event ∈ events, event.qualifiedName = name) ↔ entry.change ≠ .unchanged) ∧
        (∀ event ∈ events, event.qualifiedName = name →
          event.kind = entry.change ∧
          (event.kind = .modified → event.category = .formattingOnly →
            store.CarriesOver path name number row) ∧
          (event.kind = .modified → event.category ≠ .formattingOnly →
            row.committedHash = row.contentHash ∧ row.committedAt = version.createdAt)) ∧
        (store.ReadsAlike → entry.change = .unchanged →
          store.CarriesOver path name number row ∨ store.Collides path name number row)) := by
  obtain ⟨log, hlog⟩ := h.chronicle
  obtain ⟨new, hnew, rfl, rfl, rfl, hmem, rfl⟩ := hlog.holds_iff.1 hrow
  obtain ⟨position, component, hcomponent, rfl⟩ := Staging.mem_records.1 hmem
  refine ⟨new.historyRow component position, hlog.history_of_component hnew hcomponent, rfl, rfl,
    rfl, ?_⟩
  rcases hlog.first_or_follows hnew with hfirst | ⟨old, hold, hfollows⟩
  · obtain ⟨hresolution, hadded⟩ := hfirst.resolution (List.mem_of_getElem? hcomponent)
    refine ⟨iff_of_true hresolution hadded, fun _ => hadded, ?_, ?_⟩
    · change new.drift.changeFor component.qualifiedName ≠ .removed
      rw [hadded]
      decide
    · intro hlater
      have := hfirst.versionNumber
      omega
  · obtain ⟨events, hevents, hexists, hevent⟩ :=
      hlog.events_of_component hnew hfollows hcomponent
    have hchange := hfollows.changeFor hcomponent
    refine ⟨hfollows.resolution_eq_new_iff hcomponent, ?_, ?_, ?_⟩
    · intro hone
      have := hlog.one_le_versionNumber hold
      have := hfollows.versionNumber
      omega
    · change new.drift.changeFor component.qualifiedName ≠ .removed
      rw [hchange]
      exact Drift.classify_ne_removed
    · intro _
      refine ⟨events, hevents, hexists, ?_, ?_⟩
      · intro event hmem hname
        have hfound := hevent event hmem hname
        refine ⟨(Drift.kind_of_change? hfound).trans hchange.symm, ?_, ?_⟩
        · intro hmodified hlayout
          obtain ⟨prior, hprior, hcategory⟩ := Drift.exists_of_modified hfound hmodified
          exact hlog.carriesOver hold hfollows hcomponent hprior (hcategory.1 hlayout)
        · intro hmodified hother
          obtain ⟨prior, hprior, hcategory⟩ := Drift.exists_of_modified hfound hmodified
          exact Chronicle.renewed hfollows hcomponent hprior (mt hcategory.2 hother)
      · intro hreads hunchanged
        exact hlog.carriesOver_of_unchanged hnew hold hfollows hcomponent hreads hunchanged

/-- A store in which a text was ingested twice. -/
def repeated : Store :=
  replay sampleParser {}
    [(.ingest {} "a.py" Extraction.accentedText, 1), (.ingest {} "a.py" Extraction.accentedText, 2)]

theorem identity_agrees_with_drift_repeated :
    ∃ version row entry, repeated.Reachable ∧ repeated.Holds "a.py" "é" 2 version row ∧
      repeated.history.filter
        (fun entry => entry.versionId == version.id && entry.qualifiedName == "é") = [entry] ∧
      entry.change = .unchanged ∧ entry.resolution ≠ .new ∧ repeated.ReadsAlike ∧
      repeated.CarriesOver "a.py" "é" 2 row ∧ row.committedAt = 1 := by
  have hreachable : repeated.Reachable := (Reachable.empty.perform _ _ _).perform _ _ _
  -- The store is computed once for all that is asked of it.
  have hcomputed : repeated.ReadsAlike ∧
      (repeated.requireVersion "a.py" (some 1)).toOption.map (·.id) = some 1 ∧
      (repeated.requireVersion "a.py" (some 2)).toOption.map (·.id) = some 2 ∧
      (repeated.component? 2 "é").toOption.join.map (·.committedAt) = some 1 ∧
      (repeated.history.filter fun entry =>
        entry.versionId == 2 && entry.qualifiedName == "é").map (·.change) = [.unchanged] ∧
      (repeated.component? 1 "é").toOption.join.bind (repeated.textOf? ·.id) =
        (repeated.component? 2 "é").toOption.join.bind (repeated.textOf? ·.id) := by
    decide +kernel
  obtain ⟨hreads, hfirst, hsecond, hcommitted, hchanges, htexts⟩ := hcomputed
  obtain ⟨version, hversion, hid⟩ := Option.map_eq_some_iff.1 hsecond
  obtain ⟨row, hrow, hat⟩ := Option.map_eq_some_iff.1 hcommitted
  have hheld : repeated.Holds "a.py" "é" 2 version row := by
    refine ⟨eq_ok_of_toOption hversion, ?_⟩
    rw [hid]
    exact eq_ok_of_toOption (Option.join_eq_some_iff.1 hrow)
  obtain ⟨entry, hentry, _, _, _, hnew, _, _, hlater⟩ :=
    identity_agrees_with_drift hreachable hheld
  obtain ⟨events, _, _, _, hkept⟩ := hlater (Nat.le_refl 2)
  have hunchanged : entry.change = .unchanged := by
    rw [hid] at hentry
    rw [hentry] at hchanges
    exact List.head_eq_of_cons_eq hchanges
  refine ⟨version, row, entry, hreachable, hheld, hentry, hunchanged, ?_, hreads, ?_, hat⟩
  · rw [Ne, hnew, hunchanged]
    decide
  · refine (hkept hreads hunchanged).resolve_right ?_
    -- The two versions have the same text.
    rintro ⟨previous, old, before, after, hprior, hbefore, hafter, hne, _⟩
    have hone : previous.id = 1 := by
      have hprevious := hprior.1
      rw [hprevious] at hfirst
      exact Option.some.inj hfirst
    have hold := hprior.2
    rw [hone] at hold
    rw [hold, hrow] at htexts
    exact hne (Option.some.inj (hbefore.symm.trans (Eq.trans htexts hafter)))

end Store

end SourceLedger
