import Mathlib.Order.Bounds.Defs
import SourceLedger.Proofs.Readback
import SourceLedger.Proofs.Reingestion

/-!
# What is committed for a name

A version commits a digest and a time for each of its names. Step by step they are carried over from
the version before, or renewed; over a whole history they are the digest and the time of one earlier
version, the one where the present run of equal trees under the name began.

## Main definitions

* `Store.Holds` says which row a version of a path has under a name.
* `Store.Begins` and `Store.IsOrigin` say where a run of versions with equal trees begins.

## Main statements

* `Chronicle.committed_step` compares a version with the one before.
* `Store.committed_at_origin` gives what is committed over a whole history.
-/

namespace SourceLedger

namespace Store

variable (store : Store) (path name : String)

/-- The version of a path with a number has a row under a name. -/
def Holds (number : Nat) (version : VersionRow) (row : ComponentRecord) : Prop :=
  store.requireVersion path (some number) = .ok version ∧
    store.component? version.id name = .ok (some row)

/-- A name begins at a version: it is the first one, the version before does not have the name, or
has it with another tree. -/
def Begins (number : Nat) : Prop :=
  number = 1 ∨ (¬ ∃ previous old, store.Holds path name (number - 1) previous old) ∨
    ∃ version row previous old, store.Holds path name number version row ∧
      store.Holds path name (number - 1) previous old ∧ row.structureHash ≠ old.structureHash

/-- A name that a version has may come from an earlier version: the name begins there, and all
versions from there on have it. -/
structure IsOrigin (number origin : Nat) : Prop where
  le : origin ≤ number
  present : ∀ i, origin ≤ i → i ≤ number → ∃ version row, store.Holds path name i version row
  begins : store.Begins path name origin

end Store

namespace Store

variable {store : Store} {path name : String} {number origin : Nat}
  {version version' previous : VersionRow} {row row' old : ComponentRecord}

/-- A version of a path has one row under a name. -/
theorem Holds.unique (h : store.Holds path name number version row)
    (h' : store.Holds path name number version' row') : version = version' ∧ row = row' := by
  have hversion : version = version' := Except.ok.inj (h.1.symm.trans h'.1)
  subst hversion
  exact ⟨rfl, Option.some.inj (Except.ok.inj (h.2.symm.trans h'.2))⟩

/-- A name does not begin where the version before has it with the same tree. -/
theorem Holds.not_begins (h : store.Holds path name (number + 1) version row)
    (hnumber : 1 ≤ number) (hold : store.Holds path name number previous old)
    (hsame : old.structureHash = row.structureHash) : ¬ store.Begins path name (number + 1) := by
  rintro (hfirst | habsent | ⟨_, _, _, _, hnew, hprior, hother⟩)
  · omega
  · exact habsent ⟨previous, old, hold⟩
  · rw [(hnew.unique h).2, (hprior.unique hold).2] at hother
    exact hother hsame.symm

/-- Where a name begins, it comes from nowhere earlier. -/
theorem Holds.isGreatest_self (h : store.Holds path name number version row)
    (hbegins : store.Begins path name number) :
    IsGreatest {i | store.IsOrigin path name number i} number := by
  refine ⟨⟨Nat.le_refl number, fun i hfrom hto => ?_, hbegins⟩, fun i hi => hi.le⟩
  obtain rfl := Nat.le_antisymm hto hfrom
  exact ⟨version, row, h⟩

/-- Where a name does not begin, it comes from where it comes from in the version before. -/
theorem Holds.isGreatest_succ (h : store.Holds path name (number + 1) version row)
    (hnot : ¬ store.Begins path name (number + 1))
    (horigin : IsGreatest {i | store.IsOrigin path name number i} origin) :
    IsGreatest {i | store.IsOrigin path name (number + 1) i} origin := by
  constructor
  · refine ⟨Nat.le_succ_of_le horigin.1.le, fun i hfrom hto => ?_, horigin.1.begins⟩
    by_cases hlast : i = number + 1
    · exact hlast ▸ ⟨version, row, h⟩
    · exact horigin.1.present i hfrom (by omega)
  · intro i hi
    have hne : i ≠ number + 1 := fun heq => hnot (heq ▸ hi.begins)
    have hle := hi.le
    exact horigin.2 ⟨by omega, fun j hfrom hto => hi.present j hfrom (by omega), hi.begins⟩

end Store

namespace Staging

variable {staging old : Staging} {row prior : ComponentRecord}

/-- The identity that a row is written with. -/
theorem resolve_of_mem_records (h : row ∈ staging.records) :
    staging.identities.resolve row.qualifiedName row.contentHash row.structureHash staging.now =
      ⟨row.resolution, row.committedHash, row.committedAt⟩ := by
  obtain ⟨position, component, _, rfl⟩ := mem_records.1 h
  rfl

/-- What a version records is found under its names, and under no others. -/
theorem find?_recorded_of_mem (hnamed : Naming.IsNamed old.extraction.components)
    (h : prior ∈ old.records) :
    old.recorded.find? prior.qualifiedName =
      some ⟨prior.id, prior.contentHash, prior.structureHash, prior.committedHash,
        prior.committedAt⟩ := by
  obtain ⟨position, component, hcomponent, rfl⟩ := mem_records.1 h
  exact find?_recorded hnamed hcomponent

theorem exists_of_find?_recorded {name : String} {identity : CommittedIdentity}
    (h : old.recorded.find? name = some identity) :
    ∃ prior ∈ old.records, prior.qualifiedName = name := by
  obtain ⟨before, after, hsplit, _⟩ := List.lookup_eq_some_iff.1 h
  have hmem : (name, identity) ∈ old.recorded := List.mem_reverse.1 (by simp [hsplit])
  obtain ⟨entry, hentry, heq⟩ := List.mem_map.1 hmem
  obtain ⟨⟨component, position⟩, hplaced, rfl⟩ := List.mem_map.1 hentry
  exact ⟨old.componentRow component position,
    mem_records.2 ⟨position, component, List.mem_zipIdx_iff_getElem?.1 hplaced, rfl⟩,
    congrArg Prod.fst heq⟩

/-- Where the version before has the same tree, what is committed is carried over. -/
theorem committed_of_carried (hnamed : Naming.IsNamed old.extraction.components)
    (hidentities : staging.identities = old.recorded) (hrow : row ∈ staging.records)
    (hprior : prior ∈ old.records) (hname : prior.qualifiedName = row.qualifiedName)
    (hsame : prior.structureHash = row.structureHash) :
    row.committedHash = prior.committedHash ∧ row.committedAt = prior.committedAt := by
  have hresolve := resolve_of_mem_records hrow
  rw [IdentityTable.resolve, hidentities, ← hname, find?_recorded_of_mem hnamed hprior] at hresolve
  simp only [hsame, if_true, ResolvedIdentity.mk.injEq] at hresolve
  exact ⟨hresolve.2.1.symm, hresolve.2.2.symm⟩

/-- Where the version before has no such tree, what is committed is renewed. -/
theorem committed_of_renewed (hrow : row ∈ staging.records)
    (hother : ∀ identity, staging.identities.find? row.qualifiedName = some identity →
      identity.structureHash ≠ row.structureHash) :
    row.committedHash = row.contentHash ∧ row.committedAt = staging.now := by
  have hresolve := resolve_of_mem_records hrow
  rw [IdentityTable.resolve] at hresolve
  cases hfound : staging.identities.find? row.qualifiedName with
  | none =>
    rw [hfound] at hresolve
    obtain ⟨_, hhash, hat⟩ := ResolvedIdentity.mk.inj hresolve
    exact ⟨hhash.symm, hat.symm⟩
  | some identity =>
    rw [hfound] at hresolve
    simp only [hother identity hfound, if_false, ResolvedIdentity.mk.injEq] at hresolve
    exact ⟨hresolve.2.1.symm, hresolve.2.2.symm⟩

end Staging

namespace Chronicle

variable {log : List Snapshot} {store : Store} {snapshot : Snapshot} {path name : String}
  {number : Nat} {version : VersionRow} {row : ComponentRecord}

/-- A version holds the rows of its snapshot. -/
theorem holds_iff (h : Chronicle log store) :
    store.Holds path name number version row ↔
      ∃ snapshot ∈ log, snapshot.extraction.path = path ∧ snapshot.versionNumber = number ∧
        snapshot.version = version ∧ row ∈ snapshot.records ∧ row.qualifiedName = name := by
  constructor
  · rintro ⟨hversion, hrow⟩
    obtain ⟨snapshot, hsnapshot, hpath, rfl, hnumber⟩ := h.of_requireVersion hversion
    have hfound : store.component? snapshot.versionId name = .ok (some row) := hrow
    rw [h.component? hsnapshot, Except.ok.injEq] at hfound
    exact ⟨snapshot, hsnapshot, hpath, hnumber number rfl, rfl, List.mem_of_find?_eq_some hfound,
      by simpa using List.find?_some hfound⟩
  · rintro ⟨snapshot, hsnapshot, rfl, rfl, rfl, hrow, rfl⟩
    have hunique := (wellFormed_extract snapshot.extracted).named.unique
    rw [← snapshot.map_name_records] at hunique
    refine ⟨h.requireVersion_number hsnapshot, ?_⟩
    change store.component? snapshot.versionId row.qualifiedName = _
    rw [h.component? hsnapshot, ← List.head?_filter, filter_key_eq_singleton hunique hrow]
    rfl

/-- What is committed for a name is renewed where the name begins, and carried over from the version
before elsewhere. -/
theorem committed_step (h : Chronicle log store)
    (hrow : store.Holds path name number version row) :
    (store.Begins path name number ∧ row.committedHash = row.contentHash ∧
        row.committedAt = version.createdAt) ∨
      ∃ before previous old, number = before + 1 ∧ 1 ≤ before ∧
        store.Holds path name before previous old ∧ old.structureHash = row.structureHash ∧
        row.committedHash = old.committedHash ∧ row.committedAt = old.committedAt := by
  obtain ⟨snapshot, hsnapshot, rfl, rfl, rfl, hmem, rfl⟩ := h.holds_iff.1 hrow
  rcases h.first_or_follows hsnapshot with hfirst | ⟨last, hlast, hfollows⟩
  · refine .inl ⟨.inl hfirst.versionNumber, Staging.committed_of_renewed hmem ?_⟩
    rw [hfirst.identities]
    simp [IdentityTable.find?]
  · have hnamed := (wellFormed_extract last.extracted).named
    -- The rows of the version before are those of the snapshot before.
    have hheld : ∀ old ∈ last.records, old.qualifiedName = row.qualifiedName →
        store.Holds snapshot.extraction.path row.qualifiedName last.versionNumber last.version
          old :=
      fun old hold hname =>
        h.holds_iff.2 ⟨last, hlast, hfollows.path.symm, rfl, rfl, hold, hname⟩
    by_cases hcarried : ∃ old ∈ last.records, old.qualifiedName = row.qualifiedName ∧
        old.structureHash = row.structureHash
    · obtain ⟨old, hold, hname, hsame⟩ := hcarried
      refine .inr ⟨last.versionNumber, last.version, old, hfollows.versionNumber,
        h.one_le_versionNumber hlast, hheld old hold hname, hsame, ?_⟩
      exact Staging.committed_of_carried hnamed hfollows.identities hmem hold hname hsame
    · refine .inl ⟨.inr ?_, Staging.committed_of_renewed hmem ?_⟩
      · rw [hfollows.versionNumber, Nat.add_sub_cancel]
        by_cases hpresent : ∃ old ∈ last.records, old.qualifiedName = row.qualifiedName
        · obtain ⟨old, hold, hname⟩ := hpresent
          rw [hfollows.versionNumber] at hrow
          refine .inr ⟨_, row, _, old, hrow, hheld old hold hname, fun hsame => ?_⟩
          exact hcarried ⟨old, hold, hname, hsame.symm⟩
        · refine .inl fun ⟨previous, old, hprior⟩ => hpresent ?_
          obtain ⟨other, hother, hpath, hnumber, _, hold, hname⟩ := h.holds_iff.1 hprior
          rw [h.eq_of_versionNumber hother hlast (hpath.trans hfollows.path) hnumber] at hold
          exact ⟨old, hold, hname⟩
      · intro identity hidentity hsame
        rw [hfollows.identities] at hidentity
        obtain ⟨old, hold, hname⟩ := Staging.exists_of_find?_recorded hidentity
        rw [← hname, Staging.find?_recorded_of_mem hnamed hold, Option.some.injEq] at hidentity
        rw [← hidentity] at hsame
        exact hcarried ⟨old, hold, hname, hsame⟩

/-- The history has one row for each name of a version. -/
theorem history_of_component (h : Chronicle log store) (hsnapshot : snapshot ∈ log)
    {component : Component} {position : Nat}
    (hcomponent : snapshot.extraction.components[position]? = some component) :
    store.history.filter (fun entry => entry.versionId == snapshot.version.id &&
        entry.qualifiedName == component.qualifiedName) =
      [snapshot.historyRow component position] := by
  have hnames : snapshot.historyRows.map (·.qualifiedName) =
      snapshot.extraction.components.map (·.qualifiedName) :=
    snapshot.map_rows snapshot.historyRow fun _ _ => rfl
  have hunique := (wellFormed_extract snapshot.extracted).named.unique
  rw [← hnames] at hunique
  have hentry : snapshot.historyRow component position ∈ snapshot.historyRows :=
    List.mem_map.2 ⟨(component, position), List.mem_zipIdx_iff_getElem?.2 hcomponent, rfl⟩
  have hversion := h.historyRows hsnapshot
  have hone := filter_key_eq_singleton hunique hentry
  rw [← hversion, List.filter_filter] at hone
  rw [← hone]
  refine List.filter_congr fun entry _ => ?_
  exact Bool.and_comm _ _

/-- The history row of a name has what its component row commits. -/
theorem history_of_holds (h : Chronicle log store)
    (hrow : store.Holds path name number version row) :
    ∃ entry, store.history.filter
          (fun entry => entry.versionId == version.id && entry.qualifiedName == name) = [entry] ∧
      entry.committedHash = row.committedHash ∧ entry.committedAt = row.committedAt := by
  obtain ⟨snapshot, hsnapshot, rfl, rfl, rfl, hmem, rfl⟩ := h.holds_iff.1 hrow
  obtain ⟨position, component, hcomponent, rfl⟩ := Staging.mem_records.1 hmem
  exact ⟨snapshot.historyRow component position, h.history_of_component hsnapshot hcomponent, rfl,
    rfl⟩

/-- What is committed for a name comes from where its run of equal trees began. -/
theorem committed_run (h : Chronicle log store)
    (hrow : store.Holds path name number version row) :
    ∃ origin first initial,
      IsGreatest {i | store.IsOrigin path name number i} origin ∧
      store.Holds path name origin first initial ∧
      row.committedHash = initial.contentHash ∧ row.committedAt = first.createdAt ∧
      ∀ i version' row', origin ≤ i → i ≤ number → store.Holds path name i version' row' →
        row'.structureHash = row.structureHash := by
  -- By induction on the number of the version; the origin stays as long as the tree does.
  induction number generalizing version row with
  | zero =>
    obtain ⟨_, hsnapshot, _, hzero, _⟩ := h.holds_iff.1 hrow
    exact absurd hzero (Nat.ne_of_gt (h.one_le_versionNumber hsnapshot))
  | succ number ih =>
    rcases h.committed_step hrow with ⟨hbegins, hhash, hat⟩ |
      ⟨before, previous, old, hnumber, hone, hold, hstructure, hhash, hat⟩
    · refine ⟨number + 1, version, row, hrow.isGreatest_self hbegins, hrow, hhash, hat, ?_⟩
      intro i version' row' hfrom hto hheld
      obtain rfl := Nat.le_antisymm hto hfrom
      rw [(hheld.unique hrow).2]
    · obtain rfl : number = before := Nat.succ.inj hnumber
      obtain ⟨origin, first, initial, horigin, hheld, hcommitted, htime, hsame⟩ := ih hold
      have hnot := hrow.not_begins hone hold hstructure
      refine ⟨origin, first, initial, hrow.isGreatest_succ hnot horigin, hheld,
        hhash.trans hcommitted, hat.trans htime, ?_⟩
      intro i version' row' hfrom hto hi
      by_cases hlast : i = number + 1
      · subst hlast
        rw [(hi.unique hrow).2]
      · exact (hsame i version' row' hfrom (by omega) hi).trans hstructure

end Chronicle

namespace Store

/-- What a version commits for a name, in its component row and in its history row, are the digest
of the text under the name and the time of the version where the present run of equal trees under
the name began: the last one at which the name begins such that all versions from there on have
it. -/
theorem committed_at_origin {store : Store} (h : store.Reachable) {path name : String}
    {number : Nat} {version : VersionRow} {row : ComponentRecord}
    (hrow : store.Holds path name number version row) :
    ∃ origin first initial,
      IsGreatest {i | store.IsOrigin path name number i} origin ∧
      store.Holds path name origin first initial ∧
      row.committedHash = initial.contentHash ∧ row.committedAt = first.createdAt ∧
      (∃ entry, store.history.filter
            (fun entry => entry.versionId == version.id && entry.qualifiedName == name) = [entry] ∧
        entry.committedHash = initial.contentHash ∧ entry.committedAt = first.createdAt) ∧
      ∀ i version' row', origin ≤ i → i ≤ number → store.Holds path name i version' row' →
        row'.structureHash = row.structureHash := by
  obtain ⟨log, hlog⟩ := h.chronicle
  obtain ⟨origin, first, initial, horigin, hheld, hhash, hat, hsame⟩ := hlog.committed_run hrow
  obtain ⟨entry, hentry, hentryHash, hentryAt⟩ := hlog.history_of_holds hrow
  exact ⟨origin, first, initial, horigin, hheld, hhash, hat,
    ⟨entry, hentry, hentryHash.trans hhash, hentryAt.trans hat⟩, hsame⟩

theorem committed_at_origin_reinstated :
    ∃ version row origin first initial,
      reinstated.Reachable ∧ reinstated.Holds "a.py" "é" 3 version row ∧
      IsGreatest {i | reinstated.IsOrigin "a.py" "é" 3 i} origin ∧
      reinstated.Holds "a.py" "é" origin first initial ∧
      row.committedHash = initial.contentHash ∧ first.createdAt = 3 := by
  have hversion : (reinstated.requireVersion "a.py" (some 3)).toOption.map (·.id) = some 3 := by
    decide +kernel
  have hcommitted : (reinstated.component? 3 "é").toOption.join.map (·.committedAt) = some 3 := by
    decide +kernel
  obtain ⟨version, hfound, hid⟩ := Option.map_eq_some_iff.1 hversion
  obtain ⟨row, hrow, hat⟩ := Option.map_eq_some_iff.1 hcommitted
  have hholds : reinstated.Holds "a.py" "é" 3 version row := by
    constructor
    · exact eq_ok_of_toOption hfound
    · rw [hid]
      exact eq_ok_of_toOption (Option.join_eq_some_iff.1 hrow)
  obtain ⟨origin, first, initial, horigin, hheld, hhash, htime, _⟩ :=
    committed_at_origin reachable_reinstated hholds
  exact ⟨version, row, origin, first, initial, reachable_reinstated, hholds, horigin, hheld, hhash,
    htime.symm.trans hat⟩

end Store

end SourceLedger
