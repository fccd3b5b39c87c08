import SourceLedger.Extraction
import SourceLedger.Proofs.Increment
import SourceLedger.Proofs.Sighting

/-!
# Uses of names can be left out

Writing down that a name is used changes no frame, and no other event writes down a use. A recorder
that leaves uses out therefore goes through the same frames as one that does not, and has the same
findings but for the uses.

## Main definitions

* `Findings.withoutReads` and `Extraction.withoutReads` delete the uses of names.

## Main statements

* `Recorder.run_withoutReads` compares the two recorders.
* `Extraction.reads_left_out` compares whole extractions.
-/

namespace SourceLedger

open Outline (Event)

/-- Findings without the uses of names. What binds, changes or deletes a name stays. -/
def Findings.withoutReads (findings : Findings) : Findings :=
  { findings with symbols := findings.symbols.filter (·.fact.access != .read) }

/-- The extraction without the uses of names. -/
def Extraction.withoutReads (extraction : Extraction) : Extraction :=
  { extraction with toFindings := extraction.toFindings.withoutReads }

namespace Recorder

/-- A recorder that has not written down the uses of names. -/
def withoutReads (recorder : Recorder) : Recorder :=
  { recorder with findings := recorder.findings.withoutReads }

/-- Uses are all that the events of a file write down more if uses are written down. -/
theorem noted_withoutReads {event : Event} (hwrites : event.Writes) (top : Option Frame) :
    (Owned.noted top (·.symbol? true event)).filter (·.fact.access != .read) =
      Owned.noted top (·.symbol? false event) := by
  cases top with
  | none => rfl
  | some frame =>
    by_cases hmention : ∃ name line, event = .mention name line
    · obtain ⟨name, line, rfl⟩ := hmention
      cases hscope : frame.readScope? name with
      | none => simp [Owned.noted, Frame.symbol?, hscope]
      | some scope => simp [Owned.noted, Frame.symbol?, hscope]
    · have hsame : frame.symbol? true event = frame.symbol? false event := by
        cases event with
        | mention name line => exact absurd ⟨name, line, rfl⟩ hmention
        | _ => rfl
      refine (List.filter_eq_self.2 fun symbol hsymbol => ?_).trans (by simp [Owned.noted, hsame])
      simp only [Owned.noted, Option.toList_some, List.flatMap_cons, List.flatMap_nil,
        List.append_nil, List.mem_map, Option.mem_toList] at hsymbol
      obtain ⟨fact, hfact, rfl⟩ := hsymbol
      simp only [bne_iff_ne]
      intro hread
      obtain ⟨⟨line, hevent⟩, _⟩ := Frame.mention_of_symbol? hfact hwrites hread
      exact hmention ⟨_, line, hevent⟩

/-- A step without uses commutes with deleting the uses. -/
theorem step_withoutReads {event : Event} (hwrites : event.Writes) (recorder : Recorder) :
    recorder.withoutReads.step false event = (recorder.step true event).withoutReads := by
  have hfindings (findings : Findings) (top : Option Frame) :
      findings.withoutReads ++ increment false top event =
        (findings ++ increment true top event).withoutReads := by
    simp only [Findings.append_def, Findings.append, Findings.withoutReads, List.filter_append,
      increment, noted_withoutReads hwrites]
  rw [step_eq, step_eq]
  exact congrArg₂ Recorder.mk (hfindings recorder.findings recorder.stack.head?) rfl

theorem run_withoutReads {events : List Event} (hwrites : ∀ event ∈ events, event.Writes)
    (recorder : Recorder) :
    recorder.withoutReads.run false events = (recorder.run true events).withoutReads := by
  induction events generalizing recorder with
  | nil => rfl
  | cons event rest ih =>
    obtain ⟨hevent, hrest⟩ := List.forall_mem_cons.1 hwrites
    rw [run_cons, run_cons, step_withoutReads hevent]
    exact ih hrest _

end Recorder

namespace Extraction

theorem staged_withoutReads (path source : String) (tree : Syntax.Tree) :
    staged path source tree false = (staged path source tree true).withoutReads := by
  have hrun := Recorder.run_withoutReads
    (Outline.writes_moduleEvents ⟨source, tree.lines⟩ tree.root) {}
  have hfindings : (Recorder.run false {}
      (Outline.moduleEvents ⟨source, tree.lines⟩ tree.root)).findings = _ :=
    congrArg Recorder.findings hrun
  unfold staged
  simp only [hfindings]
  rfl

theorem named_withoutReads (extraction : Extraction) (policy : DuplicatePolicy) :
    extraction.withoutReads.named policy = (extraction.named policy).map withoutReads := by
  have hcomponents : extraction.withoutReads.components = extraction.components := rfl
  unfold named
  rw [hcomponents]
  cases Naming.assign policy extraction.components with
  | ok components => rfl
  | error name => rfl

/-- Leaving out uses of names deletes them from an extraction and changes nothing else: the other
symbols are there in the same order, and so is all the rest, and where one extraction fails the
other fails in the same way. -/
theorem reads_left_out (path text : String) (tree : Syntax.Tree) (policy : DuplicatePolicy) :
    extract path text tree { duplicateNames := policy, recordReads := false } =
      (extract path text tree { duplicateNames := policy, recordReads := true }).map
        withoutReads := by
  unfold extract
  cases checkTree path tree with
  | error failure => rfl
  | ok tree =>
    change named _ policy = (named _ policy).map withoutReads
    rw [← named_withoutReads, staged_withoutReads]

end Extraction

end SourceLedger
