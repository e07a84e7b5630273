import RpcDispatch.Proofs.Dispatch.AlikeTables
import RpcDispatch.Proofs.Dispatch.FirstDefinition

/-!
# Entries and their signatures

Every entry of a table was made for a signature of the file it stands under: a branch for one that
is accepted, else a skip on one of the grounds of refusal.
-/

namespace RpcDispatch

/-- The entry can have been made for the signature, in some registry. -/
inductive Signature.Enters (s : Signature) : DispatchEntry → Prop
  | branch {ps : List Parameter} : s.Accepts ps → s.Enters ⟨s.name, .branch (s.accepted ps)⟩
  | skip {reason : SkipReason} : reason = .duplicateName ∨ s.RefusedFor reason →
      s.Enters ⟨s.name, .skip s.rawParams reason⟩

theorem Signature.enters_ofOutcome (s : Signature) (r : Registry) :
    s.Enters (DispatchEntry.ofOutcome s (s.validate r).1) := by
  cases houtcome : (s.validate r).1 with
  | error reason => exact .skip (of_validate_eq_error houtcome)
  | ok f =>
      obtain ⟨ps, hps, rfl⟩ := of_validate_eq_ok houtcome
      exact .branch hps

namespace DispatchTable

theorem of_mem_entriesOf {ss : List Signature} {r : Registry} {e : DispatchEntry}
    (he : e ∈ (entriesOf ss r).1) : ∃ s ∈ ss, s.Enters e := by
  induction ss generalizing r with
  | nil => cases he
  | cons s ss ih =>
      rw [entriesOf_cons] at he
      rcases List.mem_cons.mp he with rfl | he
      · exact ⟨s, List.mem_cons_self, s.enters_ofOutcome r⟩
      · obtain ⟨s', hs', henters⟩ := ih he
        exact ⟨s', List.mem_cons_of_mem s hs', henters⟩

theorem of_mem_sectionsOf {ds : List DisplayedScan} {r : Registry} {f : FileSection}
    (hf : f ∈ sectionsOf ds r) :
    ∃ d ∈ ds, f.path = d.display ∧ ∀ e ∈ f.entries, ∃ s ∈ d.scan.signatures, s.Enters e := by
  induction ds generalizing r with
  | nil => cases hf
  | cons d ds ih =>
      rw [sectionsOf_cons] at hf
      rcases List.mem_cons.mp hf with rfl | hf
      · exact ⟨d, List.mem_cons_self, rfl, fun _ he => of_mem_entriesOf he⟩
      · obtain ⟨d', hd', h⟩ := ih hf
        exact ⟨d', List.mem_cons_of_mem d hd', h⟩

end DispatchTable

/-- The section of a file that was read in a session of sources. -/
theorem Session.of_mem_sections_ofSources {sources : List (Text × SourceText)} {f : FileSection}
    (hf : f ∈ (ofSources sources).table.sections) :
    ∃ x ∈ sources, f.path = x.1 ∧ ∀ e ∈ f.entries, ∃ s ∈ x.2.extract.signatures, s.Enters e := by
  obtain ⟨d, hd, h⟩ := DispatchTable.of_mem_sectionsOf hf
  rw [scans_ofSources] at hd
  obtain ⟨x, hx, rfl⟩ := List.mem_map.mp hd
  exact ⟨x, hx, h⟩

end RpcDispatch
