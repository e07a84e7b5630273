import RpcDispatch.Proofs.Project.Reserved
import RpcDispatch.Proofs.Project.Walking

/-!
# Files that are not scanned by default

By default the sources are the entries with a source extension whose last name is not reserved for a
generated file. So the dispatcher, where it is written by default, is never among them.
-/

namespace RpcDispatch

/-! ## The generated file among the sources -/

/-- Where the dispatcher is written by default, in two names below the root. -/
def generatedDirectory : Text := "include"

def generatedFile : Text := "rpc-functions.axi"

theorem outputPath_eq :
    ({} : OutputSettings).path = ⟨generatedDirectory ++ '/' :: generatedFile⟩ := by
  decide

theorem isName_generatedDirectory : generatedDirectory.IsName := by
  decide

theorem isName_generatedFile : generatedFile.IsName := by
  decide

theorem isReserved_generatedFile : generatedFile.IsReserved :=
  .inr ⟨'-', List.mem_cons_self, "functions".toList, by decide⟩

/-- The dispatcher is matched in whatever directory it stands. -/
theorem isMatch_generatedFile {start : Text} (hstart : start = [] ∨ start.getLast? = some '/') :
    Regex.generatedPath.isMatch (start ++ generatedFile) = true := by
  have hname : Text.lastName (start ++ generatedFile) = generatedFile := by
    have hslash : '/' ∉ generatedFile := by decide
    rcases hstart with rfl | hlast
    · exact Text.lastName_of_notMem hslash
    · obtain ⟨before, rfl⟩ := List.getLast?_eq_some_iff.mp hlast
      rw [List.append_assoc]
      exact Text.lastName_append before hslash
  rw [Regex.isMatch_generatedPath_iff, hname]
  exact isReserved_generatedFile

/-! ## What is selected -/

def SourceFile.IsSource (f : SourceFile) : Prop :=
  ∃ e ∈ f.path.extension?, Text.sameLetters e "axi" ∨ Text.sameLetters e "axs"

instance : DecidablePred SourceFile.IsSource := fun f =>
  inferInstanceAs (Decidable (∃ e ∈ f.path.extension?, _))

namespace ScanSettings

variable {root base : Path} {entries : List Text} {files : List SourceFile}

theorem select_eq_ok : ({} : ScanSettings).select root base entries = .ok files ↔
    files = ({} : ScanSettings).selectBy Regex.generatedPath root base entries := by
  rw [select, Regex.parse?_exclude]
  exact ⟨fun h => (Except.ok.inj h).symm, fun h => congrArg Except.ok h.symm⟩

theorem any_hasExtension_iff (p : Path) :
    ({} : ScanSettings).extensions.any (Path.hasExtension · p) = true ↔
      ∃ e ∈ p.extension?, Text.sameLetters e "axi" ∨ Text.sameLetters e "axs" := by
  cases h : p.extension? <;> simp [Path.hasExtension, h]

/-- By default an entry is selected if and only if it has the extension of a source and its last
name is not reserved. The selected entries stand in their order, each as often as it is listed. -/
theorem select_default (root base : Path) (entries : List Text) :
    ({} : ScanSettings).select root base entries =
      .ok ((entries.map (SourceFile.ofEntry root base)).filter fun f =>
        f.IsSource ∧ ¬ (Text.lastName f.display).IsReserved) := by
  rw [select_eq_ok, selectBy]
  apply List.filter_congr
  intro f _
  rw [Bool.eq_iff_iff, Bool.and_eq_true, any_hasExtension_iff, decide_eq_true_eq,
    Bool.not_eq_true', ← Bool.not_eq_true, Regex.isMatch_generatedPath_iff]
  exact Iff.rfl

theorem of_mem_selectBy {s : ScanSettings} {exclude : Regex} {f : SourceFile}
    (h : f ∈ s.selectBy exclude root base entries) :
    (∃ entry ∈ entries, f = SourceFile.ofEntry root base entry) ∧
      exclude.isMatch f.display = false := by
  obtain ⟨hmem, htaken⟩ := List.mem_filter.mp h
  obtain ⟨entry, hentry, rfl⟩ := List.mem_map.mp hmem
  rw [Bool.and_eq_true, Bool.not_eq_true'] at htaken
  exact ⟨⟨entry, hentry, rfl⟩, htaken.2⟩

/-- No source that is selected lies where the dispatcher is written, however it is spelled. -/
theorem place_ne_of_mem_select (h : ({} : ScanSettings).select root base entries = .ok files)
    {f : SourceFile} (hf : f ∈ files) :
    f.path.place ≠ root.place ++ [generatedDirectory, generatedFile] := by
  intro hplace
  rw [select_eq_ok.mp h] at hf
  obtain ⟨⟨entry, -, rfl⟩, hexclude⟩ := of_mem_selectBy hf
  obtain ⟨x, hx, -⟩ := Path.fold_eq (base.join ⟨Text.replaceChar '\\' '/' entry⟩)
  have hnames : x.names = (root.place ++ [generatedDirectory]) ++ [generatedFile] := by
    rw [← x.place_path, ← hx, List.append_assoc]
    exact hplace
  have hbase : root.fold.place ≠ x.names := by
    rw [Path.place_fold, hnames]
    intro heq
    have hlength := congrArg List.length heq
    rw [List.length_append, List.length_append, List.length_singleton] at hlength
    omega
  obtain ⟨start, hstart, htext⟩ := Path.Folded.shown_eq hnames hbase
  have hdisplay : (SourceFile.ofEntry root base entry).display =
      Text.replaceChar '\\' '/' start ++ generatedFile := by
    rw [SourceFile.ofEntry]
    dsimp only
    rw [Path.slashed, hx, htext, Text.replaceChar, List.map_append]
    rfl
  have hstart' : Text.replaceChar '\\' '/' start = [] ∨
      (Text.replaceChar '\\' '/' start).getLast? = some '/' := by
    rcases hstart with rfl | hlast
    · exact .inl rfl
    · right
      rw [Text.replaceChar, List.getLast?_map, hlast]
      rfl
  rw [hdisplay, isMatch_generatedFile hstart'] at hexclude
  cases hexclude

end ScanSettings

end RpcDispatch
