import RpcDispatch.Proofs.Dispatch.Branches

/-!
# The dispatcher reads as it is meant

Whatever is quoted in it, the lexer finds the frame and the branches and nothing else besides
comments. So the brackets of the dispatcher match, and it holds no definition.
-/

namespace RpcDispatch

open Text

def DispatchEntry.branch? (e : DispatchEntry) : Option ResolvedSignature :=
  match e.fragment with
  | .branch f => some f
  | .skip _ _ => none

def DispatchTable.branches (t : DispatchTable) : List ResolvedSignature :=
  t.entries.filterMap (·.branch?)

/-- The brackets of each kind match, no keyword and no open string or comment is left. -/
structure Text.IsWellFormed (t : Text) : Prop where
  balanced : ∀ b ∈ TokenKind.brackets, t.isBalanced b.1 b.2 = true
  noKeyword : .defineFunction ∉ Token.kinds t
  closed : t.isSelfContained = true

namespace Render

def entryCode (e : DispatchEntry) : List (TokenKind × Text) :=
  e.branch?.toList.flatMap fun f => (branch {} f).code

/-- A branch is read as its code, and a skip, which is a comment, as nothing. -/
theorem leads_entry {source : SourceText} {s : Signature} (hs : s ∈ source.extract.signatures)
    (hwidths : ∀ w ∈ s.widths, w.text.isOneLine = true) {e : DispatchEntry} (he : s.Enters e) :
    Leads (entry {} e) (entryCode e) ∧ TokenKind.IsNeutral ((entryCode e).map Prod.fst) := by
  obtain ⟨hname, htype⟩ := source.isWord_of_mem_signatures hs
  cases he with
  | @branch ps _ =>
      have hwritable := Signature.isWritable_accepted
        (SourceText.isIdentifier_of_mem_signatures hs) ps
      obtain ⟨hleads, hneutral⟩ := isNeutral_branch (s := {}) (by decide) hwritable
      rw [entryCode, DispatchEntry.branch?, Option.toList_some, List.flatMap_singleton]
      exact ⟨hleads, hneutral⟩
  | @skip reason hreason =>
      have hdescribe : reason.describe.isOneLine = true := by
        rcases hreason with rfl | hrefused
        · decide
        · exact hrefused.isOneLine_describe
            (fun type ht => isOneLine_of_isWord (htype type ht)) hwidths
      exact ⟨leads_skip (isOneLine_of_isWord hname) hdescribe, (by decide : TokenKind.IsNeutral [])⟩

end Render

theorem DispatchTable.flatMap_entryCode (t : DispatchTable) :
    t.entries.flatMap Render.entryCode =
      t.branches.flatMap fun f => (Render.branch {} f).code := by
  rw [branches, List.filterMap_eq_flatMap_toList, List.flatMap_assoc]
  rfl

namespace Session

variable {sources : List (Text × SourceText)}

/-- The sections one behind the other are read as the branches of the table. -/
theorem leads_sections (hdisplay : ∀ x ∈ sources, x.1.KeepsOpen)
    (hwidths : ∀ x ∈ sources, ∀ s ∈ x.2.extract.signatures, ∀ w ∈ s.widths,
      w.text.isOneLine = true) :
    let table := (ofSources sources).table
    Leads (table.sections.flatMap (Render.fileSection {}))
        (table.entries.flatMap Render.entryCode) ∧
      TokenKind.IsNeutral ((table.entries.flatMap Render.entryCode).map Prod.fst) := by
  intro table
  have hsections : ∀ f ∈ table.sections, f.path.KeepsOpen ∧
      ∀ e ∈ f.entries, Leads (Render.entry {} e) (Render.entryCode e) ∧
        TokenKind.IsNeutral ((Render.entryCode e).map Prod.fst) := by
    intro f hf
    obtain ⟨x, hx, hpath, hentries⟩ := of_mem_sections_ofSources hf
    refine ⟨hpath ▸ hdisplay x hx, fun e he => ?_⟩
    obtain ⟨s, hs, henters⟩ := hentries e he
    exact Render.leads_entry hs (hwidths x hx s hs) henters
  have hentries : table.entries.flatMap Render.entryCode =
      table.sections.flatMap fun f => f.entries.flatMap Render.entryCode := List.flatMap_assoc
  rw [hentries, List.map_flatMap]
  constructor
  · refine Leads.flatMap fun f hf => ?_
    obtain ⟨hpath, hf⟩ := hsections f hf
    exact (Render.leads_banner hpath).append (Leads.flatMap fun e he => (hf e he).1)
  · refine TokenKind.IsNeutral.flatMap fun f hf => ?_
    rw [List.map_flatMap]
    exact TokenKind.IsNeutral.flatMap fun e he => ((hsections f hf).2 e he).2

/-- Let no path hold the end of a block comment, and no declared width a line end. Then the lexer
finds in the dispatcher the code of the frame and of the branches, and all else is comments. The
dispatcher is well formed, and read as a source it has no signature and no diagnostic. -/
theorem render_wellFormed {audit : Audit} (hdisplay : ∀ x ∈ sources, x.1.KeepsOpen)
    (hwidths : ∀ x ∈ sources, ∀ s ∈ x.2.extract.signatures, ∀ w ∈ s.widths,
      w.text.isOneLine = true)
    (haudit : ∀ path ∈ audit.included ++ audit.excluded, path.KeepsOpen) :
    let session := ofSources sources
    let contents := (session.render {} audit).contents
    contents.IsWellFormed ∧
      (∀ path, (SourceText.extract ⟨path, contents⟩).signatures = [] ∧
        (SourceText.extract ⟨path, contents⟩).diagnostics = []) ∧
      contents.code = (Render.header {} {}).code ++
        session.table.branches.flatMap (fun f => (Render.branch {} f).code) ++
          Render.footer.code := by
  intro session contents
  obtain ⟨hsections, hneutral⟩ := leads_sections hdisplay hwidths
  have hheader : (Render.header {} {}).code = (Render.opening {}).code :=
    (Render.leads_header (by simp)).code_eq
  have hcontents : Leads contents _ :=
    ((Render.leads_header haudit).append hsections).append Render.leads_footer
  have hkinds : TokenKind.IsNeutral (contents.code.map Prod.fst) := by
    rw [hcontents.code_eq, List.map_append, List.map_append]
    exact Render.isNeutral_frame.insert hneutral
  obtain ⟨hkeyword, hbalanced⟩ := isNeutral_code_iff.mp hkinds
  refine ⟨⟨hbalanced, hkeyword, hcontents.isSelfContained⟩,
    fun path => SourceText.extract_of_noKeyword hkeyword, ?_⟩
  rw [hcontents.code_eq, hheader, DispatchTable.flatMap_entryCode]

/-- Two files. The first has a function with an array, which is refused, with a quote and an opened
comment in its parameter list, and a function that is dispatched. The second repeats its name. -/
theorem render_wellFormed_twoFiles :
    let sources : List (Text × SourceText) :=
      [("a.axi", ⟨⟨"a.axi"⟩, "define_function char[20] f(char a[']'] /* ' (* */)\x7b\x7d" ++
          "define_function integer G(integer i)\x7b\x7d"⟩),
        ("b.axi", ⟨⟨"b.axi"⟩, "define_function g()\x7b\x7d"⟩)]
    let audit : Audit := ⟨["a.axi", "b.axi"], ["(*.axi"]⟩
    let contents := ((ofSources sources).render {} audit).contents
    (ofSources sources).table.branches.map (·.name) = [['G']] ∧ contents.IsWellFormed ∧
      (SourceText.extract ⟨⟨"c.axi"⟩, contents⟩).signatures = [] := by
  intro sources audit contents
  have hdisplay : ∀ x ∈ sources, Text.KeepsOpen x.1 := by
    unfold KeepsOpen
    decide
  have haudit : ∀ path ∈ audit.included ++ audit.excluded, Text.KeepsOpen path := by
    unfold KeepsOpen
    decide
  have hwidths : ∀ x ∈ sources, ∀ s ∈ x.2.extract.signatures, ∀ w ∈ s.widths,
      w.text.isOneLine = true := by decide
  obtain ⟨hwell, hextract, -⟩ := render_wellFormed hdisplay hwidths haudit
  exact ⟨by decide, hwell, (hextract _).1⟩

end Session

end RpcDispatch
