import RpcDispatch.Proofs.Workspace.Entities
import RpcDispatch.Proofs.Workspace.Marks

/-!
# Reading a workspace that was written

A draft is a document in which the files of a system are written, with free text everywhere around
them. Reading the document gives these files back in their order, and nothing of what surrounds
them, unless the attributes of the system end like the closing tag of the project.
-/

namespace RpcDispatch.Workspace

/-! ## Listed files -/

/-- A file listed in a system, and the text that separates it from what stands before. -/
structure Listed where
  separator : Text
  lead : Text
  name : Text
  trail : Text
  isSeparator : ¬ "<FilePathName>".toList <:+: separator
  isSpace_lead : ∀ c ∈ lead, Text.isSpace c = true
  isTrimmed : Text.trim name = name
  isSpace_trail : ∀ c ∈ trail, Text.isSpace c = true

namespace Listed

def inside (f : Listed) : Text := f.lead ++ Entity.encode f.name ++ f.trail

def text (f : Listed) : Text :=
  f.separator ++ ("<FilePathName>" ++ (f.inside ++ "</FilePathName>"))

theorem decode_trim_inside (f : Listed) : Entity.decode (Text.trim f.inside) = f.name := by
  rw [inside, Entity.decode_trim_padded f.isSpace_lead f.isSpace_trail, f.isTrimmed]

theorem lt_notMem_inside (f : Listed) : '<' ∉ f.inside := by
  have hspace : Text.isSpace '<' ≠ true := by decide
  simp only [inside, List.mem_append, not_or]
  exact ⟨⟨fun h => hspace (f.isSpace_lead _ h), Entity.lt_notMem_encode f.name⟩,
    fun h => hspace (f.isSpace_trail _ h)⟩

theorem cutAt?_inside (f : Listed) (rest : Text) :
    Text.cutAt? "</FilePathName>" (f.inside ++ ("</FilePathName>".toList ++ rest)) =
      some (f.inside, rest) :=
  Text.cutAt?_append (r := "/FilePathName>".toList) (by decide)
    (fun h => f.lt_notMem_inside (h.subset List.mem_cons_self)) rest

/-- The next closing tag is that of the file, since its inside holds no `<`. -/
theorem between_text (f : Listed) (rest : Text) :
    between "<FilePathName>" "</FilePathName>" 0 (f.text ++ rest) =
      f.inside :: between "<FilePathName>" "</FilePathName>" 0 rest := by
  have hassoc : f.text ++ rest =
      f.separator ++ ("<FilePathName>" ++ (f.inside ++ ("</FilePathName>".toList ++ rest))) := by
    simp only [text, List.append_assoc]
  rw [hassoc]
  calc between "<FilePathName>" "</FilePathName>" 0 _
      = between "<FilePathName>" "</FilePathName>" 0
          ("<FilePathName>" ++ (f.inside ++ ("</FilePathName>".toList ++ rest))) :=
        between_append (r := "FilePathName>".toList) (by decide) f.isSeparator _
    _ = f.inside :: between "<FilePathName>" "</FilePathName>" 0 rest :=
        between_pair (r := "FilePathName>".toList) (f.cutAt?_inside rest)

end Listed

/-- What follows the files may hold anything but another opening tag. -/
theorem entriesOf_listed (fs : List Listed) {rest : Text}
    (hrest : ¬ "<FilePathName>".toList <:+: rest) :
    entriesOf (fs.flatMap Listed.text ++ rest) = fs.map Listed.name := by
  induction fs with
  | nil => rw [List.flatMap_nil, List.nil_append, entriesOf, between_eq_nil hrest]; rfl
  | cons f fs ih =>
      rw [List.flatMap_cons, List.append_assoc, entriesOf, Listed.between_text, List.map_cons,
        f.decode_trim_inside, ← entriesOf, ih, List.map_cons]

/-! ## Drafts -/

/-- A document whose first project has a system. -/
structure Draft where
  beforeProject : Text
  project : Attributes
  beforeSystem : Text
  system : Attributes
  files : List Listed
  afterFiles : Text
  afterSystem : Text
  afterProject : Text
  isFirst : ¬ "<Project".toList <:+: beforeProject
  beforeSystem_isOpen : ¬ "</Project>".toList <:+: beforeSystem
  isFirst_system : ¬ "<System".toList <:+: beforeSystem
  files_end : ¬ "<FilePathName>".toList <:+: afterFiles
  files_isOpen : ¬ "</Project>".toList <:+: files.flatMap Listed.text ++ afterFiles
  files_inSystem : ¬ "</System>".toList <:+: files.flatMap Listed.text ++ afterFiles
  afterSystem_isOpen : ¬ "</Project>".toList <:+: afterSystem

namespace Draft

variable (d : Draft)

def listing : Text := d.files.flatMap Listed.text ++ d.afterFiles

def inside : Text :=
  d.beforeSystem ++ (openingTag "System" d.system ++
    (d.listing ++ (closingTag "System" ++ d.afterSystem)))

def text : Text :=
  d.beforeProject ++ (openingTag "Project" d.project ++
    (d.inside ++ (closingTag "Project" ++ d.afterProject)))

def names : List Text := d.files.map Listed.name

theorem entriesOf_listing : entriesOf d.listing = d.names := entriesOf_listed d.files d.files_end

theorem element?_system : element? "System" d.inside = some d.listing :=
  element?_eq_some (by decide) d.isFirst_system d.system d.files_inSystem d.afterSystem

/-- The project is closed inside only through the attributes of the system. -/
theorem suffix_of_closed (h : "</Project>".toList <:+: d.inside) :
    "</Project".toList <:+ d.system.text := by
  have hmark : '<' ∉ "/Project>".toList := by decide
  rw [inside, openingTag_append] at h
  rcases (Text.infix_append_cons_iff hmark).mp h with h | h
  · exact absurd h d.beforeSystem_isOpen
  have hattributes := Text.infix_of_infix_mark_append (r := "/Project>".toList) (by decide)
    (by decide) (by decide) h
  refine (Text.infix_append_cons_of_last (x := "</Project".toList) (by decide) d.system.isOpen
    hattributes).resolve_right fun h => ?_
  rcases (Text.infix_append_cons_iff hmark).mp h with h | h
  · exact d.files_isOpen h
  · exact d.afterSystem_isOpen (Text.infix_of_infix_mark_append (r := "/Project>".toList)
      (o := "/System>".toList) (by decide) (by decide) (by decide) h)

theorem parse_text_of_not_suffix (path : Path) (h : ¬ "</Project".toList <:+ d.system.text) :
    parse path d.text = .ok ⟨path, d.names⟩ := by
  have hproject : element? "Project" d.text = some d.inside :=
    element?_eq_some (by decide) d.isFirst d.project (mt d.suffix_of_closed h) d.afterProject
  simp only [parse, hproject, d.element?_system, d.entriesOf_listing]

/-- Attributes that end so close the project, and no system is left in it. -/
theorem parse_text_of_suffix (path : Path) (h : "</Project".toList <:+ d.system.text) :
    parse path d.text =
      .error (.invalidWorkspace path "first project has no <System> element") := by
  obtain ⟨w, hw⟩ := h
  -- what is left of the project ends inside the tag of its system
  obtain ⟨rest, hrest⟩ : ∃ rest, d.text = d.beforeProject ++ (openingTag "Project" d.project ++
      ((d.beforeSystem ++ '<' :: ("System" ++ w)) ++ (closingTag "Project" ++ rest))) := by
    refine ⟨d.listing ++ (closingTag "System" ++ d.afterSystem) ++
      (closingTag "Project" ++ d.afterProject), ?_⟩
    rw [text, inside, openingTag_append "System", ← hw]
    simp only [List.append_assoc, List.cons_append]
    rfl
  have hopen : '>' ∉ w := fun h => d.system.isOpen (hw ▸ List.mem_append_left _ h)
  have hleft : ¬ "</Project>".toList <:+: d.beforeSystem ++ '<' :: ("System" ++ w) := by
    intro h
    rcases (Text.infix_append_cons_iff (r := "/Project>".toList) (by decide)).mp h with h | h
    · exact d.beforeSystem_isOpen h
    · have hmem : '>' ∈ '<' :: ("System" ++ w) := h.subset (by decide)
      simp [hopen] at hmem
  have hproject : element? "Project" d.text = some (d.beforeSystem ++ '<' :: ("System" ++ w)) := by
    rw [hrest]
    exact element?_eq_some (by decide) d.isFirst d.project hleft rest
  have hends : endsName w = true := by
    cases w with
    | nil =>
        have hspace := d.system.isApart '<' (by rw [← hw]; rfl)
        exact absurd hspace (by decide)
    | cons c w =>
        exact endsName_cons (Unicode.isWordChar_of_isSpace
          (d.system.isApart c (by rw [← hw]; rfl))) w
  have hsystem : element? "System" (d.beforeSystem ++ '<' :: ("System" ++ w)) = none :=
    element?_eq_none (by decide) d.isFirst_system hends hopen
  simp only [parse, hproject, hsystem]

end Draft

/-- Reading gives back the files that were written, whatever stands around them. -/
theorem parse_draft_eq_ok_iff (path : Path) (d : Draft) :
    parse path d.text = .ok ⟨path, d.names⟩ ↔ ¬ "</Project".toList <:+ d.system.text := by
  refine ⟨fun hok hsuffix => ?_, d.parse_text_of_not_suffix path⟩
  rw [d.parse_text_of_suffix path hsuffix] at hok
  cases hok

def Draft.twoFiles : Draft where
  beforeProject := "<Workspace>"
  project := ⟨" id=\"1\"", by rintro _ ⟨⟩; rfl, by decide⟩
  beforeSystem := "<Name>a</Name>"
  system := ⟨"", nofun, by decide⟩
  files :=
    [⟨"<File>", " ", "R&D.axs", "\n", by decide, List.all_eq_true.mp (by decide), by decide,
        List.all_eq_true.mp (by decide)⟩,
      ⟨"</File><File>", "", "<b>.axi", "", by decide, nofun, by decide, nofun⟩]
  afterFiles := "</File>"
  afterSystem := "<System><FilePathName>c.axs</FilePathName></System>"
  afterProject := "<Project></Project></Workspace>"
  isFirst := by decide
  beforeSystem_isOpen := by decide
  isFirst_system := by decide
  files_end := by decide
  files_isOpen := by decide +kernel
  files_inSystem := by decide +kernel
  afterSystem_isOpen := by decide

theorem parse_draft_twoFiles :
    parse ⟨"a.apw"⟩ Draft.twoFiles.text = .ok ⟨⟨"a.apw"⟩, ["R&D.axs".toList, "<b>.axi".toList]⟩ :=
  (parse_draft_eq_ok_iff ⟨"a.apw"⟩ Draft.twoFiles).mpr (by decide)

/-- Attributes that hold no `>` and close the project all the same. -/
def Draft.closing : Draft where
  beforeProject := ""
  project := ⟨"", nofun, by decide⟩
  beforeSystem := ""
  system := ⟨" </Project", by rintro _ ⟨⟩; rfl, by decide⟩
  files := []
  afterFiles := ""
  afterSystem := ""
  afterProject := ""
  isFirst := by decide
  beforeSystem_isOpen := by decide
  isFirst_system := by decide
  files_end := by decide
  files_isOpen := by decide
  files_inSystem := by decide
  afterSystem_isOpen := by decide

/-- The tag of the system closes the project too early. -/
theorem parse_draft_closing :
    Draft.closing.text = "<Project><System </Project></System></Project>".toList ∧
      Draft.closing.names = [] ∧
      parse ⟨"a.apw"⟩ Draft.closing.text ≠ .ok ⟨⟨"a.apw"⟩, Draft.closing.names⟩ := by
  refine ⟨by decide, rfl, ?_⟩
  rw [Draft.closing.parse_text_of_suffix ⟨"a.apw"⟩ (by decide)]
  nofun

end RpcDispatch.Workspace
