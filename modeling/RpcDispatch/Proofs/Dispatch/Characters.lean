import RpcDispatch.Proofs.Dispatch.Entries
import RpcDispatch.Proofs.Dispatch.LetterCase
import RpcDispatch.Proofs.Extraction.Characters
import RpcDispatch.Text.Latin

/-!
# Characters of the output

The frame of the dispatcher is ASCII, and all else is quoted from the sources, the audit, the paths
and the settings. The one text that changes is a name, which is put in lower case, and a name is a
word of ASCII letters. So what is read as Latin-1 can be written as Latin-1, without loss.
-/

namespace RpcDispatch

variable {P : Char → Prop}

namespace Text

variable {t : Text}

theorem isWord_lower (h : ∀ c ∈ t, Piece.isWordPart c = true) :
    ∀ c ∈ lower t, Piece.isWordPart c = true := by
  have hpart : ∀ c : Char, Piece.isWordPart c.toLower = Piece.isWordPart c :=
    apply_toLower (by decide)
  rw [lower_eq_foldCase fun c hc => Piece.lt_of_isWordPart (h c hc)]
  intro c hc
  obtain ⟨d, hd, rfl⟩ := List.mem_map.mp hc
  rw [hpart, h d hd]

def Ascii (P : Char → Prop) : Prop := ∀ c : Char, c.toNat < 0x80 → P c

theorem Ascii.within (hP : Ascii P) {l : List Char} (h : l.all (·.toNat < 0x80) = true) :
    Text.Within P (String.ofList l).toList := by
  rw [String.toList_ofList]
  exact fun c hc => hP c (of_decide_eq_true (List.all_eq_true.mp h c hc))

/-- Every ASCII character has the property, unless it is the asterisk, which stands in comments
only. -/
def Plain (P : Char → Prop) : Prop := ∀ c : Char, c.toNat < 0x80 → c ≠ '*' → P c

theorem Ascii.plain (hP : Ascii P) : Plain P := fun c hc _ => hP c hc

theorem Plain.within (hP : Plain P) {l : List Char}
    (h : l.all (fun c => c.toNat < 0x80 && c != '*') = true) :
    Text.Within P (String.ofList l).toList := by
  rw [String.toList_ofList]
  intro c hc
  have hall := List.all_eq_true.mp h c hc
  rw [Bool.and_eq_true, decide_eq_true_eq, bne_iff_ne] at hall
  exact hP c hall.1 hall.2

theorem Plain.within_of_isWord (hP : Plain P) (h : ∀ c ∈ t, Piece.isWordPart c = true) :
    t.Within P := by
  intro c hc
  refine hP c (Piece.lt_of_isWordPart (h c hc)) ?_
  rintro rfl
  exact absurd (h '*' hc) (by decide)

theorem Plain.within_ofNat (hP : Plain P) (n : Nat) : (ofNat n).Within P := by
  refine hP.within_of_isWord fun c hc => ?_
  have hd : c.isDigit = true := Nat.isDigit_of_mem_toDigits (by decide) (by decide) hc
  simp [Piece.isWordPart, Char.isAlphanum, hd]

end Text

/-! ## Reasons of a refusal -/

theorem ArrayWidth.within_typeText (hP : Text.Ascii P) {type : Text} (ht : type.Within P)
    {width : Option ArrayWidth} (hwidth : ∀ w ∈ width, w.Within P) :
    (typeText type width).Within P := by
  cases width with
  | none => exact ht
  | some w =>
      have hw := hwidth w rfl
      cases w with
      | unsized => exact Text.within_append.mpr ⟨ht, hP.within (by decide)⟩
      | sized w =>
          rw [typeText, text, Text.within_append, Text.within_append, Text.within_append]
          exact ⟨ht, ⟨hP.within (by decide), hw⟩, hP.within (by decide)⟩

theorem ParameterFault.within_message (hP : Text.Ascii P) (f : ParameterFault) :
    f.message.Within P := by
  cases f with
  | noTypeAndName => exact hP.within (by decide)
  | tokensAfterName => exact hP.within (by decide)

/-- A reason quotes names, types and widths of its signature and nothing else. -/
theorem Signature.RefusedFor.within_describe (hP : Text.Ascii P) {s : Signature}
    (hs : s.Within P) {reason : SkipReason} (h : s.RefusedFor reason) :
    reason.describe.Within P := by
  cases h with
  | @returnType type ht =>
      have hdef : SkipReason.describe (.unsupportedReturnType
          (ArrayWidth.typeText type s.returnWidth)) =
        "Unsupported return type '" ++ ArrayWidth.typeText type s.returnWidth ++ "'." := rfl
      rw [hdef, Text.within_append, Text.within_append]
      exact ⟨⟨hP.within (by decide),
        ArrayWidth.within_typeText hP (hs.returnType _ ht) hs.returnWidth⟩,
        hP.within (by decide)⟩
  | @malformed f =>
      have hdef : SkipReason.describe (.malformedParameters f.position f.fault.message) =
        "Malformed parameter list: " ++
          ("parameter " ++ Text.ofNat f.position ++ ": " ++ f.fault.message) ++ "." := rfl
      rw [hdef]
      simp only [Text.within_append]
      exact ⟨⟨hP.within (by decide), ⟨⟨hP.within (by decide), hP.plain.within_ofNat _⟩,
        hP.within (by decide)⟩, f.fault.within_message hP⟩, hP.within (by decide)⟩
  | @parameterType before after p _ hparse =>
      have hmem : p ∈ before ++ p :: after := by simp
      obtain ⟨htype, hname⟩ := Parameter.isWord_of_mem_parseList hparse hmem
      have hwidth := Parameter.within_of_mem_parseList hs.rawParams hparse hmem
      have hdef : SkipReason.describe (.unsupportedParameterType
          (ArrayWidth.typeText p.type p.width) p.name) =
        "Unsupported parameter type '" ++ ArrayWidth.typeText p.type p.width ++ "' (" ++ p.name ++
          ")." := rfl
      rw [hdef]
      simp only [Text.within_append]
      exact ⟨⟨⟨⟨hP.within (by decide),
        ArrayWidth.within_typeText hP (hP.plain.within_of_isWord htype) hwidth⟩,
        hP.within (by decide)⟩, hP.plain.within_of_isWord hname⟩,
        hP.within (by decide)⟩

/-! ## The dispatcher -/

structure Audit.Within (P : Char → Prop) (a : Audit) : Prop where
  included : ∀ path ∈ a.included, path.Within P
  excluded : ∀ path ∈ a.excluded, path.Within P

structure DispatchSettings.Within (P : Char → Prop) (s : DispatchSettings) : Prop where
  device : s.device.Within P
  guard : s.guard.Within P
  logLevel : s.logLevel.Within P

namespace Render

variable {s : DispatchSettings}

theorem within_line_iff (hP : Text.Plain P) {n : Nat} {t : Text} :
    (line n t).Within P ↔ t.Within P := by
  have hblanks : Text.Within P (List.replicate n ' ') := by
    intro c hc
    rw [List.eq_of_mem_replicate hc]
    exact hP ' ' (by decide) (by decide)
  have hend : P '\n' := hP '\n' (by decide) (by decide)
  simp [line, hblanks, hend]

theorem within_lines_iff (hP : Text.Ascii P) {ts : List Text} :
    (lines ts).Within P ↔ ∀ t ∈ ts, t.Within P := by
  induction ts with
  | nil => simp [lines]
  | cons t ts ih =>
      rw [lines, List.flatMap_cons, Text.within_append, within_line_iff hP.plain, ← lines, ih,
        List.forall_mem_cons]

theorem within_header (hP : Text.Ascii P) (hs : s.Within P) {audit : Audit}
    (ha : audit.Within P) : (header s audit).Within P := by
  simp only [header, Text.within_append, within_lines_iff hP,
    within_line_iff hP.plain, List.forall_mem_cons]
  and_intros
  all_goals first
    | exact hP.within (by decide)
    | exact ha.included
    | exact ha.excluded
    | exact hs.guard
    | exact hs.device
    | exact List.forall_mem_nil _

theorem within_banner (hP : Text.Ascii P) {path : Text} (h : path.Within P) :
    (banner path).Within P := by
  simp only [banner, Text.within_append, within_line_iff hP.plain]
  and_intros
  all_goals first
    | exact hP.within (by decide)
    | exact h
    | exact Text.within_nil

theorem within_arguments (hP : Text.Plain P) (index : Nat) (ps : List Parameter) :
    ∀ a ∈ arguments index (ps.map .ofInteger), a.Within P := by
  induction ps generalizing index with
  | nil => exact List.forall_mem_nil _
  | cons p ps ih =>
      rw [List.map_cons, arguments, List.forall_mem_cons]
      refine ⟨?_, ih (index + 1)⟩
      simp only [TypeSupport.argument, Text.within_append]
      and_intros
      all_goals first
        | exact hP.within (by decide)
        | exact hP.within_ofNat index

theorem within_call (hP : Text.Plain P) {f : Signature} (hname : f.name.Within P)
    (ps : List Parameter) : (call (f.accepted ps)).Within P := by
  have hblanks : Text.Within P (List.replicate 16 ' ') := by
    intro c hc
    rw [List.eq_of_mem_replicate hc]
    exact hP ' ' (by decide) (by decide)
  have htarget : Text.Within P (if (f.accepted ps).returns.isSome then
      returnValue ++ " = " ++ (f.accepted ps).name else (f.accepted ps).name) := by
    split
    next =>
      rw [Text.within_append, Text.within_append]
      exact ⟨⟨hP.within (by decide), hP.within (by decide)⟩, hname⟩
    next => exact hname
  have hargs := within_arguments hP 1 ps
  rw [call]
  split
  next => exact (within_line_iff hP).mpr (Text.within_append.mpr
    ⟨htarget, hP.within (by decide)⟩)
  next =>
    simp only [Text.within_append, within_line_iff hP]
    refine ⟨⟨⟨⟨htarget, hP.within (by decide)⟩, ?_⟩, ?_⟩, hP.within (by decide)⟩
    · refine Text.within_intercalate ?_ ?_
      · simp [hP ',' (by decide) (by decide), hP '\n' (by decide) (by decide)]
      · intro t ht
        obtain ⟨a, ha, rfl⟩ := List.mem_map.mp ht
        exact Text.within_append.mpr ⟨hblanks, hargs a ha⟩
    · simp [hP '\n' (by decide) (by decide)]

theorem within_declareReturn (hP : Text.Plain P) (type : Option Text) :
    (declareReturn (type.map fun _ => .integer)).Within P := by
  cases type with
  | none => exact Text.within_nil
  | some type =>
      simp only [declareReturn, Option.map_some, TypeSupport.declare, Text.within_append,
        within_line_iff hP]
      and_intros
      all_goals first
        | exact hP.within (by decide)
        | exact Text.within_nil

theorem within_logReturn (hP : Text.Plain P) (hlevel : s.logLevel.Within P) (type : Option Text) :
    (logReturn s (type.map fun _ => .integer)).Within P := by
  cases type with
  | none => exact Text.within_nil
  | some type =>
      simp only [logReturn, Option.map_some, TypeSupport.stringify, Text.within_append,
        within_line_iff hP]
      and_intros
      all_goals first
        | exact hP.within (by decide)
        | exact hlevel
        | exact Text.within_nil

theorem within_branch (hP : Text.Plain P) (hlevel : s.logLevel.Within P) {f : Signature}
    (hname : ∀ c ∈ f.name, Piece.isWordPart c = true) (ps : List Parameter) :
    (branch s (f.accepted ps)).Within P := by
  have hword := hP.within_of_isWord hname
  have hlower := hP.within_of_isWord (Text.isWord_lower hname)
  simp only [branch, Text.within_append, within_line_iff hP]
  and_intros
  all_goals first
    | exact hP.within (by decide)
    | exact hlower
    | exact hword
    | exact within_declareReturn hP f.returnType
    | exact within_logReturn hP hlevel f.returnType
    | exact within_call hP hword ps
    | exact hlevel
    | exact Text.within_nil

theorem within_skip (hP : Text.Ascii P) {name rawParams : Text} (hname : name.Within P)
    (hparams : rawParams.Within P) {reason : SkipReason} (hreason : reason.describe.Within P) :
    (skip name rawParams reason).Within P := by
  simp only [skip, Text.within_append, within_line_iff hP.plain]
  and_intros
  all_goals first
    | exact hP.within (by decide)
    | exact hname
    | exact hreason
    | exact hparams.collapse (hP ' ' (by decide))
    | exact Text.within_nil

theorem within_entry (hP : Text.Ascii P) (hs : s.Within P) {f : Signature} (hf : f.Within P)
    (hname : ∀ c ∈ f.name, Piece.isWordPart c = true) {e : DispatchEntry} (he : f.Enters e) :
    (entry s e).Within P := by
  cases he with
  | @branch ps _ => exact within_branch hP.plain hs.logLevel hname ps
  | skip hreason =>
      refine within_skip hP hf.name hf.rawParams ?_
      rcases hreason with rfl | hrefused
      · exact hP.within (by decide)
      · exact hrefused.within_describe hP hf

end Render

/-! ## Sessions -/

namespace Session

variable {sources : List (Text × SourceText)} {s : DispatchSettings} {audit : Audit}

/-- Whatever is copied into the dispatcher comes from the sources, the settings or the audit. -/
theorem within_render (hP : Text.Ascii P)
    (hsources : ∀ x ∈ sources, x.1.Within P ∧ x.2.text.Within P) (hs : s.Within P)
    (ha : audit.Within P) : ((ofSources sources).render s audit).contents.Within P := by
  have hsections : ∀ f ∈ (ofSources sources).table.sections, (Render.fileSection s f).Within P := by
    intro f hf
    obtain ⟨x, hx, hpath, hentries⟩ := of_mem_sections_ofSources hf
    obtain ⟨hdisplay, htext⟩ := hsources x hx
    refine Text.within_append.mpr ⟨Render.within_banner hP (hpath ▸ hdisplay), ?_⟩
    refine Text.within_flatMap fun e he => ?_
    obtain ⟨sig, hsig, henters⟩ := hentries e he
    exact Render.within_entry hP hs (SourceText.within_of_mem_signatures htext hsig)
      (x.2.isWord_of_mem_signatures hsig).1 henters
  have hfooter : Render.footer.Within P := by
    simp only [Render.footer, Text.within_append, Render.within_line_iff hP.plain]
    and_intros
    all_goals first
      | exact hP.within (by decide)
      | exact Text.within_nil
  exact Text.within_append.mpr ⟨Text.within_append.mpr
    ⟨Render.within_header hP hs ha, Text.within_flatMap hsections⟩, hfooter⟩

theorem within_listing (hP : Text.Ascii P)
    (hsources : ∀ x ∈ sources, x.1.Within P ∧ x.2.text.Within P) :
    (ofSources sources).listing.Within P := by
  have hrule : Listing.rule.Within P := by
    intro c hc
    rw [List.eq_of_mem_replicate hc]
    exact hP '-' (by decide)
  rw [listing, Listing.render, scans_ofSources]
  refine Text.within_flatMap fun d hd => ?_
  obtain ⟨x, hx, rfl⟩ := List.mem_map.mp hd
  obtain ⟨hdisplay, htext⟩ := hsources x hx
  have hsignatures : Text.Within P (x.2.extract.signatures.flatMap Listing.signature) := by
    refine Text.within_flatMap fun sig hsig => ?_
    have hwithin := SourceText.within_of_mem_signatures htext hsig
    simp only [Listing.signature, Text.within_append]
    refine ⟨⟨⟨?_, hP.within (by decide)⟩, hwithin.name⟩, hP.within (by decide)⟩
    cases hdoc : sig.docComment with
    | none => exact Text.within_nil
    | some doc => exact hwithin.docComment doc hdoc
  simp only [Listing.file, Text.within_append]
  and_intros
  all_goals first
    | exact hP.within (by decide)
    | exact hrule
    | exact hdisplay
    | exact hsignatures

end Session

/-! ## Latin-1 -/

namespace Latin

/-- The characters that one byte holds. -/
def IsLatin (c : Char) : Prop := c.toNat ≤ 0xFF

theorem ascii_isLatin : Text.Ascii IsLatin := fun c hc => by
  unfold IsLatin
  omega

theorem within_decode (bytes : List UInt8) : (decode bytes).Within IsLatin := by
  intro c hc
  obtain ⟨b, -, rfl⟩ := List.mem_map.mp hc
  have hall : ∀ n < 256, (Char.ofNat n).toNat ≤ 0xFF := by decide +kernel
  exact hall b.toNat b.toNat_lt

/-- Below code point 256 nothing is lost on the way to bytes and back. -/
theorem decode_encode {t : Text} (h : t.Within IsLatin) : decode (encode t) = t := by
  rw [decode, encode, List.map_map]
  refine (List.map_congr_left fun c hc => ?_).trans (List.map_id t)
  have hc : c.toNat < 256 := Nat.lt_succ_of_le (h c hc)
  have hbyte : c.toNat.toUInt8.toNat = c.toNat := by
    rw [Nat.toUInt8_eq, UInt8.toNat_ofNat', Nat.mod_eq_of_lt hc]
  rw [Function.comp_apply, encodeChar, if_pos hc, hbyte, Char.ofNat_toNat, id_eq]

end Latin

namespace Session

def ofFiles (files : List (Text × Path × List UInt8)) : Session :=
  ofSources (files.map fun f => (f.1, ⟨f.2.1, Latin.decode f.2.2⟩))

theorem within_of_mem_files {files : List (Text × Path × List UInt8)}
    (h : ∀ f ∈ files, f.1.Within Latin.IsLatin) :
    ∀ x ∈ files.map fun f => (f.1, (⟨f.2.1, Latin.decode f.2.2⟩ : SourceText)),
      x.1.Within Latin.IsLatin ∧ x.2.text.Within Latin.IsLatin := by
  intro x hx
  obtain ⟨f, hf, rfl⟩ := List.mem_map.mp hx
  exact ⟨h f hf, Latin.within_decode f.2.2⟩

/-- Whatever bytes the files hold, the dispatcher and the listing are written as they are. -/
theorem written_lossless {files : List (Text × Path × List UInt8)} {settings : DispatchSettings}
    {audit : Audit} (hfiles : ∀ f ∈ files, f.1.Within Latin.IsLatin)
    (hsettings : settings.Within Latin.IsLatin) (haudit : audit.Within Latin.IsLatin) :
    let contents := ((ofFiles files).render settings audit).contents
    let listing := (ofFiles files).listing
    (∀ c ∈ contents, c.toNat ≤ 0xFF) ∧ (∀ c ∈ listing, c.toNat ≤ 0xFF) ∧
      Latin.decode (Latin.encode contents) = contents ∧
      Latin.decode (Latin.encode listing) = listing := by
  have hsources := within_of_mem_files hfiles
  have hcontents := within_render Latin.ascii_isLatin hsources hsettings haudit
  have hlisting := within_listing Latin.ascii_isLatin hsources
  exact ⟨hcontents, hlisting, Latin.decode_encode hcontents, Latin.decode_encode hlisting⟩

/-- One file, with a comment of two bytes above the ASCII range before a function, under a path that
has such a character too. -/
theorem written_lossless_umlaut :
    let files : List (Text × Path × List UInt8) :=
      [("\u00FC.axi", ⟨"\u00FC.axi"⟩,
        [0x2F, 0x2A, 0xE4, 0xFF, 0x2A, 0x2F] ++
          Latin.encode "define_function char[\u00B5] f(integer i) \x7b\x7d")]
    let contents := ((ofFiles files).render {} ⟨["\u00FC.axi"], []⟩).contents
    (∀ c ∈ contents, c.toNat ≤ 0xFF) ∧ Latin.decode (Latin.encode contents) = contents := by
  intro files contents
  have hpath : Text.Within Latin.IsLatin "\u00FC.axi" := by
    have hall : ("\u00FC.axi" : Text).all (·.toNat ≤ 0xFF) = true := by decide
    intro c hc
    exact of_decide_eq_true (p := c.toNat ≤ 0xFF) (List.all_eq_true.mp hall c hc)
  have hfiles : ∀ f ∈ files, f.1.Within Latin.IsLatin := by
    simpa [files] using hpath
  have hsettings : DispatchSettings.Within Latin.IsLatin {} :=
    ⟨Latin.ascii_isLatin.within (by decide), Latin.ascii_isLatin.within (by decide),
      Latin.ascii_isLatin.within (by decide)⟩
  have haudit : Audit.Within Latin.IsLatin ⟨["\u00FC.axi"], []⟩ :=
    ⟨by simpa using hpath, by simp⟩
  obtain ⟨hcontents, -, hdecode, -⟩ := written_lossless hfiles hsettings haudit
  exact ⟨hcontents, hdecode⟩

end Session

end RpcDispatch
