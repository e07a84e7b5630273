import Mathlib.Data.List.Forall2
import RpcDispatch.Proofs.Extraction.Writing

/-!
# Extraction inverts writing

Whatever the layout of a file, reading it gives one signature for each definition written in it,
and nothing else.
-/

namespace RpcDispatch

open Token

namespace Token

theorem ofTextsFrom_identifier {t : Text} (h : t.isIdentifier = true) (offset : Nat)
    (gap : Text) (ts : List Text) :
    ofTextsFrom offset gap (t :: ts) =
      ⟨.ident, gap, t, offset⟩ :: ofTextsFrom (offset + Text.byteSize t) [] ts := by
  obtain ⟨ht, hg⟩ := ofTextFrom_identifier offset gap h
  rw [ofTextsFrom, ht, hg]
  rfl

theorem ofTextsFrom_single {c : Char} {kind : TokenKind} (h : Piece.head c [] = (.lexeme kind, 0))
    (offset : Nat) (gap : Text) (ts : List Text) :
    ofTextsFrom offset gap ([c] :: ts) =
      ⟨kind, gap, [c], offset⟩ :: ofTextsFrom (offset + c.utf8Size) [] ts := by
  rw [ofTextsFrom, ofTextFrom_lexeme h, layoutAfter_lexeme h]
  simp

end Token

theorem nextOfKind?_written {t : Text} (ht : t.isGap = true) (c : Char) (kind : TokenKind)
    (hc : Piece.head c [] = (.lexeme kind, 0)) (hk : kind.isComment = false) (offset : Nat)
    (gap : Text) (ts : List Text) :
    ∃ x, x.kind = kind ∧ nextOfKind? kind (ofTextsFrom offset gap (t :: [c] :: ts)) =
      some (x, ofTextsFrom (offset + Text.byteSize t + c.utf8Size) [] ts) := by
  rw [ofTextsFrom, ofTextsFrom_single hc]
  exact ⟨_, rfl, nextOfKind?_comments (isComment_of_isGap _ _ ht) rfl hk _⟩

/-- A balanced text is all that a group takes in. -/
theorem Group.read?_written {opener closer : TokenKind} {t : Text}
    (ht : t.isBalanced opener closer = true) (hne : opener ≠ closer) (c : Char)
    (hc : Piece.head c [] = (.lexeme closer, 0)) (offset : Nat) (ts : List Text) :
    ∃ (g : Group) (offset' : Nat),
      read? opener closer 0 (ofTextsFrom offset [] (t :: [c] :: ts)) = some g ∧
        g.text = t ∧ g.rest = ofTextsFrom offset' [] ts := by
  rw [Text.isBalanced, beq_iff_eq, ← map_kind_ofTextFrom offset []] at ht
  rw [ofTextsFrom, ofTextsFrom_single hc]
  refine ⟨⟨_, _, _⟩, _, (read?_eq_some hne).mpr ⟨rfl, rfl, ht⟩, ?_, rfl⟩
  exact between_ofTextFrom offset [] t

/-- The head of a written definition, and what is left behind it. -/
theorem DefinitionHead.read_written {returns : Option ReturnDraft} {parts : List Text}
    (hr : WritesReturn returns parts) {gap₀ gap₁ name : Text} (h₀ : gap₀.isGap = true)
    (hn : name.isIdentifier = true) (h₁ : gap₁.isGap = true) (keyword : Token) (offset : Nat)
    (gap : Text) (rest : List Text) :
    ∃ (nameToken : Token) (offset' : Nat), nameToken.text = name ∧
      read keyword (ofTextsFrom offset gap (gap₀ :: (parts ++ name :: gap₁ :: ['('] :: rest))) =
        .ok ⟨returns.map (·.type), (returns.bind (·.width)).map ArrayWidth.ofText, nameToken,
          ofTextsFrom offset' [] (gap₁ :: ['('] :: rest)⟩ := by
  have hgap {o : Nat} {g t : Text} (h : t.isGap = true) :
      ∀ x ∈ ofTextFrom o g t, x.isComment = true := isComment_of_isGap o g h
  cases hr with
  | none =>
      rw [List.nil_append, ofTextsFrom, ofTextsFrom_identifier hn]
      obtain ⟨p, hk, hp⟩ := nextOfKind?_written h₁ '(' .leftParen rfl rfl
        (offset + Text.byteSize gap₀ + Text.byteSize name) [] rest
      exact ⟨_, _, rfl, read_eq_ok.mpr ⟨_, _, _, _, nextOfKind?_comments (hgap h₀) rfl rfl _,
        (nextOfKind?_eq_some.mp hp).1, .inl ⟨hk, rfl⟩⟩⟩
  | @scalar r g hw hg =>
      rw [List.cons_append, List.singleton_append, ofTextsFrom,
        ofTextsFrom_identifier r.type_isIdentifier, ofTextsFrom, ofTextsFrom_identifier hn]
      simp only [Option.map_some, Option.bind_some, hw, Option.map_none]
      exact ⟨_, _, rfl, read_eq_ok.mpr ⟨_, _, _, _, nextOfKind?_comments (hgap h₀) rfl rfl _,
        nextSignificant?_comments (hgap hg) rfl _, .inr (.inl ⟨rfl, rfl⟩)⟩⟩
  | @array r w g₁ g₂ hw hg₁ hg₂ =>
      simp only [List.cons_append, List.nil_append]
      rw [ofTextsFrom, ofTextsFrom_identifier r.type_isIdentifier, ofTextsFrom,
        ofTextsFrom_single (show Piece.head '[' [] = (.lexeme .leftBracket, 0) from rfl)]
      obtain ⟨width, o, hread, htext, hrest⟩ := Group.read?_written
        (r.width_isBalanced w hw) (by decide) ']' rfl
        (offset + Text.byteSize gap₀ + Text.byteSize r.type + Text.byteSize g₁ + '['.utf8Size)
        (g₂ :: name :: gap₁ :: ['('] :: rest)
      rw [ofTextsFrom, ofTextsFrom_identifier hn] at hrest
      have hname : nextOfKind? .ident width.rest = _ :=
        hrest ▸ nextOfKind?_comments (hgap hg₂) rfl rfl _
      simp only [Option.map_some, Option.bind_some, hw]
      exact ⟨_, _, rfl, read_eq_ok.mpr ⟨_, _, _, _, nextOfKind?_comments (hgap h₀) rfl rfl _,
        nextSignificant?_comments (hgap hg₁) rfl _,
        .inr (.inr ⟨rfl, width, _, _, hread, hname, by rw [htext]⟩)⟩⟩

/-- A written definition is read back, up to the text behind it. -/
theorem Definition.read_written {d : Draft} {returns : List Text}
    (hr : WritesReturn d.returns returns) {gap₀ gap₁ gap₂ : Text} (h₀ : gap₀.isGap = true)
    (h₁ : gap₁.isGap = true) (h₂ : gap₂.isGap = true) (keyword : Token) (offset : Nat)
    (gap : Text) (rest : List Text) :
    ∃ (read : Definition) (offset' : Nat),
      Definition.read keyword (ofTextsFrom offset gap (gap₀ :: (returns ++ d.name :: gap₁ ::
        ['('] :: d.params :: [')'] :: gap₂ :: ['\x7b'] :: d.body :: ['\x7d'] :: rest))) = .ok read ∧
      read.head.returnType = d.returns.map (·.type) ∧
      read.head.returnWidth = (d.returns.bind (·.width)).map ArrayWidth.ofText ∧
      read.head.name.text = d.name ∧ read.params.text = d.params ∧ read.body.text = d.body ∧
      read.rest = ofTextsFrom offset' [] rest := by
  obtain ⟨name, o₁, hname, hhead⟩ := DefinitionHead.read_written hr h₀ d.name_isIdentifier h₁
    keyword offset gap (d.params :: [')'] :: gap₂ :: ['\x7b'] :: d.body :: ['\x7d'] :: rest)
  obtain ⟨openParen, -, hparen⟩ := nextOfKind?_written h₁ '(' .leftParen rfl rfl
    o₁ [] (d.params :: [')'] :: gap₂ :: ['\x7b'] :: d.body :: ['\x7d'] :: rest)
  obtain ⟨params, o₂, hparams, hptext, hprest⟩ := Group.read?_written d.params_isBalanced
    (by decide) ')' rfl (o₁ + Text.byteSize gap₁ + '('.utf8Size)
    (gap₂ :: ['\x7b'] :: d.body :: ['\x7d'] :: rest)
  obtain ⟨openBrace, -, hbrace⟩ := nextOfKind?_written h₂ '\x7b' .leftBrace rfl rfl
    o₂ [] (d.body :: ['\x7d'] :: rest)
  obtain ⟨body, o₃, hbody, hbtext, hbrest⟩ := Group.read?_written d.body_isBalanced
    (by decide) '\x7d' rfl (o₂ + Text.byteSize gap₂ + '\x7b'.utf8Size) rest
  rw [← hprest] at hbrace
  exact ⟨⟨_, params, body⟩, o₃, read_eq_ok.mpr ⟨hhead, openParen, _, openBrace, _, hparen, hparams,
    hbrace, hbody⟩, rfl, rfl, hname, hptext, hbtext, hbrest⟩

/-! ## Files -/

namespace SourceText

variable (s : SourceText)

theorem ne_defineFunction_of_not_mem {t : Text} (h : .defineFunction ∉ kinds t) (offset : Nat)
    (gap : Text) : ∀ x ∈ ofTextFrom offset gap t, x.kind ≠ .defineFunction := by
  intro x hx hk
  apply h
  rw [← hk]
  exact mem_kinds hx

/-- Text without a comment at its end is no doc comment. -/
theorem docAfter_eq_none {t : Text} (h : ∀ k ∈ (kinds t).getLast?, k.isComment = false)
    (offset : Nat) (gap : Text) : docAfter none (ofTextFrom offset gap t) = none := by
  rw [docAfter]
  split
  · rfl
  next x hx =>
    have hk : (kinds t).getLast? = some x.kind := by
      rw [← map_kind_ofTextFrom offset gap, List.getLast?_map, hx]
      rfl
    rw [Token.isComment, h _ hk]
    rfl

/-- What stands before the keyword of a definition gives it its doc comment. -/
theorem findingsFrom_written_doc {doc : Option Text} {parts : List Text} (hd : WritesDoc doc parts)
    (hc : ∀ c ∈ doc, c.isBlockComment = true) {before : Option Token}
    (hb : doc = none → before = none) (offset : Nat) (gap : Text) (rest : List Text) :
    ∃ (after : Option Token) (offset' : Nat) (gap' : Text), after.map (·.text) = doc ∧
      s.findingsFrom 0 before (ofTextsFrom offset gap (parts ++ rest)) =
        s.findingsFrom 0 after (ofTextsFrom offset' gap' rest) := by
  cases hd with
  | none => exact ⟨none, offset, gap, rfl, by rw [hb rfl, List.nil_append]⟩
  | @some c layout hl =>
      obtain ⟨kind, hk, htokens, hgap⟩ := ofTextFrom_blockComment offset gap (hc c rfl)
      have hne : kind ≠ .defineFunction := by
        rintro rfl
        simp [TokenKind.isComment] at hk
      simp only [List.cons_append, List.nil_append]
      rw [ofTextsFrom, htokens, ofTextsFrom, ofTextFrom_layoutOnly _ _ hl, List.nil_append,
        s.findingsFrom_append (by simpa using hne)]
      refine ⟨_, _, _, ?_, rfl⟩
      simp [docAfter, Token.isComment, hk]

/-- Behind each body the scan resumes, and no comment is pending there. -/
theorem findingsFrom_written {ds : List Draft} {parts : List Text} (h : Writes ds parts)
    (offset : Nat) (gap : Text) :
    ∃ sigs, s.findingsFrom 0 none (ofTextsFrom offset gap parts) = sigs.map .signature ∧
      List.Forall₂ (Captures s.path) ds sigs := by
  induction h generalizing offset gap with
  | nil hother =>
      rw [ofTextsFrom, s.findingsFrom_append (ne_defineFunction_of_not_mem hother offset gap)]
      exact ⟨[], rfl, .nil⟩
  | @cons d ds other parts rest hother hdoc hd _ ih =>
      rw [ofTextsFrom, s.findingsFrom_append (ne_defineFunction_of_not_mem hother offset gap)]
      cases hd with
      | @mk doc returns keyword gap₀ gap₁ gap₂ hwdoc hkey h₀ hr h₁ h₂ =>
          simp only [List.append_assoc, List.cons_append, List.nil_append]
          obtain ⟨after, o, g, hafter, hfind⟩ := s.findingsFrom_written_doc hwdoc
            d.doc_isBlockComment (fun hnone => docAfter_eq_none (hdoc hnone) offset gap)
            (offset + Text.byteSize other) (layoutAfter gap other)
            (keyword :: gap₀ :: (returns ++ d.name :: gap₁ :: ['('] :: d.params :: [')'] :: gap₂ ::
              ['\x7b'] :: d.body :: ['\x7d'] :: rest))
          obtain ⟨hktokens, hkgap⟩ := ofTextFrom_keyword o g hkey
          rw [hfind, ofTextsFrom, hktokens, hkgap]
          obtain ⟨read, o', hread, htype, hwidth, hname, hparams, hbody, hrest⟩ :=
            Definition.read_written hr h₀ h₁ h₂ ⟨.defineFunction, g, keyword, o⟩
              (o + Text.byteSize keyword) [] rest
          obtain ⟨sigs, hsigs, hall⟩ := ih o' []
          rw [List.singleton_append, s.findingsFrom_definition rfl hread, hrest, hsigs]
          refine ⟨_ :: sigs, rfl, .cons ⟨?_, htype, hwidth, hname, ?_, hbody, rfl⟩ hall⟩
          · exact hafter
          · exact congrArg Text.trim hparams

/-- Reading a file in which definitions are written gives them back, one signature each, and
nothing else. -/
theorem extract_written {ds : List Draft} {parts : List Text} (hw : Writes ds parts)
    (hj : Text.areJoined parts = true) (path : Path) :
    List.Forall₂ (Captures path) ds (extract ⟨path, parts.flatten⟩).signatures ∧
      (extract ⟨path, parts.flatten⟩).diagnostics = [] := by
  obtain ⟨sigs, hsigs, hall⟩ := findingsFrom_written ⟨path, parts.flatten⟩ hw 0 []
  have hf : findings ⟨path, parts.flatten⟩ = sigs.map .signature := by
    rw [findings, ofText_eq, ofTextFrom_flatten hj, hsigs]
  have hsome : sigs.filterMap (Finding.signature? ∘ Finding.signature) = sigs := by
    simp [Function.comp_def, Finding.signature?]
  have hnone : sigs.filterMap (Finding.diagnostic? ∘ Finding.signature) = [] := by
    simp [Function.comp_def, Finding.diagnostic?]
  rw [extract, hf, List.filterMap_map, List.filterMap_map, hsome, hnone]
  exact ⟨hall, rfl⟩

/-- A definition with every part, and brackets and a keyword where they do not count. -/
def labelDraft : Draft where
  doc := some "(* the label *)".toList
  returns := some ⟨"CHAR".toList, some " MAX[1] ".toList, by decide, by decide⟩
  name := "get_label".toList
  params := "\n integer i /* ) */ ".toList
  body := "\x7b define_function x() ')\x7d' \x7d // \x7d\n".toList
  doc_isBlockComment := by decide
  name_isIdentifier := by decide
  params_isBalanced := by decide
  body_isBalanced := by decide

def labelDefinition : List Text :=
  ["(* the label *)".toList, "// here\n".toList] ++ "Define_FUNCTION".toList :: "\t".toList ::
    (["CHAR".toList, [], ['['], " MAX[1] ".toList, [']'], "/**/".toList] ++
      [labelDraft.name, [], ['('], labelDraft.params, [')'], "\r\n".toList, ['\x7b'],
        labelDraft.body, ['\x7d']])

def countDraft : Draft where
  doc := none
  returns := some ⟨"integer".toList, none, by decide, by decide⟩
  name := "count".toList
  params := []
  body := " return 2; ".toList
  doc_isBlockComment := by decide
  name_isIdentifier := by decide
  params_isBalanced := by decide
  body_isBalanced := by decide

def countDefinition : List Text :=
  [] ++ "DEFINE_FUNCTION".toList :: " ".toList :: (["integer".toList, "\n".toList] ++
    [countDraft.name, [], ['('], countDraft.params, [')'], [], ['\x7b'], countDraft.body, ['\x7d']])

/-- Both definitions in one file. The comment between them belongs to neither. -/
def labelParts : List Text :=
  "x = ')';".toList :: (labelDefinition ++ "(* other *) )\n".toList ::
    (countDefinition ++ [['(']]))

theorem writes_labelParts : Writes [labelDraft, countDraft] labelParts := by
  refine .cons (by decide) (by decide) (.mk (.some ?_) ?_ ?_ (.array rfl ?_ ?_) ?_ ?_)
    (.cons (by decide) (by decide) (.mk .none ?_ ?_ (.scalar rfl ?_) ?_ ?_) (.nil (by decide)))
  all_goals decide

/-- Two definitions with a comment and a stray parenthesis between them. -/
theorem extract_labelParts :
    Text.areJoined labelParts = true ∧
      List.Forall₂ (Captures ⟨"a.axi".toList⟩) [labelDraft, countDraft]
        (extract ⟨⟨"a.axi".toList⟩, labelParts.flatten⟩).signatures ∧
      (extract ⟨⟨"a.axi".toList⟩, labelParts.flatten⟩).diagnostics = [] :=
  ⟨by decide, extract_written writes_labelParts (by decide) _⟩

end SourceText

end RpcDispatch
