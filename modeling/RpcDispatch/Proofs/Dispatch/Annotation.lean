import RpcDispatch.Dispatch.Render
import RpcDispatch.Proofs.Dispatch.Validation
import RpcDispatch.Proofs.Extraction.Parameters
import RpcDispatch.Proofs.Extraction.Reading
import RpcDispatch.Proofs.Lexing.Lines

/-!
# What is written for a refused signature

The annotation quotes the source: the name, the parameters with their white space collapsed, and
the refused type. The width of a type is quoted as it was written, so the annotation is a comment
exactly if every further line of the type is one.
-/

namespace RpcDispatch

namespace Text

/-! ## Texts on one line -/

theorem isOneLine_iff {t : Text} :
    t.isOneLine = true ↔ ∀ c ∈ t, Piece.isLineEnd c = false := by
  simp [isOneLine]

theorem isOneLine_of_isWord {t : Text} (h : ∀ c ∈ t, Piece.isWordPart c = true) :
    t.isOneLine = true := by
  rw [isOneLine_iff]
  intro c hc
  have hword := h c hc
  by_contra he
  rw [Piece.isLineEnd, Bool.not_eq_false, Bool.or_eq_true, beq_iff_eq, beq_iff_eq] at he
  rcases he with rfl | rfl <;> simp [Piece.isWordPart, Char.isAlphanum] at hword

theorem isOneLine_ofNat (n : Nat) : (ofNat n).isOneLine = true := by
  apply isOneLine_of_isWord
  intro c hc
  have hd : c.isDigit = true := Nat.isDigit_of_mem_toDigits (by decide) (by decide) hc
  simp [Piece.isWordPart, Char.isAlphanum, hd]

theorem isSpace_of_isLineEnd {c : Char} (h : Piece.isLineEnd c = true) : isSpace c = true := by
  rw [Piece.isLineEnd, Bool.or_eq_true, beq_iff_eq, beq_iff_eq] at h
  rcases h with rfl | rfl <;> rfl

theorem not_isSpace_of_mem_words {t w : Text} (hw : w ∈ words t) :
    ∀ c ∈ w, isSpace c = false := by
  induction t generalizing w with
  | nil => cases hw
  | cons c t ih =>
      rw [words.eq_def] at hw
      dsimp only at hw
      split at hw
      next => exact ih hw
      next hc =>
        have hc' : isSpace c = false := by simpa using hc
        split at hw
        next =>
          rw [List.mem_singleton.mp hw]
          simpa using hc'
        next d u =>
          split at hw
          next =>
            rcases List.mem_cons.mp hw with rfl | hw
            · simpa using hc'
            · exact ih hw
          next =>
            split at hw
            next =>
              rw [List.mem_singleton.mp hw]
              simpa using hc'
            next v vs hwords =>
              rcases List.mem_cons.mp hw with rfl | hw
              · exact List.forall_mem_cons.mpr ⟨hc', ih (by simp [hwords])⟩
              · exact ih (by simp [hwords, hw])

theorem isOneLine_intercalate {sep : Text} (hsep : sep.isOneLine = true) {ts : List Text}
    (h : ∀ t ∈ ts, t.isOneLine = true) : (intercalate sep ts).isOneLine = true := by
  induction ts with
  | nil => rfl
  | cons t ts ih =>
      have ht := h t List.mem_cons_self
      have hrest := ih fun u hu => h u (List.mem_cons_of_mem t hu)
      cases ts with
      | nil => exact ht
      | cons u us =>
          rw [intercalate, isOneLine_append, isOneLine_append]
          exact ⟨⟨ht, hsep⟩, hrest⟩

theorem isOneLine_collapse (t : Text) : (collapse t).isOneLine = true := by
  apply isOneLine_intercalate rfl
  intro w hw
  rw [isOneLine_iff]
  intro c hc
  by_contra he
  have hspace := isSpace_of_isLineEnd (by simpa using he)
  rw [not_isSpace_of_mem_words hw c hc] at hspace
  cases hspace

/-! ## Quoted texts -/

def laterLines (t : Text) : List Text := t.sourceLines.tail

theorem laterLines_of_isOneLine {t : Text} (h : t.isOneLine = true) : t.laterLines = [] := by
  rw [laterLines, sourceLines_of_isOneLine h]
  rfl

theorem laterLines_prepend {p : Text} (hp : p.isOneLine = true) (t : Text) :
    laterLines (p ++ t) = laterLines t := by
  obtain ⟨l, ls, hl⟩ := sourceLines_eq_cons t
  rw [laterLines, laterLines, sourceLines_prepend hp hl, hl]
  rfl

/-- Behind two slashes only the further lines of a text can be anything but a comment. -/
theorem isInert_comment (t : Text) :
    isInert ("// " ++ t) = t.laterLines.all isInertLine := by
  obtain ⟨l, ls, hl⟩ := sourceLines_eq_cons t
  have hp : isOneLine ("// " : String).toList = true := by decide
  have hfirst : isInertLine (("// " : String).toList ++ l) = true := rfl
  rw [isInert, laterLines, sourceLines_prepend hp hl, hl, List.all_cons, hfirst, Bool.true_and]
  rfl

/-- Text in front of a quoted text and text behind it do not change which of its further lines
are comments, as long as its last line ends visibly. -/
theorem all_laterLines_quoted {p t q : Text} {d : Char} (hp : p.isOneLine = true)
    (hq : q.isOneLine = true) (hslash : q.head? ≠ some '/')
    (ht : t.isOneLine = true ∨ t.getLast? = some d ∧ Piece.isBlank d = false) :
    (laterLines (p ++ (t ++ q))).all isInertLine = t.laterLines.all isInertLine := by
  rw [laterLines_prepend hp]
  rcases isOneLine_or_split t with hone | ⟨r, c, l, rfl, hc, hl⟩
  · rw [laterLines_of_isOneLine hone,
      laterLines_of_isOneLine (isOneLine_append.mpr ⟨hone, hq⟩)]
  · have hnot : isOneLine (r ++ c :: l) = false := by
      simp [isOneLine, hc]
    rw [hnot] at ht
    obtain ⟨hlast, hd⟩ := ht.resolve_left Bool.false_ne_true
    -- The last line is not empty, as the line end in front of it is blank.
    have hlastLine : l.getLast? = some d := by
      cases l with
      | nil =>
          obtain rfl : c = d := by simpa using hlast
          rw [isBlank_of_isLineEnd hc] at hd
          cases hd
      | cons e l => simpa using hlast
    obtain ⟨k, ks, hk⟩ := sourceLines_eq_cons r
    have happend : (r ++ c :: l) ++ q = r ++ c :: (l ++ q) := by simp
    rw [happend, laterLines, laterLines, sourceLines_append_lineEnd hc,
      sourceLines_append_lineEnd hc, sourceLines_of_isOneLine hl,
      sourceLines_of_isOneLine (isOneLine_append.mpr ⟨hl, hq⟩), hk]
    simp [isInertLine_append hlastLine hd hslash]

end Text

/-! ## The annotation -/

theorem Render.isInert_line (n : Nat) (t r : Text) :
    Text.isInert (line n t ++ r) = (t.isInert && r.isInert) := by
  have hblank : ∀ c ∈ List.replicate n ' ', Piece.isBlank c = true := by
    intro c hc
    rw [List.eq_of_mem_replicate hc]
    rfl
  have hsplit : line n t ++ r = (List.replicate n ' ' ++ t) ++ '\n' :: r := by simp [line]
  rw [hsplit, Text.isInert_append_lineEnd rfl, Text.isInert_blanks hblank]

/-- Only the reason of a refusal can break out of the annotation. -/
theorem Render.isInert_skip {name : Text} (hname : name.isOneLine = true) (rawParams : Text)
    (reason : SkipReason) :
    Text.isInert (skip name rawParams reason) =
      reason.describe.laterLines.all Text.isInertLine := by
  have hquoted : Text.isOneLine (name ++ "(" ++ Text.collapse rawParams ++ ")") = true := by
    rw [Text.isOneLine_append, Text.isOneLine_append, Text.isOneLine_append]
    exact ⟨⟨⟨hname, by decide⟩, Text.isOneLine_collapse rawParams⟩, by decide⟩
  have hskipped : Text.isInert "// Skipped:" = true := by decide
  have hlast : Text.isInert (line 0 []) = true := by decide
  have hassoc : ("// " ++ name ++ "(" ++ Text.collapse rawParams ++ ")" : Text) =
      "// " ++ (name ++ "(" ++ Text.collapse rawParams ++ ")") := by
    simp only [List.append_assoc]
  rw [skip, List.append_assoc, List.append_assoc, isInert_line, isInert_line, isInert_line,
    Text.isInert_comment, hskipped, hassoc, Text.isInert_comment,
    Text.laterLines_of_isOneLine hquoted, hlast]
  simp

/-- A type as quoted has one line, or ends in the closing bracket of its width. -/
theorem ArrayWidth.typeText_ends {type : Text} (ht : type.isOneLine = true)
    (width : Option ArrayWidth) :
    (typeText type width).isOneLine = true ∨
      (typeText type width).getLast? = some ']' ∧ Piece.isBlank ']' = false := by
  cases width with
  | none => exact .inl ht
  | some w =>
      right
      cases w with
      | unsized => simp [typeText, text, Piece.isBlank]
      | sized w =>
          have hlast : ("[" ++ w ++ "]" : Text).getLast? = some ']' := by
            rw [List.getLast?_append]
            rfl
          rw [typeText, text, List.getLast?_append, hlast]
          exact ⟨rfl, rfl⟩

namespace SkipReason

def type? : SkipReason → Option Text
  | duplicateName => none
  | unsupportedReturnType type => some type
  | unsupportedParameterType type _ => some type
  | malformedParameters _ _ => none

/-- The quotation marks around a type add nothing to its later lines. -/
theorem describe_returnType {type : Text} (ht : type.isOneLine = true)
    (width : Option ArrayWidth) :
    (describe (.unsupportedReturnType (ArrayWidth.typeText type width))).laterLines.all
        Text.isInertLine =
      (ArrayWidth.typeText type width).laterLines.all Text.isInertLine := by
  have hp : Text.isOneLine "Unsupported return type '" = true := by decide
  have hq : Text.isOneLine "'." = true := by decide
  have hslash : List.head? ("'." : Text) ≠ some '/' := by decide
  have hassoc : describe (.unsupportedReturnType (ArrayWidth.typeText type width)) =
      "Unsupported return type '" ++ (ArrayWidth.typeText type width ++ "'.") :=
    List.append_assoc _ _ _
  rw [hassoc]
  exact Text.all_laterLines_quoted hp hq hslash (ArrayWidth.typeText_ends ht width)

theorem describe_parameterType {type name : Text} (ht : type.isOneLine = true)
    (hn : name.isOneLine = true) (width : Option ArrayWidth) :
    (describe (.unsupportedParameterType (ArrayWidth.typeText type width) name)).laterLines.all
        Text.isInertLine =
      (ArrayWidth.typeText type width).laterLines.all Text.isInertLine := by
  have hp : Text.isOneLine "Unsupported parameter type '" = true := by decide
  have hq : Text.isOneLine ("' (" ++ name ++ ").") = true := by
    rw [Text.isOneLine_append, Text.isOneLine_append]
    exact ⟨⟨by decide, hn⟩, by decide⟩
  have hslash : List.head? ("' (" ++ name ++ ")." : Text) ≠ some '/' := by simp
  have hassoc : describe (.unsupportedParameterType (ArrayWidth.typeText type width) name) =
      "Unsupported parameter type '" ++
        (ArrayWidth.typeText type width ++ ("' (" ++ name ++ ").")) := by
    have hdef : describe (.unsupportedParameterType (ArrayWidth.typeText type width) name) =
      "Unsupported parameter type '" ++ ArrayWidth.typeText type width ++ "' (" ++ name ++ ")." :=
      rfl
    rw [hdef]
    simp only [List.append_assoc]
  rw [hassoc]
  exact Text.all_laterLines_quoted hp hq hslash (ArrayWidth.typeText_ends ht width)

/-- The reason for a malformed list quotes nothing from the source. -/
theorem isOneLine_describe_malformed (f : ParameterFailure) :
    (describe (ofParameterFailure f)).isOneLine = true := by
  have hproblem : f.fault.message.isOneLine = true := by
    cases f.fault <;> decide
  have hdef : describe (ofParameterFailure f) = "Malformed parameter list: " ++
      ("parameter " ++ Text.ofNat f.position ++ ": " ++ f.fault.message) ++ "." := rfl
  rw [hdef, Text.isOneLine_append, Text.isOneLine_append, Text.isOneLine_append,
    Text.isOneLine_append, Text.isOneLine_append]
  exact ⟨⟨by decide, ⟨⟨by decide, Text.isOneLine_ofNat _⟩, by decide⟩, hproblem⟩, by decide⟩

/-- Of what is quoted in the reason of a refusal only the type can have several lines. -/
theorem laterLines_describe {s : Signature} {reason : SkipReason}
    (htype : ∀ type ∈ s.returnType, type.isOneLine = true)
    (h : reason = .duplicateName ∨ s.RefusedFor reason) :
    reason.describe.laterLines.all Text.isInertLine = true ↔
      ∀ type ∈ reason.type?, ∀ line ∈ type.laterLines, line.isInertLine = true := by
  have hnone : ∀ {r : SkipReason}, r.type? = none → r.describe.isOneLine = true →
      (r.describe.laterLines.all Text.isInertLine = true ↔
        ∀ type ∈ r.type?, ∀ line ∈ type.laterLines, line.isInertLine = true) := by
    intro r hr hone
    rw [Text.laterLines_of_isOneLine hone, hr]
    simp
  rcases h with rfl | hr
  · exact hnone rfl (by decide)
  · cases hr with
    | returnType ht =>
        rw [describe_returnType (htype _ ht)]
        simp [type?]
    | @malformed f => exact hnone rfl (isOneLine_describe_malformed f)
    | @parameterType before after p _ hparse =>
        have hmem : p ∈ before ++ p :: after := by simp
        obtain ⟨hword, hname⟩ := Parameter.isWord_of_mem_parseList hparse hmem
        rw [describe_parameterType (Text.isOneLine_of_isWord hword)
          (Text.isOneLine_of_isWord hname)]
        simp [type?]

end SkipReason

/-- Let a signature of a file be refused. What is written for it consists of blank lines and line
comments, and so has no token, if and only if every line of the quoted type after the first is
blank or a line comment. -/
theorem Render.skip_inert_iff {source : SourceText} {s : Signature}
    (hs : s ∈ source.extract.signatures) {registry : Registry} {reason : SkipReason}
    (h : (s.validate registry).1 = .error reason) :
    (∀ line ∈ (skip s.name s.rawParams reason).sourceLines, line.isInertLine = true) ∧
        Token.ofText (skip s.name s.rawParams reason) = [] ↔
      ∀ type ∈ reason.type?, ∀ line ∈ type.sourceLines.tail, line.isInertLine = true := by
  obtain ⟨hname, htype⟩ := source.isWord_of_mem_signatures hs
  have hlines := SkipReason.laterLines_describe
    (fun type ht => Text.isOneLine_of_isWord (htype type ht)) (Signature.of_validate_eq_error h)
  have hskip := Render.isInert_skip (Text.isOneLine_of_isWord hname) s.rawParams reason
  rw [Token.ofText_eq_nil_iff, ← List.all_eq_true, ← Text.isInert, and_self, hskip]
  exact hlines

def arraySource (width : Text) : SourceText where
  path := ⟨"a.axi".toList⟩
  text := "define_function char[" ++ width ++ "] f() \x7b\x7d"

/-- What is read from `arraySource`, for a trimmed width that closes what it opens. -/
def arraySignature (width : Text) : Signature where
  docComment := none
  returnType := some "char".toList
  returnWidth := some (.sized width)
  name := "f".toList
  rawParams := []
  body := []
  sourceFile := ⟨"a.axi".toList⟩
  start := 0
  stop := 29 + Text.byteSize width
  location := ⟨1, 1⟩

/-- The second line of the width reads as a comment, so the annotation stays inert. -/
theorem Render.skip_inert_commentedWidth :
    let s := arraySignature "/*\n// */ 8".toList
    let reason := SkipReason.unsupportedReturnType "char[/*\n// */ 8]".toList
    s ∈ (arraySource "/*\n// */ 8".toList).extract.signatures ∧
      (s.validate .empty).1 = .error reason ∧
      (∀ line ∈ (skip s.name s.rawParams reason).sourceLines, line.isInertLine = true) ∧
      Token.ofText (skip s.name s.rawParams reason) = [] := by
  intro s reason
  have hs : s ∈ (arraySource "/*\n// */ 8".toList).extract.signatures := by decide
  have hreason : (s.validate .empty).1 = .error reason := by decide
  have htype : ∀ type ∈ reason.type?, ∀ line ∈ type.sourceLines.tail,
      line.isInertLine = true := by decide
  exact ⟨hs, hreason, (Render.skip_inert_iff hs hreason).mpr htype⟩

/-- The second line of this width is code in the dispatcher. -/
theorem Render.skip_not_inert :
    let s := arraySignature "8\n+ 1".toList
    let reason := SkipReason.unsupportedReturnType "char[8\n+ 1]".toList
    s ∈ (arraySource "8\n+ 1".toList).extract.signatures ∧
      (s.validate .empty).1 = .error reason ∧
      "+ 1]'.".toList ∈ (skip s.name s.rawParams reason).sourceLines ∧
      Text.isInertLine "+ 1]'.".toList = false ∧
      Token.ofText (skip s.name s.rawParams reason) ≠ [] := by
  decide

end RpcDispatch
