import RpcDispatch.Proofs.Dispatch.Annotation
import RpcDispatch.Proofs.Dispatch.Characters
import RpcDispatch.Proofs.Extraction.Nesting

/-!
# The parts of the dispatcher, as the lexer sees them

The audit and the paths of the files stand in block comments, what is said of a refused signature in
line comments. What is left are the frame and the branches.
-/

namespace RpcDispatch

open Text

namespace Render

variable {n : Nat} {t : Text} {ps : List (TokenKind × Text)}

/-! ## Lines -/

theorem leads_indent (n : Nat) : Leads (List.replicate n ' ') [] := by
  refine leads_blanks (List.all_eq_true.mpr fun c hc => ?_)
  rw [List.eq_of_mem_replicate hc]
  rfl

theorem leads_line (h : Leads (t ++ "\n") ps) : Leads (line n t) ps := by
  rw [line, List.append_assoc]
  exact (leads_indent n).append h

/-- A line that is written as it stands. -/
theorem leads_fixedLine {l : List Char} (h : isBlock (l ++ ['\n']) = true) :
    Leads (line n (String.ofList l).toList) (code (l ++ ['\n'])) := by
  rw [String.toList_ofList]
  exact leads_line (leads_of_isBlock h)

theorem leads_emptyLine : Leads (line n []) [] := leads_line (leads_blanks (by decide))

theorem leads_lines {ts : List Text} (h : ∀ t ∈ ts, Leads (line 0 t) []) : Leads (lines ts) [] := by
  have hlines := Leads.flatMap (g := fun _ => []) h
  rwa [List.flatMap_eq_nil_iff.mpr fun _ _ => rfl] at hlines

theorem keepsOpen_line (h : KeepsOpen t) : KeepsOpen (line n t) := by
  have hblanks : '*' ∉ List.replicate n ' ' := by simp
  have hfront := (keepsOpen_of_notMem hblanks).append h
    (.inl fun hlast => hblanks (List.mem_of_getLast? hlast))
  exact hfront.append (keepsOpen_of_notMem (by decide)) (.inr (by decide))

theorem keepsOpen_lines {ts : List Text} (h : ∀ t ∈ ts, KeepsOpen t) : KeepsOpen (lines ts) := by
  induction ts with
  | nil => exact keepsOpen_of_notMem (by decide)
  | cons t ts ih =>
      rw [List.forall_mem_cons] at h
      refine (keepsOpen_line h.1).append (ih h.2) (.inl ?_)
      simp [line]

/-! ## The frame -/

def warning : Text :=
  lines
    ["(***********************************************************)",
     "(*                         WARNING                         *)",
     "(***********************************************************)",
     "(*  This file is automatically generated.                  *)",
     "(***********************************************************)",
     ""]

def auditLines (a : Audit) : List Text :=
  ([[], "Included Files:", "---------------"] : List Text) ++ a.included ++
    (["", "", "Excluded Files:", "---------------"] : List Text) ++ a.excluded ++ ([""] : List Text)

/-- The frame from there to the first statement of the handler. -/
def opening (s : DispatchSettings) : Text :=
  lines
    [[],
     "",
     "",
     "#if_not_defined " ++ s.guard,
     "#define " ++ s.guard ++ " 1",
     "",
     "DEFINE_EVENT",
     "",
     "data_event[" ++ s.device ++ "]",
     "\x7b"] ++
  line 4 "string:" ++
  line 4 "\x7b" ++
  line outer ("char " ++ functionName ++ "[255];") ++
  line outer (functionName ++ " = rpc_function_name(" ++ message ++ ");") ++
  line outer []

/-- The audit stands in one block comment, in front of the first line of code. -/
theorem header_eq (s : DispatchSettings) (a : Audit) :
    header s a = warning ++ ("/*" ++ lines (auditLines a) ++ "*/") ++ opening s := by
  simp only [header, warning, auditLines, opening, lines, List.flatMap_append, List.flatMap_cons,
    List.flatMap_nil, List.append_assoc, line, List.replicate_zero, List.nil_append,
    List.append_nil]

theorem leads_warning : Leads warning [] := by
  have hline {l : List Char} (h : isBlock (l ++ ['\n']) = true) (hcode : code (l ++ ['\n']) = []) :
      Leads (line 0 (String.ofList l).toList) [] := hcode ▸ leads_fixedLine h
  refine leads_lines ?_
  simp only [List.forall_mem_cons]
  and_intros
  all_goals first
    | exact hline (by decide) (by decide)
    | exact List.forall_mem_nil _

/-- The paths of the audit are in a comment, so the code of the header is the same for all. -/
theorem leads_header {a : Audit} (h : ∀ path ∈ a.included ++ a.excluded, KeepsOpen path) :
    Leads (header {} a) (opening {}).code := by
  have haudit : ∀ t ∈ auditLines a, KeepsOpen t := by
    rw [List.forall_mem_append] at h
    simp only [auditLines, List.forall_mem_append, List.forall_mem_cons]
    and_intros
    all_goals first
      | exact keepsOpen_of_notMem (by decide)
      | exact h.1
      | exact h.2
      | exact List.forall_mem_nil _
  have hopening : (opening {}).isBlock = true := by decide
  rw [header_eq]
  exact (leads_warning.append (leads_blockComment (keepsOpen_lines haudit))).append
    (leads_of_isBlock hopening)

theorem leads_footer : Leads footer footer.code := leads_of_isBlock (by decide)

/-- What the opening leaves open the footer closes. -/
theorem isNeutral_frame :
    TokenKind.IsNeutral ((opening {}).code.map Prod.fst ++ footer.code.map Prod.fst) := by
  decide

/-- A comment of three lines. -/
theorem leads_commentLines {l m : List Char} (hl : l.take 2 = ['/', '*']) (hl' : '*' ∉ l.drop 2)
    (hm : m.drop (m.length - 2) = ['*', '/']) (hm' : '*' ∉ m.take (m.length - 2))
    (ht : KeepsOpen t) (k : Nat) :
    Leads (line n (String.ofList l).toList ++ line k t ++ line n (String.ofList m).toList ++
      line 0 []) [] := by
  rw [String.toList_ofList, String.toList_ofList, ← List.take_append_drop 2 l, hl,
    ← List.take_append_drop (m.length - 2) m, hm]
  have hblanks : '*' ∉ List.replicate n ' ' := by simp
  have hlast : KeepsOpen (List.replicate n ' ' ++ m.take (m.length - 2)) :=
    keepsOpen_of_notMem (List.not_mem_append hblanks hm')
  have hinner : KeepsOpen (l.drop 2 ++ (['\n'] ++ (line k t ++
      (List.replicate n ' ' ++ m.take (m.length - 2))))) := by
    refine (keepsOpen_of_notMem hl').append ?_ (.inr (by simp))
    refine (keepsOpen_of_notMem (by decide)).append ?_ (.inl (by decide))
    exact (keepsOpen_line ht).append hlast (.inl (by simp [line]))
  have hcomment := (leads_indent n).append
    ((leads_blockComment hinner).append (leads_blanks (t := ['\n', '\n']) (by decide)))
  have hopen : ("/*" : Text) = ['/', '*'] := rfl
  have hclose : ("*/" : Text) = ['*', '/'] := rfl
  rw [hopen, hclose] at hcomment
  simpa [line] using hcomment

/-- A path that does not hold `*/` cannot end the comment around it. -/
theorem leads_banner {path : Text} (h : KeepsOpen path) : Leads (banner path) [] := by
  have hpath : KeepsOpen ("FILE: '" ++ path ++ "'") := by
    have hfront : '*' ∉ ("FILE: '" : Text) := by decide
    refine ((keepsOpen_of_notMem hfront).append h (.inl ?_)).append
      (keepsOpen_of_notMem (by decide)) (.inr (by decide))
    exact fun hlast => hfront (List.mem_of_getLast? hlast)
  exact leads_commentLines (by decide) (by decide) (by decide)
    (by decide) hpath _

/-! ## Refused signatures -/

theorem leads_commentLine (h : t.isOneLine = true) : Leads (line n ("// " ++ t)) [] := by
  have hblank : isOneLine (' ' :: t) = true := by simpa [isOneLine, Piece.isLineEnd] using h
  exact leads_line (leads_lineComment hblank)

/-- What a skip quotes stays behind its comment marks as long as it has no line end. -/
theorem leads_skip {name rawParams : Text} (hname : name.isOneLine = true) {reason : SkipReason}
    (hreason : reason.describe.isOneLine = true) : Leads (skip name rawParams reason) [] := by
  have hquoted : isOneLine (name ++ "(" ++ collapse rawParams ++ ")") = true := by
    simp only [isOneLine_append]
    exact ⟨⟨⟨hname, by decide⟩, isOneLine_collapse rawParams⟩, by decide⟩
  have hskipped : Leads (line outer "// Skipped:") [] :=
    leads_commentLine (t := "Skipped:") (by decide)
  have hcall := leads_commentLine (n := outer) hquoted
  simp only [← List.append_assoc] at hcall
  exact (((leads_commentLine hreason).append hskipped).append hcall).append leads_emptyLine

end Render

/-! ## Entries -/

/-- The widths that are declared: of the return value, and of the parameters if they can be read. -/
def Signature.widths (s : Signature) : List ArrayWidth :=
  s.returnWidth.toList ++
    ((Parameter.parseList s.rawParams).toOption.getD []).filterMap (·.width)

theorem ArrayWidth.isOneLine_typeText {type : Text} (ht : type.isOneLine = true)
    {width : Option ArrayWidth} (hwidth : ∀ w ∈ width, w.text.isOneLine = true) :
    (typeText type width).isOneLine = true := by
  cases width with
  | none => exact ht
  | some w => exact isOneLine_append.mpr ⟨ht, hwidth w rfl⟩

/-- A reason quotes the source, but of that only a width can have several lines. -/
theorem Signature.RefusedFor.isOneLine_describe {s : Signature} {reason : SkipReason}
    (h : s.RefusedFor reason) (htype : ∀ type ∈ s.returnType, type.isOneLine = true)
    (hwidths : ∀ w ∈ s.widths, w.text.isOneLine = true) : reason.describe.isOneLine = true := by
  simp only [widths, List.forall_mem_append] at hwidths
  cases h with
  | @returnType type ht =>
      have hdef : SkipReason.describe (.unsupportedReturnType
          (ArrayWidth.typeText type s.returnWidth)) =
        "Unsupported return type '" ++ ArrayWidth.typeText type s.returnWidth ++ "'." := rfl
      rw [hdef, isOneLine_append, isOneLine_append]
      exact ⟨⟨by decide, ArrayWidth.isOneLine_typeText (htype type ht) (by simpa using hwidths.1)⟩,
        by decide⟩
  | @malformed f => exact SkipReason.isOneLine_describe_malformed f
  | @parameterType before after p _ hparse =>
      have hmem : p ∈ before ++ p :: after := by simp
      obtain ⟨hp, hname⟩ := Parameter.isWord_of_mem_parseList hparse hmem
      have hwidth : ∀ w ∈ p.width, w.text.isOneLine = true := by
        intro w hw
        apply hwidths.2
        rw [hparse]
        exact List.mem_filterMap.mpr ⟨p, hmem, hw⟩
      have hdef : SkipReason.describe (.unsupportedParameterType
          (ArrayWidth.typeText p.type p.width) p.name) =
        "Unsupported parameter type '" ++ ArrayWidth.typeText p.type p.width ++ "' (" ++ p.name ++
          ")." := rfl
      rw [hdef]
      simp only [isOneLine_append]
      exact ⟨⟨⟨⟨by decide, ArrayWidth.isOneLine_typeText (isOneLine_of_isWord hp) hwidth⟩,
        by decide⟩, isOneLine_of_isWord hname⟩, by decide⟩

end RpcDispatch
