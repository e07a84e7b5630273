import RpcDispatch.Proofs.Extraction.Reading
import RpcDispatch.Proofs.Lexing.Joining

/-!
# Writing definitions out

A draft is a definition that is still to be written. Writing one fixes the letter case of the
keyword and what stands between the tokens; a file also holds other text between its definitions.
-/

namespace RpcDispatch

namespace Text

def isIdentifier : Text → Bool
  | [] => false
  | c :: t => Piece.isWordStart c && t.all Piece.isWordPart && foldCase (c :: t) != Piece.keyword

/-- A block comment: the first closing mark behind its opening mark ends it. -/
def isBlockComment : Text → Bool
  | '/' :: '*' :: inner => Piece.closing? '*' '/' inner == some inner.length
  | '(' :: '*' :: inner => Piece.closing? '*' ')' inner == some inner.length
  | _ => false

/-- Nothing but white space, line comments and block comments. -/
def isGap (t : Text) : Bool := (Token.kinds t).all TokenKind.isComment

/-- Nothing but white space and line comments. -/
def isLayout (t : Text) : Bool := (Token.kinds t).isEmpty

end Text

/-- Whether the tokens of a text close each bracket of one kind that they open, and no other. -/
def Text.isBalanced (opener closer : TokenKind) (t : Text) : Bool :=
  depthAfter? opener closer 0 (Token.kinds t) == some 0

structure ReturnDraft where
  type : Text
  width : Option Text
  type_isIdentifier : type.isIdentifier = true
  width_isBalanced : ∀ w ∈ width, w.isBalanced .leftBracket .rightBracket = true

structure Draft where
  doc : Option Text
  returns : Option ReturnDraft
  name : Text
  params : Text
  body : Text
  doc_isBlockComment : ∀ c ∈ doc, c.isBlockComment = true
  name_isIdentifier : name.isIdentifier = true
  params_isBalanced : params.isBalanced .leftParen .rightParen = true
  body_isBalanced : body.isBalanced .leftBrace .rightBrace = true

/-- The parts in which a doc comment is written: white space and line comments may follow. -/
inductive WritesDoc : Option Text → List Text → Prop
  | none : WritesDoc none []
  | some {c layout : Text} : layout.isLayout = true → WritesDoc (some c) [c, layout]

inductive WritesReturn : Option ReturnDraft → List Text → Prop
  | none : WritesReturn none []
  | scalar {r : ReturnDraft} {gap : Text} : r.width = none → gap.isGap = true →
      WritesReturn (some r) [r.type, gap]
  | array {r : ReturnDraft} {w gap₁ gap₂ : Text} : r.width = some w → gap₁.isGap = true →
      gap₂.isGap = true → WritesReturn (some r) [r.type, gap₁, ['['], w, [']'], gap₂]

inductive WritesDraft (d : Draft) : List Text → Prop
  | mk {doc returns : List Text} {keyword gap₀ gap₁ gap₂ : Text} : WritesDoc d.doc doc →
      keyword.foldCase = Piece.keyword → gap₀.isGap = true → WritesReturn d.returns returns →
      gap₁.isGap = true → gap₂.isGap = true →
      WritesDraft d (doc ++ keyword :: gap₀ :: (returns ++
        [d.name, gap₁, ['('], d.params, [')'], gap₂, ['\x7b'], d.body, ['\x7d']]))

/-- The parts of a file that holds these definitions, with other text around them. A block comment
that ends such a text belongs to the definition behind it. -/
inductive Writes : List Draft → List Text → Prop
  | nil {other : Text} : .defineFunction ∉ Token.kinds other → Writes [] [other]
  | cons {d : Draft} {ds : List Draft} {other : Text} {parts rest : List Text} :
      .defineFunction ∉ Token.kinds other →
      (d.doc = none → ∀ k ∈ (Token.kinds other).getLast?, k.isComment = false) →
      WritesDraft d parts → Writes ds rest → Writes (d :: ds) (other :: (parts ++ rest))

structure Captures (path : Path) (d : Draft) (s : Signature) : Prop where
  docComment : s.docComment = d.doc
  returnType : s.returnType = d.returns.map (·.type)
  returnWidth : s.returnWidth = (d.returns.bind (·.width)).map ArrayWidth.ofText
  name : s.name = d.name
  rawParams : s.rawParams = d.params.trim
  body : s.body = d.body
  sourceFile : s.sourceFile = path

/-! ## The tokens of a part -/

namespace Token

variable {t : Text} (offset : Nat) (gap : Text)

/-- A word is one token. -/
theorem ofTextFrom_word {c : Char} (hc : Piece.isWordStart c = true)
    (ht : ∀ d ∈ t, Piece.isWordPart d = true) :
    ofTextFrom offset gap (c :: t) = [⟨Piece.wordKind (c :: t), gap, c :: t, offset⟩] ∧
      layoutAfter gap (c :: t) = [] := by
  have hrun : Piece.run Piece.isWordPart t = t.length := Piece.run_eq_length_iff.mpr ht
  have htake : t.takeWhile Piece.isWordPart = t := by rw [← Piece.take_run, hrun, List.take_length]
  have hhead : Piece.head c t = (.lexeme (Piece.wordKind (c :: t)), t.length) := by
    have h := (Piece.Head.word (t := t) hc).head_eq
    rwa [htake, hrun] at h
  rw [ofTextFrom_lexeme hhead, layoutAfter_lexeme hhead]
  simp

theorem ofTextFrom_identifier (h : t.isIdentifier = true) :
    ofTextFrom offset gap t = [⟨.ident, gap, t, offset⟩] ∧ layoutAfter gap t = [] := by
  cases t with
  | nil => simp [Text.isIdentifier] at h
  | cons c t =>
      simp only [Text.isIdentifier, Bool.and_eq_true, List.all_eq_true, bne_iff_ne] at h
      have hw := ofTextFrom_word offset gap h.1.1 h.1.2
      rwa [Piece.wordKind, if_neg h.2] at hw

theorem ofTextFrom_keyword (h : t.foldCase = Piece.keyword) :
    ofTextFrom offset gap t = [⟨.defineFunction, gap, t, offset⟩] ∧ layoutAfter gap t = [] := by
  have hne : t ≠ [] := by
    intro ht
    rw [ht] at h
    exact absurd h (by decide)
  obtain ⟨c, u, rfl⟩ := List.exists_cons_of_ne_nil hne
  have hstart : ∀ d ∈ c :: u, Piece.isWordStart d = true := fun d hd =>
    Piece.isWordStart_of_mem_keyword h hd
  have hw := ofTextFrom_word offset gap (hstart c List.mem_cons_self) fun d hd =>
    Piece.isWordPart_of_isWordStart (hstart d (List.mem_cons_of_mem c hd))
  rwa [Piece.wordKind, if_pos h] at hw

theorem ofTextFrom_blockComment (h : t.isBlockComment = true) :
    ∃ kind, kind.isComment = true ∧ ofTextFrom offset gap t = [⟨kind, gap, t, offset⟩] ∧
      layoutAfter gap t = [] := by
  unfold Text.isBlockComment at h
  split at h
  next inner =>
    have hhead := (Piece.Head.slashComment inner _ rfl rfl (beq_iff_eq.mp h)).head_eq
    refine ⟨.slashComment, rfl, ?_⟩
    rw [ofTextFrom_lexeme hhead, layoutAfter_lexeme hhead]
    simp
  next inner =>
    have hhead := (Piece.Head.parenComment inner _ rfl rfl (beq_iff_eq.mp h)).head_eq
    refine ⟨.parenComment, rfl, ?_⟩
    rw [ofTextFrom_lexeme hhead, layoutAfter_lexeme hhead]
    simp
  next => simp at h

/-- Line comments are no tokens, so the tokens of a gap are block comments. -/
theorem isComment_of_isGap (h : t.isGap = true) : ∀ x ∈ ofTextFrom offset gap t,
    x.isComment = true := by
  intro x hx
  rw [Text.isGap, List.all_eq_true] at h
  exact h x.kind (mem_kinds hx)

theorem ofTextFrom_layoutOnly (h : t.isLayout = true) : ofTextFrom offset gap t = [] := by
  rw [Text.isLayout, List.isEmpty_iff, ← map_kind_ofTextFrom offset gap] at h
  exact List.map_eq_nil_iff.mp h

end Token

end RpcDispatch
