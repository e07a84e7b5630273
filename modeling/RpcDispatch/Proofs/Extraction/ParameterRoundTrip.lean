import RpcDispatch.Proofs.Extraction.Parameters
import RpcDispatch.Proofs.Extraction.RoundTrip

/-!
# Reading parameter lists inverts writing them

A list of parameters may be written with any white space and comments outside the brackets. Reading
the text gives back the list, whatever the layout.
-/

namespace RpcDispatch

open Token

/-! ## Writing -/

inductive WritesNames : List Text → List Text → Prop
  | nil : WritesNames [] []
  | cons {name gap : Text} {names parts : List Text} : name.isIdentifier = true →
      gap.isGap = true → WritesNames names parts →
      WritesNames (name :: names) (gap :: name :: parts)

/-- The parts in which a width is written. What stands in the brackets has no comma. -/
inductive WritesWidth : Option ArrayWidth → List Text → Prop
  | none : WritesWidth none []
  | some {gap t : Text} : gap.isGap = true → .comma ∉ kinds t →
      WritesWidth (some (ArrayWidth.ofText t)) [gap, ['['], t, [']']]

inductive WritesParameter (p : Parameter) : List Text → Prop
  | mk {names width : List Text} : WritesNames (p.qualifiers ++ [p.type, p.name]) names →
      WritesWidth p.width width → WritesParameter p (names ++ width)

inductive WritesParameters : List Parameter → List Text → Prop
  | nil : WritesParameters [] []
  | single {p : Parameter} {parts : List Text} : WritesParameter p parts →
      WritesParameters [p] parts
  | cons {p q : Parameter} {ps : List Parameter} {parts rest : List Text} {gap : Text} :
      WritesParameter p parts → gap.isGap = true → WritesParameters (q :: ps) rest →
      WritesParameters (p :: q :: ps) (parts ++ gap :: [','] :: rest)

/-- A width text without white space at its ends is written as it is. -/
theorem writesWidth_sized {gap w : Text} (h : gap.isGap = true) (hne : w ≠ [])
    (htrim : Text.trim w = w) (hcomma : .comma ∉ kinds w) :
    WritesWidth (some (.sized w)) [gap, ['['], w, [']']] := by
  have hw : ArrayWidth.ofText w = .sized w := by
    rw [ArrayWidth.ofText, htrim]
    split
    next => exact absurd rfl hne
    next => rfl
  rw [← hw]
  exact .some h hcomma

theorem writesWidth_unsized {gap : Text} (h : gap.isGap = true) :
    WritesWidth (some .unsized) [gap, ['['], [], [']']] := by
  have hw : ArrayWidth.ofText [] = .unsized := rfl
  rw [← hw]
  exact .some h List.not_mem_nil

/-! ## Dropping comments -/

namespace Token

variable {xs : List Token} {close : Token}

theorem absorbComments_cons (h : close.isComment = false) (carry : Text) (ts : List Token) :
    absorbComments carry (close :: ts) =
      { close with gap := carry ++ close.gap } :: absorbComments [] ts := by
  rw [absorbComments, if_neg (by simp [h])]

theorem absorbComments_comments (h : ∀ x ∈ xs, x.isComment = true) (carry : Text)
    (ts : List Token) : ∃ carry', absorbComments carry (xs ++ ts) = absorbComments carry' ts := by
  induction xs generalizing carry with
  | nil => exact ⟨carry, rfl⟩
  | cons x xs ih =>
      rw [List.cons_append, absorbComments, if_pos (h x List.mem_cons_self)]
      exact ih (fun y hy => h y (List.mem_cons_of_mem x hy)) _

/-- The text in front of a token stays when comments become layout. -/
theorem exists_absorbComments (hclose : close.isComment = false) (carry : Text) (xs : List Token)
    (ts : List Token) : ∃ ys close',
      absorbComments carry (xs ++ close :: ts) = ys ++ close' :: absorbComments [] ts ∧
      close'.kind = close.kind ∧ between ys close' = carry ++ between xs close ∧
      ∀ y ∈ ys, y.kind ∈ xs.map kind := by
  induction xs generalizing carry with
  | nil => exact ⟨[], _, absorbComments_cons hclose carry ts, rfl, rfl, by simp⟩
  | cons x xs ih =>
      by_cases hx : x.isComment = true
      · obtain ⟨ys, close', hys, hkind, hbetween, hkinds⟩ := ih (carry ++ x.withGap)
        refine ⟨ys, close', ?_, hkind, ?_, fun y hy => List.mem_cons_of_mem _ (hkinds y hy)⟩
        · rw [List.cons_append, absorbComments, if_pos hx, hys]
        · rw [hbetween, between, between, List.flatMap_cons]
          simp only [List.append_assoc]
      · obtain ⟨ys, close', hys, hkind, hbetween, hkinds⟩ := ih []
        refine ⟨{ x with gap := carry ++ x.gap } :: ys, close', ?_, hkind, ?_, ?_⟩
        · rw [List.cons_append, absorbComments_cons (by simpa using hx), hys]
          rfl
        · rw [between] at hbetween
          rw [between, List.flatMap_cons, List.append_assoc, hbetween]
          simp [between, withGap]
        · rw [List.forall_mem_cons]
          exact ⟨List.mem_cons_self, fun y hy => List.mem_cons_of_mem _ (hkinds y hy)⟩

end Token

/-! ## Reading entries -/

section

variable {t : Text} (ht : t.isGap = true) (carry : Text) (offset : Nat) (gap : Text)
  (rest : List Text)
include ht

theorem absorbComments_identifier {name : Text} (hname : name.isIdentifier = true) :
    ∃ x offset', x.kind = .ident ∧ x.text = name ∧
      absorbComments carry (ofTextsFrom offset gap (t :: name :: rest)) =
        x :: absorbComments [] (ofTextsFrom offset' [] rest) := by
  rw [ofTextsFrom, ofTextsFrom_identifier hname]
  obtain ⟨carry', h⟩ := absorbComments_comments (isComment_of_isGap offset gap ht) carry _
  rw [h, absorbComments_cons rfl]
  exact ⟨_, _, rfl, rfl, rfl⟩

theorem absorbComments_single {c : Char} {kind : TokenKind}
    (hc : Piece.head c [] = (.lexeme kind, 0)) (hk : kind.isComment = false) :
    ∃ x offset', x.kind = kind ∧
      absorbComments carry (ofTextsFrom offset gap (t :: [c] :: rest)) =
        x :: absorbComments [] (ofTextsFrom offset' [] rest) := by
  rw [ofTextsFrom, ofTextsFrom_single hc]
  obtain ⟨carry', h⟩ := absorbComments_comments (isComment_of_isGap offset gap ht) carry _
  rw [h, absorbComments, if_neg (by simp [Token.isComment, hk])]
  exact ⟨_, _, rfl, rfl⟩

end

/-- Whatever stands around the parts, `P` holds of their tokens, comments dropped. -/
def ReadsTo (P : List Token → Prop) (parts : List Text) : Prop :=
  ∀ (carry : Text) (offset : Nat) (gap : Text) (rest : List Text), ∃ read carry' offset' gap',
    P read ∧ absorbComments carry (ofTextsFrom offset gap (parts ++ rest)) =
      read ++ absorbComments carry' (ofTextsFrom offset' gap' rest)

theorem ReadsTo.append {P Q : List Token → Prop} {front back : List Text}
    (hfront : ReadsTo P front) (hback : ReadsTo Q back) :
    ReadsTo (fun read => ∃ x y, read = x ++ y ∧ P x ∧ Q y) (front ++ back) := by
  intro carry offset gap rest
  obtain ⟨x, carry₁, o₁, gap₁, hx, hreadx⟩ := hfront carry offset gap (back ++ rest)
  obtain ⟨y, carry₂, o₂, gap₂, hy, hready⟩ := hback carry₁ o₁ gap₁ rest
  refine ⟨x ++ y, carry₂, o₂, gap₂, ⟨x, y, rfl, hx, hy⟩, ?_⟩
  rw [List.append_assoc, hreadx, hready, List.append_assoc]

theorem WritesNames.readsTo {names parts : List Text} (h : WritesNames names parts) :
    ReadsTo (fun read => read.map (·.text) = names ∧ ∀ x ∈ read, x.kind = .ident) parts := by
  induction h with
  | nil => exact fun carry offset gap rest => ⟨[], carry, offset, gap, by simp, rfl⟩
  | cons hname hgap _ ih =>
      intro carry offset gap rest
      rw [List.cons_append, List.cons_append]
      obtain ⟨x, o, hkind, rfl, hx⟩ := absorbComments_identifier hgap carry offset gap _ hname
      obtain ⟨read, carry', o', g, ⟨htexts, hkinds⟩, hread⟩ := ih [] o [] rest
      rw [hx, hread]
      exact ⟨x :: read, carry', o', g,
        ⟨congrArg _ htexts, List.forall_mem_cons.mpr ⟨hkind, hkinds⟩⟩, rfl⟩

/-- The text between the brackets, which may hold comments, is read as it is written. -/
theorem WritesWidth.readsTo {width : Option ArrayWidth} {parts : List Text}
    (h : WritesWidth width parts) :
    ReadsTo (fun read => Parameter.readWidth read = .ok width ∧
      (∀ x ∈ read.head?, x.kind ≠ .ident) ∧ ∀ x ∈ read, x.kind ≠ .comma) parts := by
  intro carry offset gap rest
  cases h with
  | none => exact ⟨[], carry, offset, gap, ⟨rfl, by simp, by simp⟩, rfl⟩
  | @some before t hgap hcomma =>
      simp only [List.cons_append, List.nil_append]
      obtain ⟨first, o, hfirst, hread⟩ := absorbComments_single hgap carry offset gap
        (t :: [']'] :: rest) (show Piece.head '[' [] = (.lexeme .leftBracket, 0) from rfl) rfl
      rw [hread, ofTextsFrom,
        ofTextsFrom_single (show Piece.head ']' [] = (.lexeme .rightBracket, 0) from rfl)]
      obtain ⟨inner, last, hinner, hlast, hbetween, hkinds⟩ := exists_absorbComments
        (show Token.isComment ⟨.rightBracket, layoutAfter [] t, [']'], o + Text.byteSize t⟩ = false
          from rfl) [] (ofTextFrom o [] t)
        (ofTextsFrom (o + Text.byteSize t + ']'.utf8Size) [] rest)
      rw [hinner]
      refine ⟨first :: (inner ++ [last]), [], _, [], ⟨?_, ?_, ?_⟩,
        by rw [List.cons_append, List.append_assoc, List.singleton_append]⟩
      · rw [Parameter.readWidth, List.getLast?_concat]
        dsimp only
        rw [if_pos ⟨hfirst, hlast⟩, List.dropLast_concat, hbetween, List.nil_append, between,
          between_ofTextFrom, List.nil_append]
      · simp [hfirst]
      · intro x hx hk
        rcases List.mem_cons.mp hx with rfl | hx
        · simp [hfirst] at hk
        rcases List.mem_append.mp hx with hx | hx
        · apply hcomma
          rw [← hk, ← map_kind_ofTextFrom o []]
          exact hkinds x hx
        · obtain rfl := List.mem_singleton.mp hx
          simp [hlast] at hk

/-- No comma stands in a written parameter, so it is one entry. -/
theorem WritesParameter.readsTo {p : Parameter} {parts : List Text} (h : WritesParameter p parts) :
    ReadsTo (fun read => Parameter.readEntry read = .ok p ∧ ∀ x ∈ read, x.kind ≠ .comma)
      parts := by
  obtain ⟨hnames, hwidth⟩ := h
  intro carry offset gap rest
  obtain ⟨read, carry', o, g, ⟨x, y, rfl, ⟨htexts, hidents⟩, hread, hhead, hcommas⟩, heq⟩ :=
    hnames.readsTo.append hwidth.readsTo carry offset gap rest
  refine ⟨x ++ y, carry', o, g, ⟨?_, ?_⟩, heq⟩
  · have hx : ∀ t ∈ x, Parameter.isName t = true := fun t ht => decide_eq_true (hidents t ht)
    have hy : y.takeWhile Parameter.isName = [] ∧ y.dropWhile Parameter.isName = y := by
      cases y with
      | nil => exact ⟨rfl, rfl⟩
      | cons t y =>
          have ht : Parameter.isName t = false := decide_eq_false (hhead t rfl)
          simp [ht]
    obtain ⟨qualifiers, last, rfl, hqualifiers, hlast⟩ := List.map_eq_append_iff.mp htexts
    obtain ⟨type, more, rfl, htype, hmore⟩ := List.map_eq_cons_iff.mp hlast
    obtain ⟨name, rfl, hname⟩ := List.map_eq_singleton_iff.mp hmore
    refine Parameter.readEntry_eq_ok.mpr ⟨qualifiers, type, name, ?_, p.width, ?_, ?_⟩
    · rw [List.takeWhile_append_of_pos hx, hy.1, List.append_nil]
    · rw [List.dropWhile_append_of_pos hx, hy.2, hread]
    · rw [hqualifiers, htype, hname]
  · intro t ht
    rcases List.mem_append.mp ht with ht | ht
    · simp [hidents t ht]
    · exact hcommas t ht

namespace Parameter

section

variable {front back : List Token}

theorem splitEntries_eq_singleton (h : ∀ x ∈ front, x.kind ≠ .comma) :
    splitEntries front = [front] := by
  induction front with
  | nil => rfl
  | cons x front ih =>
      rw [List.forall_mem_cons] at h
      rw [splitEntries, if_neg h.1, ih h.2]

theorem splitEntries_append_cons {comma : Token} (h : ∀ x ∈ front, x.kind ≠ .comma)
    (hcomma : comma.kind = .comma) :
    splitEntries (front ++ comma :: back) = front :: splitEntries back := by
  induction front with
  | nil => rw [List.nil_append, splitEntries, if_pos hcomma]
  | cons x front ih =>
      rw [List.forall_mem_cons] at h
      rw [List.cons_append, splitEntries, if_neg h.1, ih h.2]

end

theorem absorbComments_trail {trail : Text} (ht : trail.isGap = true) (carry : Text)
    (offset : Nat) (gap : Text) :
    absorbComments carry (ofTextsFrom offset gap [trail]) = [] := by
  rw [ofTextsFrom]
  obtain ⟨carry', h⟩ := absorbComments_comments (isComment_of_isGap offset gap ht) carry []
  exact h

/-- A gap behind the last parameter makes no entry of its own. -/
theorem readEntries_written {ps : List Parameter} {parts : List Text}
    (hw : WritesParameters ps parts) (hne : ps ≠ []) {trail : Text} (ht : trail.isGap = true)
    (carry : Text) (offset : Nat) (gap : Text) (position : Nat) :
    readEntries position (splitEntries (absorbComments carry
      (ofTextsFrom offset gap (parts ++ [trail])))) = .ok ps := by
  induction hw generalizing carry offset gap position with
  | nil => exact absurd rfl hne
  | single hp =>
      obtain ⟨entry, carry', o, g, ⟨hread, hcommas⟩, heq⟩ := hp.readsTo carry offset gap [trail]
      rw [heq, absorbComments_trail ht, List.append_nil, splitEntries_eq_singleton hcommas,
        readEntries, hread]
      rfl
  | @cons p q ps parts rest between hp hgap _ ih =>
      obtain ⟨entry, carry', o, g, ⟨hread, hcommas⟩, heq⟩ := hp.readsTo carry offset gap
        (between :: [','] :: (rest ++ [trail]))
      obtain ⟨comma, o', hcomma, hrest⟩ := absorbComments_single hgap carry' o g (rest ++ [trail])
        (show Piece.head ',' [] = (.lexeme .comma, 0) from rfl) rfl
      have hreads := ih (List.cons_ne_nil q ps) [] o' [] (position + 1)
      rw [List.append_assoc, List.cons_append, List.cons_append, heq, hrest,
        splitEntries_append_cons hcommas hcomma, readEntries, hread]
      simp only [hreads]
      rfl

/-- A written list is read back, whatever the layout. White space and comments may follow it, and
the last of them may be a line comment without a line end. -/
theorem parseList_written {ps : List Parameter} {parts : List Text} {trail : Text}
    (hw : WritesParameters ps parts) (ht : trail.isGap = true)
    (hj : Text.areJoinedTo trail parts = true) : parseList (parts.flatten ++ trail) = .ok ps := by
  rw [parseList, ofText_eq, ofTextFrom_flatten_append hj]
  by_cases hne : ps = []
  · subst hne
    cases hw
    rw [List.nil_append, absorbComments_trail ht]
  · have hread := readEntries_written hw hne ht [] 0 [] 1
    split
    next hnil =>
      rw [hnil] at hread
      cases hread
    next => exact hread

def labelParameters : List Parameter :=
  [⟨["CONSTANT".toList], "char".toList, "label".toList, some (.sized "MAX[1] /* , */ + 1".toList)⟩,
    ⟨[], "integer".toList, "ids".toList, some .unsized⟩, ⟨[], "dev".toList, "panel".toList, none⟩]

def labelParameterParts : List Text :=
  ["(* the label *)\n".toList, "CONSTANT".toList, " ".toList, "char".toList, "\t".toList,
      "label".toList] ++ [[], ['['], "MAX[1] /* , */ + 1".toList, [']']] ++
    "// one\n".toList :: [','] ::
  ([[], "integer".toList, "/**/".toList, "ids".toList] ++ [" ".toList, ['['], [], [']']] ++
    [] :: [','] ::
  (["\n".toList, "dev".toList, " ".toList, "panel".toList] ++ []))

theorem writes_labelParameterParts : WritesParameters labelParameters labelParameterParts := by
  refine .cons
    (.mk (.cons ?_ ?_ (.cons ?_ ?_ (.cons ?_ ?_ .nil))) (writesWidth_sized ?_ ?_ ?_ ?_)) ?_
    (.cons (.mk (.cons ?_ ?_ (.cons ?_ ?_ .nil)) (writesWidth_unsized ?_)) ?_
      (.single (.mk (.cons ?_ ?_ (.cons ?_ ?_ .nil)) .none)))
  all_goals decide

/-- A qualifier, a width with a comment in it, an empty width, and a line comment at the end. -/
theorem parseList_labelParameterParts :
    WritesParameters labelParameters labelParameterParts ∧
      Text.isGap "// last".toList = true ∧
      Text.areJoinedTo "// last".toList labelParameterParts = true ∧
      parseList (labelParameterParts.flatten ++ "// last".toList) = .ok labelParameters :=
  ⟨writes_labelParameterParts, by decide, by decide,
    parseList_written writes_labelParameterParts (by decide) (by decide)⟩

end Parameter

end RpcDispatch
