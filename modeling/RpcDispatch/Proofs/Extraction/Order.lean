import RpcDispatch.Proofs.Extraction.Enclosed
import RpcDispatch.Proofs.Extraction.Offsets
import RpcDispatch.Proofs.Extraction.Visits

/-!
# The order of what is extracted

Keywords are visited in the order of the text, and a signature is located at its keyword. A
diagnostic is located where reading failed, and behind brackets that were read this can be further
on than another keyword. The failure at that one comes later in the list, and shows in front of the
first unless brackets of its own reach over it.
-/

namespace RpcDispatch

open Token

/-! ## The order of tokens -/

def Ascends (ts : List Token) : Prop := ts.Pairwise fun x y => x.start < y.start

namespace Ascends

variable {xs ys : List Token} {x y : Token}

theorem ofText (t : Text) : Ascends (ofText t) := by
  refine (pairwise_ofTextFrom 0 [] t).imp_of_mem fun {x y} hx _ hle => lt_of_lt_of_le ?_ hle
  obtain ⟨before, behind, hsplit⟩ := List.append_of_mem hx
  obtain ⟨_, _, hs⟩ := exists_splits hsplit
  obtain ⟨c, w, htext, -⟩ := hs.lexeme
  have hpos := c.utf8Size_pos
  rw [stop, htext, Text.byteSize_cons]
  omega

theorem behind (h : Ascends (xs ++ ys)) : Ascends ys := (List.pairwise_append.mp h).2.1

theorem tail (h : Ascends (x :: ys)) : Ascends ys := (List.pairwise_cons.mp h).2

theorem lt_head (h : Ascends (xs ++ x :: ys)) (hy : y ∈ xs) : y.start < x.start :=
  (List.pairwise_append.mp h).2.2 y hy x List.mem_cons_self

theorem head_lt (h : Ascends (x :: ys)) (hy : y ∈ ys) : x.start < y.start :=
  (List.pairwise_cons.mp h).1 y hy

theorem head_le (h : Ascends (x :: ys)) (hy : y ∈ x :: ys) : x.start ≤ y.start := by
  rcases List.mem_cons.mp hy with rfl | hy
  · exact le_refl _
  · exact (h.head_lt hy).le

/-- A token stands at one place only. -/
theorem behind_eq {xs' ys' : List Token} (h : Ascends (xs ++ x :: ys))
    (heq : xs ++ x :: ys = xs' ++ x :: ys') : ys = ys' := by
  have hfront : x ∉ xs := fun hx => (h.lt_head hx).ne rfl
  have hbehind : x ∉ ys := fun hx => (h.behind.head_lt hx).ne rfl
  exact ((List.append_cons_inj_of_notMem hfront hbehind).mp heq).2.2

end Ascends

/-- Locations are in the order of the tokens. -/
theorem SourceText.rank_locate_lt_iff {s : SourceText} {x y : Token} (hx : x ∈ ofText s.text)
    (hy : y ∈ ofText s.text) : (s.locate x).rank < (s.locate y).rank ↔ x.start < y.start := by
  have hboundary {z : Token} (hz : z ∈ ofText s.text) : Text.IsBoundary s.text z.start := by
    obtain ⟨u, v, htext, hstart⟩ := exists_append_of_mem hz
    exact ⟨u, v, htext, hstart.symm⟩
  exact (Location.strictMonoOn_rank_locate s.text).lt_iff_lt (hboundary hx) (hboundary hy)

/-! ## Two failures -/

section

variable {keyword later x : Token} {ts before rest : List Token} {f e : DefinitionFailure}

/-- A failure is reported at the keyword or further on. -/
theorem Fails.place_mem (h : Fails keyword ts f) : f.place ∈ keyword :: ts := by
  rcases h.reaches_place with hplace | ⟨rest, before, hts, -⟩
  · exact hplace ▸ List.mem_cons_self
  · simp [hts]

theorem Passes.exists_front {b : HeadBrackets} {g : Group} (h : Passes ts b g) :
    ∃ front, ts = front ++ (g.inner ++ g.close :: g.rest) ∧ g.close.kind = b.closer ∧
      depthAfter? b.opener b.closer 0 (g.inner.map kind) = some 0 := by
  obtain ⟨inside, ⟨front, hts, -⟩, hread⟩ := h.exists_inside
  obtain ⟨rfl, hclose, hdepth⟩ := (Group.read?_eq_some (b.opener_ne_closer b)).mp hread
  exact ⟨front, hts, hclose, hdepth⟩

theorem Passes.lt_place {b : HeadBrackets} {g : Group} (hp : Passes ts b g) (hts : Ascends ts)
    (hx : x ∈ g.inner) (h : Definition.read keyword ts = .error f) : x.start < f.place.start := by
  obtain ⟨front, rfl, -, -⟩ := hp.exists_front
  have hplace : f.place ∈ g.close :: g.rest := by
    rcases hp.exists_place h with hclose | ⟨front, behind, hrest, -⟩
    · exact hclose ▸ List.mem_cons_self
    · simp [hrest]
  exact (List.pairwise_append.mp hts.behind).2.2 x hx f.place hplace

/-- What stands in brackets stands in front of the token where the failure shows. -/
theorem StandsWithin.lt_place (hx : StandsWithin ts x) (hts : Ascends ts)
    (h : Definition.read keyword ts = .error f) : x.start < f.place.start := by
  obtain ⟨b, g, hp, hx⟩ := hx
  exact hp.lt_place hts hx h

/-- A keyword in front of the token where a failure shows stands in brackets. -/
theorem Fails.standsWithin_of_lt (h : Fails keyword ts f) (hts : Ascends (keyword :: ts))
    (hx : x ∈ ts) (hk : x.kind = .defineFunction) (hlt : x.start < f.place.start) :
    StandsWithin ts x := by
  rcases h.reaches_place with hplace | ⟨rest, before, rfl, hbefore⟩
  · have hbehind := hts.head_lt hx
    rw [hplace] at hlt
    omega
  · rcases List.mem_append.mp hx with hx | hx
    · exact hbefore x hx hk
    · have hle := hts.tail.behind.head_le hx
      omega

/-- A failure at a keyword in brackets shows inside them, if no brackets of its own reach over the
token where the one around it shows. -/
theorem StandsWithin.place_lt (hx : StandsWithin (before ++ later :: rest) later)
    (hts : Ascends (before ++ later :: rest))
    (hf : Definition.read keyword (before ++ later :: rest) = .error f)
    (hfatal : f.fault.isFatal = false) (he : Definition.read later rest = .error e)
    (hnot : ¬StandsWithin rest f.place) : e.place.start < f.place.start := by
  obtain ⟨b, g, hp, hmem⟩ := hx
  obtain ⟨front, hfront, hclose, hdepth⟩ := hp.exists_front
  obtain ⟨left, right, hinner⟩ := List.append_of_mem hmem
  have hsame : before ++ later :: rest =
      (front ++ left) ++ later :: (right ++ g.close :: g.rest) := by simp [hfront, hinner]
  have hrest : rest = right ++ g.close :: g.rest := hts.behind_eq hsame
  -- what is left at the later keyword is the rest of the brackets and what stands behind them
  rw [hinner, List.map_append, List.map_cons] at hdepth
  obtain ⟨d, hd, -⟩ := exists_depth_behind (b.opener_ne_closer b) hdepth
  have hinside : Inside b g.inner (g.close :: g.rest) d rest :=
    ⟨right, ⟨left ++ [later], by simp [hinner]⟩, hrest, hd⟩
  rcases hinside.fails hclose (Definition.fails_of_read he) with hplace | hplace | hover
  · exact hp.lt_place hts (hplace ▸ hmem) hf
  · exact hp.lt_place hts hplace hf
  · refine absurd ?_ hnot
    rcases hp.exists_place hf with hplace | ⟨front, behind, hbehind, hfatal' | ⟨hb, hcloses⟩⟩
    · obtain ⟨c, g', left, right, -, hg', hinner', -⟩ := hover
      exact ⟨c, g', hg', by simp [hplace, hinner']⟩
    · rw [hfatal] at hfatal'
      cases hfatal'
    · exact hover.standsWithin hb hbehind hcloses

end

/-! ## The order of findings -/

namespace Visit

variable {v w : Visit}

theorem diagnostic?_of_error {s : SourceText} {f : DefinitionFailure} (h : v.outcome = .error f) :
    v.diagnostic? s = some (s.diagnostic f) := by
  simp [diagnostic?, finding, h, Finding.diagnostic?]

/-- Neither definition could be read, the keyword of the first stands in brackets of the other, and
no brackets behind it reach over the token where the failure of the other shows. -/
def Overtakes (w v : Visit) : Prop :=
  ∃ f e, v.outcome = .error f ∧ w.outcome = .error e ∧ StandsWithin v.rest w.keyword ∧
    ¬StandsWithin w.rest f.place

namespace Scans

variable {i : Nat} {doc : Option Token} {ts : List Token} {vs : List Visit}

theorem exists_between (h : Scans i doc ts vs) (hv : v ∈ vs) (hw : w ∈ vs) (hbefore : Before v w) :
    ∃ front between, ts = front ++ v.keyword :: v.rest ∧
      v.rest = between ++ w.keyword :: w.rest := by
  obtain ⟨xs, hxs, hplace, -⟩ := h.exists_eq_append hv
  obtain ⟨ys, hys, hplace', -⟩ := h.exists_eq_append hw
  have hlt := v.place_le_last.trans_lt hbefore.1
  refine ⟨xs, ?_⟩
  rcases List.append_eq_append_iff.mp (hxs.symm.trans hys) with ⟨us, rfl, hus⟩ | ⟨us, rfl, -⟩
  · cases us with
    | nil =>
        rw [List.append_nil] at hplace'
        omega
    | cons u us => exact ⟨us, hxs, (List.cons.inj hus).2⟩
  · rw [List.length_append] at hplace
    omega

theorem place_mem (h : Scans i doc ts vs) (hv : v ∈ vs) {f : DefinitionFailure}
    (hf : v.outcome = .error f) : f.place ∈ ts := by
  obtain ⟨xs, hxs, -, -⟩ := h.exists_eq_append hv
  rw [hxs]
  exact List.mem_append_right _ (Definition.fails_of_read hf).place_mem

/-- Of two failures the later one in the list shows first exactly if it overtakes the other. -/
theorem place_lt_iff (h : Scans i doc ts vs) (hts : Ascends ts) (hv : v ∈ vs) (hw : w ∈ vs)
    (hbefore : Before v w) {f e : DefinitionFailure} (hf : v.outcome = .error f)
    (he : w.outcome = .error e) : e.place.start < f.place.start ↔ w.Overtakes v := by
  obtain ⟨front, between, rfl, hrest⟩ := h.exists_between hv hw hbefore
  obtain ⟨-, -, -, hkind⟩ := h.exists_eq_append hw
  have hbehind : Ascends v.rest := hts.behind.tail
  have hlater : Ascends (w.keyword :: w.rest) := (hrest ▸ hbehind).behind
  constructor
  · intro hlt
    refine ⟨f, e, hf, he, ?_, fun hover => ?_⟩
    · have hle := hlater.head_le (Definition.fails_of_read he).place_mem
      exact (Definition.fails_of_read hf).standsWithin_of_lt hts.behind (by simp [hrest]) hkind
        (hle.trans_lt hlt)
    · exact hlt.asymm (hover.lt_place hlater.tail he)
  · rintro ⟨f', e', hf', he', hwithin, hnot⟩
    obtain rfl := Except.error.inj (hf.symm.trans hf')
    have hfatal : f.fault.isFatal = false :=
      Bool.eq_false_of_not_eq_true fun hfatal => hbefore.2 ⟨f, hf, hfatal⟩
    rw [outcome, hrest] at hf
    rw [hrest] at hwithin hbehind
    exact hwithin.place_lt hbehind hf hfatal he hnot

end Scans

end Visit

namespace SourceText

open Visit

variable {s : SourceText} {v w : Visit} {vs : List Visit}

theorem extract_signatures_eq (h : s.findings = vs.map (Visit.finding s)) :
    s.extract.signatures = vs.filterMap (Visit.signature? s) := by
  have hmap := congrArg (List.filterMap Finding.signature?) h
  rw [List.filterMap_map] at hmap
  exact hmap

theorem extract_diagnostics_eq (h : s.findings = vs.map (Visit.finding s)) :
    s.extract.diagnostics = vs.filterMap (Visit.diagnostic? s) := by
  have hmap := congrArg (List.filterMap Finding.diagnostic?) h
  rw [List.filterMap_map] at hmap
  exact hmap

theorem keyword_rank_lt (hscan : Scans 0 none (ofText s.text) vs) (hv : v ∈ vs) (hw : w ∈ vs)
    (hbefore : Before v w) : (s.locate v.keyword).rank < (s.locate w.keyword).rank := by
  obtain ⟨front, between, htokens, hrest⟩ := hscan.exists_between hv hw hbefore
  have hts : Ascends (front ++ v.keyword :: v.rest) := htokens ▸ Ascends.ofText s.text
  refine (rank_locate_lt_iff (by simp [htokens]) (by simp [htokens, hrest])).mpr ?_
  exact hts.behind.head_lt (by simp [hrest])

/-- Two diagnostics are the wrong way round exactly if the later keyword stands in brackets that the
earlier definition passes. -/
theorem diagnostic?_rank_le_iff (hscan : Scans 0 none (ofText s.text) vs) (hv : v ∈ vs)
    (hw : w ∈ vs) (hbefore : Before v w) :
    (∀ a, v.diagnostic? s = some a → ∀ b, w.diagnostic? s = some b →
      a.location.rank ≤ b.location.rank) ↔ ¬w.Overtakes v := by
  have hiff {f e : DefinitionFailure} (hf : v.outcome = .error f) (he : w.outcome = .error e) :
      (s.locate e.place).rank < (s.locate f.place).rank ↔ w.Overtakes v := by
    rw [rank_locate_lt_iff (hscan.place_mem hw he) (hscan.place_mem hv hf),
      hscan.place_lt_iff (Ascends.ofText s.text) hv hw hbefore hf he]
  constructor
  · intro hle hover
    have ⟨f, e, hf, he, _⟩ := hover
    have hrank := hle _ (diagnostic?_of_error hf) _ (diagnostic?_of_error he)
    exact hrank.not_gt ((hiff hf he).mpr hover)
  · intro hnot a ha b hb
    obtain ⟨f, hf, rfl⟩ := diagnostic?_eq_some ha
    obtain ⟨e, he, rfl⟩ := diagnostic?_eq_some hb
    exact le_of_not_gt fun hlt => hnot ((hiff hf he).mp hlt)

/-- Signatures are in the order of the text. Diagnostics are in it exactly if no definition that
could not be read overtakes another one, in whose brackets its keyword stands. -/
theorem extract_ordered_iff (s : SourceText) :
    ∃ vs, Scans 0 none (ofText s.text) vs ∧ s.findings = vs.map (Visit.finding s) ∧
      s.extract.signatures.Pairwise (fun a b => a.location.rank < b.location.rank) ∧
      (s.extract.diagnostics.Pairwise (fun a b => a.location.rank ≤ b.location.rank) ↔
        vs.Pairwise fun v w => ¬w.Overtakes v) := by
  obtain ⟨vs, hscan, hfindings⟩ := exists_scans s 0 none (ofText s.text)
  have hordered := hscan.pairwise
  refine ⟨vs, hscan, hfindings, ?_, ?_⟩
  · rw [extract_signatures_eq hfindings, List.pairwise_filterMap]
    refine hordered.imp_of_mem fun {v w} hv hw hbefore a ha b hb => ?_
    obtain ⟨d, -, rfl⟩ := signature?_eq_some ha
    obtain ⟨d', -, rfl⟩ := signature?_eq_some hb
    exact keyword_rank_lt hscan hv hw hbefore
  · rw [extract_diagnostics_eq hfindings, List.pairwise_filterMap]
    constructor
    · intro hle
      refine (hordered.and hle).imp_of_mem fun hv hw h => ?_
      exact (diagnostic?_rank_le_iff hscan hv hw h.1).mp h.2
    · intro hnot
      refine (hordered.and hnot).imp_of_mem fun hv hw h => ?_
      exact (diagnostic?_rank_le_iff hscan hv hw h.1).mpr h.2

def enclosedSource : SourceText where
  path := ⟨"a.axi".toList⟩
  text := "define_function f(define_function)".toList

/-- The keyword in the parentheses is missing its name at 1:19, but the definition around it, which
is missing its body at 1:34, is reported first. -/
theorem diagnostics_not_ordered :
    enclosedSource.extract.diagnostics.map (·.location) = [⟨1, 34⟩, ⟨1, 19⟩] ∧
      ¬enclosedSource.extract.diagnostics.Pairwise
        fun a b => a.location.rank ≤ b.location.rank := by
  decide

end SourceText

end RpcDispatch
