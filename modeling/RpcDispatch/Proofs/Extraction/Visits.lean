import Mathlib.Data.Set.Card
import RpcDispatch.Proofs.Extraction.Reading
import RpcDispatch.Proofs.Lexing.Tokenization

/-!
# Every keyword is accounted for

The scan of a file visits some of its keywords. It goes on behind a definition that was read, behind
a keyword where none could be read, or not at all where the rest of the file was swallowed. A
keyword that is not visited lies in a definition that was, or in what was swallowed.
-/

namespace RpcDispatch

open Token

/-! ## Visits -/

/-- A keyword at which a definition was looked for. -/
structure Visit where
  /-- How many tokens stand before the keyword. -/
  place : Nat
  doc : Option Token
  keyword : Token
  /-- The tokens behind the keyword. -/
  rest : List Token

namespace Visit

def outcome (v : Visit) : Except DefinitionFailure Definition := Definition.read v.keyword v.rest

def IsDefined (v : Visit) : Prop := ∃ d, v.outcome = .ok d

def IsFatal (v : Visit) : Prop := ∃ f, v.outcome = .error f ∧ f.fault.isFatal = true

/-- Place of the closing brace of what was read, or of the keyword itself. -/
def last (v : Visit) : Nat :=
  match v.outcome with
  | .ok d => v.place + (v.rest.length - d.rest.length)
  | .error _ => v.place

def finding (s : SourceText) (v : Visit) : Finding :=
  match v.outcome with
  | .ok d => .signature (s.signature v.doc v.keyword d)
  | .error f => .diagnostic (s.diagnostic f)

def signature? (s : SourceText) (v : Visit) : Option Signature := (v.finding s).signature?

def diagnostic? (s : SourceText) (v : Visit) : Option Diagnostic := (v.finding s).diagnostic?

/-- The scan goes on behind one visit, and makes the other later. -/
def Before (v w : Visit) : Prop := v.last < w.place ∧ ¬v.IsFatal

inductive Fate where
  | defined
  | reported
  | enclosed
  | abandoned
deriving DecidableEq

/-- A visit decides what becomes of the keyword at a place. -/
def Decides (v : Visit) (i : Nat) : Fate → Prop
  | .defined => v.place = i ∧ v.IsDefined
  | .reported => v.place = i ∧ ¬v.IsDefined
  | .enclosed => v.IsDefined ∧ v.place < i ∧ i < v.last
  | .abandoned => v.IsFatal ∧ v.place < i

variable {v w : Visit} {i : Nat}

theorem not_isDefined_of_error {f : DefinitionFailure} (h : v.outcome = .error f) :
    ¬v.IsDefined := by
  rintro ⟨d, hd⟩
  rw [h] at hd
  cases hd

theorem IsFatal.not_isDefined (h : v.IsFatal) : ¬v.IsDefined := by
  obtain ⟨f, hf, -⟩ := h
  exact not_isDefined_of_error hf

theorem last_of_error {f : DefinitionFailure} (h : v.outcome = .error f) : v.last = v.place := by
  rw [last, h]

/-- The closing brace is the last token of what a visit passes over. -/
theorem exists_rest_eq {d : Definition} (h : v.outcome = .ok d) :
    ∃ zs, v.rest = zs ++ d.body.close :: d.rest ∧ v.last = v.place + (zs.length + 1) ∧
      d.body.close.kind = .rightBrace := by
  obtain ⟨zs, hrest, hclose⟩ := Definition.exists_close h
  refine ⟨zs, hrest, ?_, hclose⟩
  rw [last, h, hrest, List.length_append, List.length_cons]
  dsimp only
  omega

theorem place_le_last (v : Visit) : v.place ≤ v.last := by
  rw [last]
  split <;> omega

/-! ## The scan -/

/-- The visits of a scan that has passed `place` tokens, where `doc` is the comment directly before
the tokens that are left. -/
inductive Scans : (place : Nat) → (doc : Option Token) → List Token → List Visit → Prop
  | nil {i : Nat} {doc : Option Token} : Scans i doc [] []
  | pass {i : Nat} {doc : Option Token} {t : Token} {ts : List Token} {vs : List Visit} :
      t.kind ≠ .defineFunction →
      Scans (i + 1) (if t.isComment then some t else none) ts vs → Scans i doc (t :: ts) vs
  | define {i : Nat} {doc : Option Token} {t : Token} {ts : List Token} {vs : List Visit}
      {d : Definition} : t.kind = .defineFunction → Definition.read t ts = .ok d →
      Scans ((Visit.mk i doc t ts).last + 1) none d.rest vs →
      Scans i doc (t :: ts) (⟨i, doc, t, ts⟩ :: vs)
  | recover {i : Nat} {doc : Option Token} {t : Token} {ts : List Token} {vs : List Visit}
      {f : DefinitionFailure} : t.kind = .defineFunction → Definition.read t ts = .error f →
      f.fault.isFatal = false → Scans (i + 1) none ts vs →
      Scans i doc (t :: ts) (⟨i, doc, t, ts⟩ :: vs)
  | stop {i : Nat} {doc : Option Token} {t : Token} {ts : List Token} {f : DefinitionFailure} :
      t.kind = .defineFunction → Definition.read t ts = .error f → f.fault.isFatal = true →
      Scans i doc (t :: ts) [⟨i, doc, t, ts⟩]

/-- The findings in a run of tokens are those of the visits that a scan of it makes. -/
theorem exists_scans (s : SourceText) (i : Nat) (doc : Option Token) (ts : List Token) :
    ∃ vs, Scans i doc ts vs ∧ s.findingsFrom 0 doc ts = vs.map (finding s) := by
  -- by the number of tokens left: a definition takes off more than the first of them
  induction hn : ts.length using Nat.strong_induction_on generalizing i doc ts with
  | _ n ih =>
      subst hn
      cases ts with
      | nil => exact ⟨[], .nil, rfl⟩
      | cons t ts =>
          by_cases hk : t.kind = .defineFunction
          · rcases hread : Definition.read t ts with f | d
            · have hfinding : finding s ⟨i, doc, t, ts⟩ = .diagnostic (s.diagnostic f) := by
                simp only [finding, outcome, hread]
              by_cases hfatal : f.fault.isFatal = true
              · refine ⟨_, .stop hk hread hfatal, ?_⟩
                simp only [SourceText.findingsFrom, if_pos hk, hread, if_pos hfatal]
                simp [hfinding]
              · obtain ⟨vs, hscan, hvs⟩ := ih ts.length (by simp) (i + 1) none ts rfl
                refine ⟨_, .recover hk hread (by simpa using hfatal) hscan, ?_⟩
                simp only [SourceText.findingsFrom, if_pos hk, hread, if_neg hfatal]
                rw [hvs, List.map_cons, hfinding]
            · have hlength := (Definition.read_suffix hread).length_le
              obtain ⟨vs, hscan, hvs⟩ := ih d.rest.length (by simp; omega)
                ((Visit.mk i doc t ts).last + 1) none d.rest rfl
              refine ⟨_, .define hk hread hscan, ?_⟩
              rw [s.findingsFrom_definition hk hread, hvs, List.map_cons]
              simp only [finding, outcome, hread]
          · obtain ⟨vs, hscan, hvs⟩ := ih ts.length (by simp) (i + 1)
              (if t.isComment then some t else none) ts rfl
            refine ⟨vs, .pass hk hscan, ?_⟩
            rw [SourceText.findingsFrom, if_neg hk, hvs]

namespace Scans

variable {doc : Option Token} {ts : List Token} {vs : List Visit}

/-- A visit sees the tokens from its place on. -/
theorem exists_eq_append (h : Scans i doc ts vs) (hv : v ∈ vs) :
    ∃ xs, ts = xs ++ v.keyword :: v.rest ∧ v.place = i + xs.length ∧
      v.keyword.kind = .defineFunction := by
  induction h with
  | nil => cases hv
  | @pass i doc t ts vs hk _ ih =>
      obtain ⟨xs, rfl, hplace, hkind⟩ := ih hv
      refine ⟨t :: xs, rfl, ?_, hkind⟩
      rw [hplace, List.length_cons]
      omega
  | @define i doc t ts vs d hk hread _ ih =>
      rcases List.mem_cons.mp hv with rfl | hv
      · exact ⟨[], rfl, rfl, hk⟩
      · obtain ⟨xs, hxs, hplace, hkind⟩ := ih hv
        obtain ⟨zs, hzs, hlast, -⟩ := exists_rest_eq (v := ⟨i, doc, t, ts⟩) hread
        refine ⟨t :: (zs ++ d.body.close :: xs), ?_, ?_, hkind⟩
        · rw [List.cons_append, List.append_assoc, List.cons_append, ← hxs, ← hzs]
        · rw [hplace, hlast]
          simp only [List.length_cons, List.length_append]
          omega
  | @recover i doc t ts vs f hk _ _ _ ih =>
      rcases List.mem_cons.mp hv with rfl | hv
      · exact ⟨[], rfl, rfl, hk⟩
      · obtain ⟨xs, rfl, hplace, hkind⟩ := ih hv
        refine ⟨t :: xs, rfl, ?_, hkind⟩
        rw [hplace, List.length_cons]
        omega
  | stop hk =>
      obtain rfl := List.mem_singleton.mp hv
      exact ⟨[], rfl, rfl, hk⟩

theorem le_place (h : Scans i doc ts vs) (hv : v ∈ vs) : i ≤ v.place := by
  obtain ⟨xs, -, hplace, -⟩ := h.exists_eq_append hv
  omega

/-- A visit begins behind the end of the one before, which is not fatal. -/
theorem pairwise (h : Scans i doc ts vs) : vs.Pairwise Before := by
  induction h with
  | nil => exact .nil
  | pass _ _ ih => exact ih
  | define _ hread hscan ih =>
      refine List.pairwise_cons.mpr ⟨fun w hw => ⟨?_, ?_⟩, ih⟩
      · exact hscan.le_place hw
      · exact fun hfatal => hfatal.not_isDefined ⟨_, hread⟩
  | @recover i doc t ts vs f _ hread hfatal hscan ih =>
      refine List.pairwise_cons.mpr ⟨fun w hw => ⟨?_, ?_⟩, ih⟩
      · rw [last_of_error (v := ⟨i, doc, t, ts⟩) hread]
        exact hscan.le_place hw
      · rintro ⟨f', hf', hfatal'⟩
        obtain rfl : f' = f := Except.error.inj (hf'.symm.trans hread)
        rw [hfatal] at hfatal'
        cases hfatal'
  | stop => exact List.pairwise_singleton Before _

/-- No keyword is lost: a visit decides what becomes of it. -/
theorem exists_decides (h : Scans i doc ts vs) {xs ys : List Token} {x : Token}
    (hts : ts = xs ++ x :: ys) (hx : x.kind = .defineFunction) :
    ∃ v ∈ vs, ∃ fate, v.Decides (i + xs.length) fate := by
  induction h generalizing xs with
  | nil => simp at hts
  | pass hk _ ih =>
      cases xs with
      | nil =>
          obtain ⟨rfl, rfl⟩ := List.cons.inj hts
          exact absurd hx hk
      | cons y xs =>
          obtain ⟨v, hv, fate, hfate⟩ := ih (List.cons.inj hts).2
          refine ⟨v, hv, fate, ?_⟩
          rwa [List.length_cons, Nat.add_comm xs.length 1, ← Nat.add_assoc]
  | @define i doc t ts vs d hk hread _ ih =>
      cases xs with
      | nil => exact ⟨_, List.mem_cons_self, .defined, rfl, d, hread⟩
      | cons y xs =>
          obtain ⟨zs, hzs, hlast, hclose⟩ := exists_rest_eq (v := ⟨i, doc, t, ts⟩) hread
          have hne : x ≠ d.body.close := by
            rintro rfl
            rw [hx] at hclose
            cases hclose
          have hsplit : zs ++ d.body.close :: d.rest = xs ++ x :: ys :=
            hzs.symm.trans (List.cons.inj hts).2
          -- before the closing brace the keyword is enclosed, behind it the scan goes on
          rcases List.append_eq_append_iff.mp hsplit with ⟨us, rfl, hus⟩ | ⟨us, rfl, hus⟩
          · cases us with
            | nil => exact absurd (List.cons.inj hus).1.symm hne
            | cons u us =>
                obtain ⟨v, hv, fate, hfate⟩ := ih (List.cons.inj hus).2
                refine ⟨v, List.mem_cons_of_mem _ hv, fate, ?_⟩
                rw [hlast] at hfate
                have hplace : i + (zs.length + 1) + 1 + us.length =
                    i + (y :: (zs ++ u :: us)).length := by
                  simp only [List.length_cons, List.length_append]
                  omega
                rwa [← hplace]
          · cases us with
            | nil => exact absurd (List.cons.inj hus).1 hne
            | cons u us =>
                refine ⟨_, List.mem_cons_self, .enclosed, ⟨d, hread⟩, ?_, ?_⟩
                · simp
                · rw [hlast]
                  simp only [List.length_cons, List.length_append]
                  omega
  | recover hk hread _ _ ih =>
      cases xs with
      | nil => exact ⟨_, List.mem_cons_self, .reported, rfl, not_isDefined_of_error hread⟩
      | cons y xs =>
          obtain ⟨v, hv, fate, hfate⟩ := ih (List.cons.inj hts).2
          refine ⟨v, List.mem_cons_of_mem _ hv, fate, ?_⟩
          rwa [List.length_cons, Nat.add_comm xs.length 1, ← Nat.add_assoc]
  | stop hk hread hfatal =>
      refine ⟨_, List.mem_cons_self, ?_⟩
      cases xs with
      | nil => exact ⟨.reported, rfl, not_isDefined_of_error hread⟩
      | cons y xs => exact ⟨.abandoned, ⟨_, hread, hfatal⟩, by simp⟩

end Scans

/-! ## Which visit decides -/

theorem Decides.place_le {fate : Fate} (h : v.Decides i fate) : v.place ≤ i := by
  cases fate with
  | defined => exact h.1.le
  | reported => exact h.1.le
  | enclosed => exact h.2.1.le
  | abandoned => exact h.2.le

theorem Decides.le_last {fate : Fate} (h : v.Decides i fate) (hv : ¬v.IsFatal) : i ≤ v.last := by
  have hplace := v.place_le_last
  cases fate with
  | defined => exact h.1 ▸ hplace
  | reported => exact h.1 ▸ hplace
  | enclosed => exact h.2.2.le
  | abandoned => exact absurd h.1 hv

/-- What a visit decides about a place, only it decides. -/
theorem Before.not_decides {fate fate' : Fate} (h : Before v w) (hv : v.Decides i fate) :
    ¬w.Decides i fate' := by
  intro hw
  have hlast := hv.le_last h.2
  have hplace := hw.place_le
  have hlt := h.1
  omega

theorem Decides.unique {fate fate' : Fate} (h : v.Decides i fate) (h' : v.Decides i fate') :
    fate = fate' := by
  have hfatal := IsFatal.not_isDefined (v := v)
  cases fate <;> cases fate' <;> try rfl
  all_goals
    simp only [Decides] at h h'
    obtain ⟨h₁, h₂⟩ := h
    obtain ⟨h₁', h₂'⟩ := h'
  case defined.reported => exact absurd h₂ h₂'
  case reported.defined => exact absurd h₂' h₂
  case enclosed.abandoned => exact absurd h₁ (hfatal h₁')
  case abandoned.enclosed => exact absurd h₁' (hfatal h₁)
  all_goals omega

theorem before_or_before {vs : List Visit} (hvs : vs.Pairwise Before) (hv : v ∈ vs) (hw : w ∈ vs)
    (hne : v ≠ w) : Before v w ∨ Before w v := by
  have hsymm : Std.Symm fun v w => Before v w ∨ Before w v := ⟨fun _ _ => Or.symm⟩
  have happart : vs.Pairwise fun v w => Before v w ∨ Before w v := hvs.imp .inl
  exact happart.forall hv hw hne

/-- Visits that are apart decide about different places. -/
theorem existsUnique_decides {vs : List Visit} (hvs : vs.Pairwise Before)
    (h : ∃ v ∈ vs, ∃ fate, v.Decides i fate) :
    ∃! p : Visit × Fate, p.1 ∈ vs ∧ p.1.Decides i p.2 := by
  obtain ⟨v, hv, fate, hfate⟩ := h
  refine ⟨(v, fate), ⟨hv, hfate⟩, ?_⟩
  rintro ⟨w, fate'⟩ ⟨hw, hfate'⟩
  have hsame : w = v := by
    by_contra hne
    rcases before_or_before hvs hw hv hne with hbefore | hbefore
    · exact hbefore.not_decides hfate' hfate
    · exact hbefore.not_decides hfate hfate'
  subst hsame
  rw [hfate.unique hfate']

/-! ## What the visits of a text return -/

variable {s : SourceText}

theorem signature?_eq_some {sig : Signature}
    (h : v.signature? s = some sig) :
    ∃ d, v.outcome = .ok d ∧ sig = s.signature v.doc v.keyword d := by
  rcases hv : v.outcome with f | d
  · simp [signature?, finding, hv, Finding.signature?] at h
  · refine ⟨d, rfl, ?_⟩
    simpa [signature?, finding, hv, Finding.signature?] using h.symm

theorem diagnostic?_eq_some {e : Diagnostic}
    (h : v.diagnostic? s = some e) :
    ∃ f, v.outcome = .error f ∧ e = s.diagnostic f := by
  rcases hv : v.outcome with f | d
  · refine ⟨f, rfl, ?_⟩
    simpa [diagnostic?, finding, hv, Finding.diagnostic?] using h.symm
  · simp [diagnostic?, finding, hv, Finding.diagnostic?] at h

theorem isFatal_iff_severity {f : DefinitionFailure} (h : v.outcome = .error f) :
    v.IsFatal ↔ (s.diagnostic f).severity = .error := by
  have hseverity : (s.diagnostic f).severity = .error ↔ f.fault.isFatal = true := by
    simp [SourceText.diagnostic, DefinitionFault.severity]
  rw [hseverity]
  constructor
  · rintro ⟨f', hf', hfatal⟩
    obtain rfl : f' = f := Except.error.inj (hf'.symm.trans h)
    exact hfatal
  · exact fun hfatal => ⟨f, h, hfatal⟩

/-- Each visit returns one signature or one diagnostic. -/
theorem length_add_length (s : SourceText) (vs : List Visit) :
    (vs.filterMap (signature? s)).length +
      (vs.filterMap (diagnostic? s)).length = vs.length := by
  induction vs with
  | nil => rfl
  | cons v vs ih =>
      rcases hv : v.finding s with sig | e
      · have hsig : v.signature? s = some sig := by rw [signature?, hv, Finding.signature?]
        have hdiag : v.diagnostic? s = none := by rw [diagnostic?, hv, Finding.diagnostic?]
        rw [List.filterMap_cons_some hsig, List.filterMap_cons_none hdiag, List.length_cons,
          List.length_cons, ← ih]
        omega
      · have hsig : v.signature? s = none := by rw [signature?, hv, Finding.signature?]
        have hdiag : v.diagnostic? s = some e := by rw [diagnostic?, hv, Finding.diagnostic?]
        rw [List.filterMap_cons_none hsig, List.filterMap_cons_some hdiag, List.length_cons,
          List.length_cons, ← ih]
        omega

/-- Each visit gives its own place one of these two fates, and no other place. -/
theorem ncard_places {vs : List Visit} (hvs : vs.Pairwise Before) :
    {i | ∃ v ∈ vs, v.Decides i .defined ∨ v.Decides i .reported}.ncard = vs.length := by
  have hlt : (vs.map place).Pairwise (· < ·) := by
    apply List.Pairwise.map place _ hvs
    intro v w h
    exact Nat.lt_of_le_of_lt v.place_le_last h.1
  have hset : {i | ∃ v ∈ vs, v.Decides i .defined ∨ v.Decides i .reported} =
      ((vs.map place).toFinset : Set Nat) := by
    ext i
    simp only [Set.mem_ofPred_eq, List.coe_toFinset, List.mem_map]
    constructor
    · rintro ⟨v, hv, h | h⟩
      · exact ⟨v, hv, h.1⟩
      · exact ⟨v, hv, h.1⟩
    · rintro ⟨v, hv, hi⟩
      refine ⟨v, hv, ?_⟩
      by_cases hd : v.IsDefined
      · exact .inl ⟨hi, hd⟩
      · exact .inr ⟨hi, hd⟩
  rw [hset, Set.ncard_coe_finset, List.toFinset_card_of_nodup hlt.nodup, List.length_map]

/-- Only the last visit can be fatal. -/
theorem severity_of_mem_dropLast {vs : List Visit} (hvs : vs.Pairwise Before) {e : Diagnostic}
    (he : e ∈ (vs.filterMap (diagnostic? s)).dropLast) :
    e.severity = .warning := by
  rcases List.eq_nil_or_concat' vs with rfl | ⟨front, v, rfl⟩
  · simp at he
  · -- the last visit returns the last diagnostic or none, so `e` comes from one before it
    have hfront : e ∈ front.filterMap (diagnostic? s) := by
      rw [List.filterMap_append] at he
      cases hv : v.diagnostic? s with
      | none =>
          rw [List.filterMap_cons_none hv, List.filterMap_nil, List.append_nil] at he
          exact List.mem_of_mem_dropLast he
      | some e' =>
          rw [List.filterMap_cons_some hv, List.filterMap_nil, List.dropLast_concat] at he
          exact he
    obtain ⟨w, hw, hwe⟩ := List.mem_filterMap.mp hfront
    have hbefore := (List.pairwise_append.mp hvs).2.2 w hw v (List.mem_singleton_self v)
    obtain ⟨f, hf, rfl⟩ := diagnostic?_eq_some hwe
    have hsevere := mt (isFatal_iff_severity (s := s) hf).mpr hbefore.2
    cases hs : (s.diagnostic f).severity with
    | warning => rfl
    | error => exact absurd hs hsevere

/-- The visits of a scan of a text account for all its keywords and for all that was returned. -/
structure Accounts (s : SourceText) (vs : List Visit) : Prop where
  signatures : s.extract.signatures = vs.filterMap (signature? s)
  diagnostics : s.extract.diagnostics = vs.filterMap (diagnostic? s)
  ordered : vs.Pairwise Before
  keywords : ∀ v ∈ vs, v.keyword.kind = .defineFunction ∧
    (ofText s.text).drop v.place = v.keyword :: v.rest
  closes : ∀ v ∈ vs, ∀ d, v.outcome = .ok d →
    (ofText s.text)[v.last]? = some d.body.close ∧ d.body.close.kind = .rightBrace
  decides : ∀ i x, (ofText s.text)[i]? = some x → x.kind = .defineFunction →
    ∃! p : Visit × Fate, p.1 ∈ vs ∧ p.1.Decides i p.2
  counts : s.extract.signatures.length + s.extract.diagnostics.length =
    {i | ∃ v ∈ vs, v.Decides i .defined ∨ v.Decides i .reported}.ncard
  warnings : ∀ e ∈ s.extract.diagnostics.dropLast, e.severity = .warning
  fatal : ∀ e ∈ s.extract.diagnostics, e.severity = .error →
    ∃ v ∈ vs, v.IsFatal ∧ v.finding s = .diagnostic e ∧
      ∀ sig ∈ s.extract.signatures, sig.stop ≤ v.keyword.start

end Visit

namespace SourceText

open Visit

/-- No definition is lost, and none is counted twice. -/
theorem exists_accounts (s : SourceText) : ∃ vs, Accounts s vs := by
  obtain ⟨vs, hscan, hfindings⟩ := exists_scans s 0 none (ofText s.text)
  have hall : s.findings = vs.map (Visit.finding s) := hfindings
  have hsignatures : s.extract.signatures = vs.filterMap (signature? s) := by
    have hmap := congrArg (List.filterMap Finding.signature?) hall
    rw [List.filterMap_map] at hmap
    exact hmap
  have hdiagnostics : s.extract.diagnostics = vs.filterMap (diagnostic? s) := by
    have hmap := congrArg (List.filterMap Finding.diagnostic?) hall
    rw [List.filterMap_map] at hmap
    exact hmap
  have hordered := hscan.pairwise
  have hkeywords : ∀ v ∈ vs, v.keyword.kind = .defineFunction ∧
      (ofText s.text).drop v.place = v.keyword :: v.rest := by
    intro v hv
    obtain ⟨xs, hxs, hplace, hkind⟩ := hscan.exists_eq_append hv
    refine ⟨hkind, ?_⟩
    rw [hxs, hplace, Nat.zero_add, List.drop_left]
  have hcloses : ∀ v ∈ vs, ∀ d, v.outcome = .ok d →
      (ofText s.text)[v.last]? = some d.body.close ∧ d.body.close.kind = .rightBrace := by
    intro v hv d hd
    obtain ⟨zs, hrest, hlast, hkind⟩ := exists_rest_eq hd
    refine ⟨?_, hkind⟩
    rw [hlast, ← List.getElem?_drop, (hkeywords v hv).2, hrest]
    simp
  refine ⟨vs, hsignatures, hdiagnostics, hordered, hkeywords, hcloses, ?_, ?_, ?_, ?_⟩
  · intro i x hi hx
    obtain ⟨hlt, rfl⟩ := List.getElem?_eq_some_iff.mp hi
    have hsplit : ofText s.text =
        (ofText s.text).take i ++ (ofText s.text)[i] :: (ofText s.text).drop (i + 1) := by
      rw [List.getElem_cons_drop, List.take_append_drop]
    have hdecides := hscan.exists_decides hsplit hx
    rw [Nat.zero_add, List.length_take_of_le hlt.le] at hdecides
    exact existsUnique_decides hordered hdecides
  · rw [hsignatures, hdiagnostics, length_add_length, ncard_places hordered]
  · intro e he
    rw [hdiagnostics] at he
    exact severity_of_mem_dropLast hordered he
  · intro e he hsevere
    rw [hdiagnostics] at he
    obtain ⟨v, hv, hve⟩ := List.mem_filterMap.mp he
    obtain ⟨f, hf, rfl⟩ := diagnostic?_eq_some hve
    have hfatal : v.IsFatal := (isFatal_iff_severity hf).mpr hsevere
    refine ⟨v, hv, hfatal, by simp [Visit.finding, hf], ?_⟩
    intro sig hsig
    rw [hsignatures] at hsig
    obtain ⟨w, hw, hwsig⟩ := List.mem_filterMap.mp hsig
    obtain ⟨d, hd, rfl⟩ := signature?_eq_some hwsig
    have hne : w ≠ v := by
      rintro rfl
      exact hfatal.not_isDefined ⟨d, hd⟩
    -- nothing is visited behind a fatal failure
    have hbefore : Before w v := by
      rcases before_or_before hordered hw hv hne with h | h
      · exact h
      · exact absurd hfatal h.2
    have hclose := (hcloses w hw d hd).1
    have hkeyword : (ofText s.text)[v.place]? = some v.keyword := by
      have hhead := congrArg List.head? (hkeywords v hv).2
      rwa [List.head?_drop] at hhead
    obtain ⟨hlast, hclose⟩ := List.getElem?_eq_some_iff.mp hclose
    obtain ⟨hplace, hkeyword⟩ := List.getElem?_eq_some_iff.mp hkeyword
    have hapart : (ofText s.text).Pairwise fun x y => x.stop ≤ y.start :=
      pairwise_ofTextFrom 0 [] s.text
    have hstop := List.pairwise_iff_getElem.mp hapart w.last v.place hlast hplace hbefore.1
    rw [hclose, hkeyword] at hstop
    exact hstop

end SourceText

end RpcDispatch
