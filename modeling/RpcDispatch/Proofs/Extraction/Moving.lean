import RpcDispatch.Proofs.Extraction.Fronts
import RpcDispatch.Proofs.Extraction.Locations

/-!
# Findings that stand further on

Where a text stands behind another one its tokens are moved, and what is found in it is moved with
them: the same definitions and the same diagnostics, at places that count from the front of the
whole text.
-/

namespace RpcDispatch

open Token

/-! ## Moved findings -/

/-- The signature in a text that stands behind `n` bytes which end at `here`. -/
def Signature.movedBy (n : Nat) (here : Location) (s : Signature) : Signature :=
  { s with start := n + s.start, stop := n + s.stop, location := here.behind s.location }

theorem Signature.eq_of_movedBy {n : Nat} {here : Location} {s s' : Signature}
    (h : s.movedBy n here = s') :
    s = { s' with start := s'.start - n, stop := s'.stop - n, location := s.location } := by
  subst h
  simp only [movedBy, Nat.add_sub_cancel_left]

def Diagnostic.movedBy (here : Location) (d : Diagnostic) : Diagnostic :=
  { d with location := here.behind d.location }

def Finding.movedBy (n : Nat) (here : Location) : Finding → Finding
  | signature s => .signature (s.movedBy n here)
  | diagnostic d => .diagnostic (d.movedBy here)

section

variable (n : Nat) (here : Location) (fs : List Finding)

theorem filterMap_signature?_movedBy :
    (fs.map (Finding.movedBy n here)).filterMap Finding.signature? =
      (fs.filterMap Finding.signature?).map (Signature.movedBy n here) := by
  rw [List.filterMap_map, List.map_filterMap]
  congr 1
  funext f
  cases f <;> rfl

theorem filterMap_diagnostic?_movedBy :
    (fs.map (Finding.movedBy n here)).filterMap Finding.diagnostic? =
      (fs.filterMap Finding.diagnostic?).map (Diagnostic.movedBy here) := by
  rw [List.filterMap_map, List.map_filterMap]
  congr 1
  funext f
  cases f <;> rfl

end

/-! ## A text behind another one -/

/-- In the text of `whole` the text of `part` stands behind `n` bytes, which end at `here`. -/
structure SourceText.StandsBehind (part whole : SourceText) (n : Nat) (here : Location) : Prop where
  path : part.path = whole.path
  locate : ∀ u v, part.text = u ++ v → Location.locate whole.text (n + Text.byteSize u) =
    here.behind (Location.locate part.text (Text.byteSize u))

variable {part whole : SourceText} {n : Nat} {here : Location}

theorem SourceText.standsBehind_of_slice? {a b : Nat} {slice : Text}
    (h : whole.text.slice? a b = some slice) :
    StandsBehind ⟨whole.path, slice⟩ whole a (Location.locate whole.text a) where
  path := rfl
  locate := by
    obtain ⟨front, after, htext, rfl, -⟩ := Text.slice?_eq_some.mp h
    rintro u v rfl
    rw [htext, List.append_assoc]
    exact Location.locate_behind front u (v ++ after) v

/-- A location in the whole is the one in the part, counted from where the part stands. -/
theorem SourceText.StandsBehind.locate_movedBy (h : StandsBehind part whole n here) {t : Token}
    (ht : t ∈ ofText part.text) :
    whole.locate (t.movedBy n) = here.behind (part.locate t) := by
  obtain ⟨u, v, htext, hstart⟩ := exists_append_of_mem ht
  have hlocate := h.locate u v htext
  rw [← hstart] at hlocate
  exact hlocate

def Likeness.behind (part whole : SourceText) (n : Nat) (here : Location) : Likeness where
  lists ts us := ts.map (Token.movedBy n) = us ∧
    ∀ t ∈ ts, whole.locate (t.movedBy n) = here.behind (part.locate t)
  tokens t u := t.movedBy n = u ∧ whole.locate u = here.behind (part.locate t)
  words := Eq
  slices := Eq
  length h := by rw [← h.1, List.length_map]
  cons h := by
    obtain ⟨htokens, hlocate⟩ := h
    obtain ⟨rfl, hrest⟩ := List.cons.inj htokens
    exact ⟨⟨rfl, hlocate _ List.mem_cons_self⟩, hrest,
      fun t ht => hlocate t (List.mem_cons_of_mem _ ht)⟩
  kind h := by rw [← h.1, kind_movedBy]
  word h := by rw [← h.1, text_movedBy]
  slice h hlength := by
    rename_i xs ys t u ts us
    have hfront := List.append_inj (List.map_append.symm.trans h.1) (by simpa using hlength)
    obtain ⟨rfl, htail⟩ := hfront
    obtain ⟨rfl, -⟩ := List.cons.inj htail
    rw [between, between, List.flatMap_map]
    rfl

theorem Signature.AlikeIn.eq_movedBy {sig sig' : Signature} (hpath : part.path = whole.path)
    (h : sig.AlikeIn (.behind part whole n here) part whole sig') :
    sig.movedBy n here = sig' := by
  obtain ⟨hfront, hbody⟩ := h.sameFront (fun _ _ => id) (fun _ _ => id) hpath
  cases h with
  | @mk doc doc' keyword keyword' d d' hdoc hkeyword hd =>
      have hstart : n + (doc.getD keyword).start = (doc'.getD keyword').start := by
        cases hdoc with
        | none => rw [← hkeyword.1]; rfl
        | some hcomment => rw [← hcomment.1]; rfl
      have hstop : n + d.body.close.stop = d'.body.close.stop := by
        rw [← hd.body.close.1, stop_movedBy]
      obtain ⟨hcomment, htype, hwidth, hname, hraw, hfile⟩ := hfront
      rw [movedBy, Signature.mk.injEq]
      exact ⟨hcomment, htype, hwidth, hname, hraw, hbody, hfile, hstart, hstop, hkeyword.2.symm⟩

theorem Diagnostic.AlikeIn.eq_movedBy {e e' : Diagnostic} (hpath : part.path = whole.path)
    (h : e.AlikeIn (.behind part whole n here) part whole e') : e.movedBy here = e' := by
  obtain ⟨hseverity, hfile, hmessage⟩ := h.sameWords (fun _ _ => id) hpath
  cases h with
  | mk hf =>
      rw [movedBy, Diagnostic.mk.injEq]
      exact ⟨hseverity, hfile, hf.place.2.symm, hmessage⟩

theorem Finding.AlikeIn.eq_movedBy {f f' : Finding} (hpath : part.path = whole.path)
    (h : f.AlikeIn (.behind part whole n here) part whole f') : f.movedBy n here = f' := by
  cases h with
  | signature h => exact congrArg Finding.signature (h.eq_movedBy hpath)
  | diagnostic h => exact congrArg Finding.diagnostic (h.eq_movedBy hpath)

/-- What is found among moved tokens is what is found among the tokens, moved as far. -/
theorem SourceText.StandsBehind.findings (h : StandsBehind part whole n here) :
    whole.findingsFrom 0 none ((ofText part.text).map (Token.movedBy n)) =
      part.findings.map (Finding.movedBy n here) := by
  have hlists : (Likeness.behind part whole n here).lists (ofText part.text)
      ((ofText part.text).map (Token.movedBy n)) := ⟨rfl, fun t ht => h.locate_movedBy ht⟩
  have halike : List.Forall₂ (Finding.AlikeIn (Likeness.behind part whole n here) part whole)
      (part.findingsFrom 0 none (ofText part.text))
      (whole.findingsFrom 0 none ((ofText part.text).map (Token.movedBy n))) :=
    Likeness.findingsFrom 0 .none hlists
  have hmoved := halike.imp fun _ _ hf => hf.eq_movedBy h.path
  have heq : part.findings.map (Finding.movedBy n here) =
      (whole.findingsFrom 0 none ((ofText part.text).map (Token.movedBy n))).map id :=
    forall₂_map_eq_iff.mp hmoved
  rw [heq, List.map_id]

end RpcDispatch
