import Mathlib.Data.List.Forall2
import RpcDispatch.Proofs.Extraction.Parameters

/-!
# Alike parameter lists

A parameter list is read from the kinds of its tokens, and takes the texts of its names over. Two
lists whose tokens agree in kind are faulty at the same entry, or have corresponding parameters.
-/

namespace RpcDispatch

def Token.Alike (T : Text → Text → Prop) (t u : Token) : Prop := t.kind = u.kind ∧ T t.text u.text

/-- The names stand in a relation, and both or none of the parameters are arrays. -/
structure Parameter.Alike (T : Text → Text → Prop) (p q : Parameter) : Prop where
  qualifiers : List.Forall₂ T p.qualifiers q.qualifiers
  type : T p.type q.type
  name : T p.name q.name
  width : p.width.isSome = q.width.isSome

section

variable {T : Text → Text → Prop} {ts us : List Token}

/-- Where one of two lists stops satisfying a test, so does the other. -/
theorem forall₂_span {α : Type} {R : α → α → Prop} {p : α → Bool}
    (hp : ∀ a b, R a b → p a = p b) {as bs : List α} (h : List.Forall₂ R as bs) :
    List.Forall₂ R (as.takeWhile p) (bs.takeWhile p) ∧
      List.Forall₂ R (as.dropWhile p) (bs.dropWhile p) := by
  induction h with
  | nil => exact ⟨.nil, .nil⟩
  | @cons a b as bs hab hrest ih =>
      by_cases hb : p b = true
      · have ha : p a = true := (hp a b hab).trans hb
        rw [List.takeWhile_cons_of_pos ha, List.takeWhile_cons_of_pos hb,
          List.dropWhile_cons_of_pos ha, List.dropWhile_cons_of_pos hb]
        exact ⟨.cons hab ih.1, ih.2⟩
      · have ha : ¬p a = true := by rwa [hp a b hab]
        rw [List.takeWhile_cons_of_neg ha, List.takeWhile_cons_of_neg hb,
          List.dropWhile_cons_of_neg ha, List.dropWhile_cons_of_neg hb]
        exact ⟨.nil, .cons hab hrest⟩

theorem forall₂_getLast? {α : Type} {R : α → α → Prop} {as bs : List α}
    (h : List.Forall₂ R as bs) : Option.Rel R as.getLast? bs.getLast? := by
  have hreverse := List.rel_reverse h
  rw [List.getLast?_eq_head?_reverse, List.getLast?_eq_head?_reverse]
  generalize as.reverse = xs at hreverse
  generalize bs.reverse = ys at hreverse
  cases hreverse with
  | nil => exact .none
  | cons hlast _ => exact .some hlast

/-- Comments go into the gaps, and gaps do not matter to whether tokens are alike. -/
theorem Token.Alike.absorbComments (h : List.Forall₂ (Token.Alike T) ts us)
    (carry carry' : Text) :
    List.Forall₂ (Token.Alike T) (Token.absorbComments carry ts)
      (Token.absorbComments carry' us) := by
  induction h generalizing carry carry' with
  | nil => exact .nil
  | @cons t u ts us htoken _ ih =>
      rw [Token.absorbComments, Token.absorbComments, Token.isComment, Token.isComment, htoken.1]
      split
      next => exact ih _ _
      next => exact .cons ⟨rfl, htoken.2⟩ (ih _ _)

namespace Parameter

theorem splitEntries_alike (h : List.Forall₂ (Token.Alike T) ts us) :
    List.Forall₂ (List.Forall₂ (Token.Alike T)) (splitEntries ts) (splitEntries us) := by
  induction h with
  | nil => exact .cons .nil .nil
  | @cons t u ts us htoken _ ih =>
      rw [splitEntries, splitEntries, htoken.1]
      split
      next => exact .cons .nil ih
      next =>
        generalize splitEntries ts = es at ih
        generalize splitEntries us = es' at ih
        cases ih with
        | nil => exact .cons (.cons htoken .nil) .nil
        | cons hentry hentries => exact .cons (.cons htoken hentry) hentries

theorem readWidth_alike (h : List.Forall₂ (Token.Alike T) ts us) :
    Corresponds Eq (fun w w' : Option ArrayWidth => w.isSome = w'.isSome) (readWidth ts)
      (readWidth us) := by
  cases h with
  | nil => exact .ok rfl
  | @cons t u ts us hfirst hmore =>
      rw [readWidth, readWidth]
      have hlast := forall₂_getLast? hmore
      generalize ts.getLast? = x at hlast
      generalize us.getLast? = y at hlast
      cases hlast with
      | none => exact .error rfl
      | @some t' u' hlast =>
          dsimp only
          rw [hfirst.1, hlast.1]
          split
          next => exact .ok rfl
          next => exact .error rfl

theorem readEntry_alike (h : List.Forall₂ (Token.Alike T) ts us) :
    Corresponds Eq (Parameter.Alike T) (readEntry ts) (readEntry us) := by
  have hname : ∀ t u, Token.Alike T t u → isName t = isName u := by
    intro t u htoken
    rw [isName, isName, htoken.1]
  obtain ⟨hnames, hbehind⟩ := forall₂_span hname h
  have hwidth := readWidth_alike hbehind
  have hreverse := List.rel_reverse hnames
  rw [readEntry, readEntry]
  generalize (ts.takeWhile isName).reverse = names at hreverse
  generalize (us.takeWhile isName).reverse = names' at hreverse
  cases hreverse with
  | nil => exact .error rfl
  | cons hlast hfront =>
      cases hfront with
      | nil => exact .error rfl
      | cons htype hqualifiers =>
          dsimp only
          apply Corresponds.bind hwidth
          intro width width' hsome
          refine .ok ⟨?_, htype.2, hlast.2, hsome⟩
          rw [List.forall₂_map_left_iff, List.forall₂_map_right_iff]
          exact (List.rel_reverse hqualifiers).imp fun _ _ htoken => htoken.2

theorem readEntries_alike {es es' : List (List Token)}
    (h : List.Forall₂ (List.Forall₂ (Token.Alike T)) es es') (position : Nat) :
    Corresponds Eq (List.Forall₂ (Parameter.Alike T)) (readEntries position es)
      (readEntries position es') := by
  induction h generalizing position with
  | nil => exact .ok .nil
  | @cons e e' es es' hentry _ ih =>
      rw [readEntries, readEntries]
      have hread := readEntry_alike hentry
      generalize readEntry e = x at hread
      generalize readEntry e' = y at hread
      cases hread with
      | error hfault =>
          rw [hfault]
          exact .error rfl
      | ok hp =>
          dsimp only
          have hrest := ih (position + 1)
          generalize readEntries (position + 1) es = x at hrest
          generalize readEntries (position + 1) es' = y at hrest
          cases hrest with
          | error hfailure => exact .error hfailure
          | ok hps => exact .ok (.cons hp hps)

/-- Texts with alike tokens are faulty at the same entry, or hold alike parameters. -/
theorem parseList_alike {raw raw' : Text}
    (h : List.Forall₂ (Token.Alike T) (Token.ofText raw) (Token.ofText raw')) :
    Corresponds Eq (List.Forall₂ (Parameter.Alike T)) (parseList raw) (parseList raw') := by
  have habsorbed := Token.Alike.absorbComments h [] []
  rw [parseList, parseList]
  generalize Token.absorbComments [] (Token.ofText raw) = ts at habsorbed
  generalize Token.absorbComments [] (Token.ofText raw') = us at habsorbed
  cases habsorbed with
  | nil => exact .ok .nil
  | cons hfirst hmore => exact readEntries_alike (splitEntries_alike (.cons hfirst hmore)) 1

end Parameter

end

end RpcDispatch
