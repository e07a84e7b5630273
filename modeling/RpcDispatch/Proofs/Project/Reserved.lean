import Mathlib.Data.List.DropRight
import RpcDispatch.Project.Selection
import RpcDispatch.Proofs.Lexing.LetterCase
import RpcDispatch.Proofs.Pattern.Words

/-!
# Names that are reserved for generated files

The default exclude expression asks for a name behind the start or a separator and for the end of
the text behind it. No separator is part of the name, so it matches a path if and only if the last
name of the path is reserved, in any letter case.
-/

namespace RpcDispatch

theorem CharClass.contains_single {c x : Char} : (single c).contains x = true ↔ x = c := by
  rw [← Char.toNat_inj]
  simp only [single, contains, CodeRun.contains, List.any_cons, List.any_nil, Bool.or_false,
    Bool.and_eq_true, decide_eq_true_eq, beq_iff_eq]
  omega

namespace Text

variable {t w : Text}

/-! ## Last names -/

def lastName (t : Text) : Text := t.rtakeWhile (· ≠ '/')

theorem lastName_of_notMem (h : '/' ∉ w) : lastName w = w := by
  rw [lastName, List.rtakeWhile_eq_self_iff]
  intro x hx
  have hne : x ≠ '/' := fun heq => h (heq ▸ hx)
  exact decide_eq_true hne

theorem lastName_append (s : Text) (h : '/' ∉ w) : lastName (s ++ '/' :: w) = w := by
  have hself := lastName_of_notMem h
  rw [lastName, List.rtakeWhile, List.reverse_eq_iff] at hself ⊢
  rw [List.reverse_append, List.reverse_cons, List.append_assoc, List.takeWhile_append, hself,
    if_pos rfl]
  simp

theorem slash_notMem_lastName (t : Text) : '/' ∉ lastName t := by
  intro h
  have hne := List.mem_rtakeWhile_imp h
  simp at hne

/-- A text is its last name, or has it behind a separator. -/
theorem eq_lastName_or (t : Text) : t = lastName t ∨ ∃ s, t = s ++ '/' :: lastName t := by
  induction t using List.reverseRecOn with
  | nil => exact .inl rfl
  | append_singleton t c ih =>
      by_cases hc : c = '/'
      · right
        rw [lastName, List.rtakeWhile_concat_neg _ _ _ (by simpa using hc), hc]
        exact ⟨t, rfl⟩
      · rw [lastName, List.rtakeWhile_concat_pos _ _ _ (by simpa using hc)]
        rcases ih with ht | ⟨s, hs⟩
        · exact .inl (congrArg (· ++ [c]) ht)
        · right
          refine ⟨s, ?_⟩
          rw [← List.cons_append, ← List.append_assoc]
          exact congrArg (· ++ [c]) hs

/-! ## Reserved names -/

/-- The name is `rpc.axi`, `rpc-X.axi` or `rpc_X.axi` up to letter case. -/
def IsReserved (name : Text) : Prop :=
  sameLetters name "rpc.axi" ∨
    ∃ mark ∈ ['-', '_'], ∃ x, sameLetters name ("rpc" ++ mark :: x ++ ".axi")

/-- What stands between `rpc` and `.axi` in a reserved name without separators. -/
def reservedMiddles : Language Char :=
  {m | m = [] ∨ ∃ mark ∈ ['-', '_'], ∃ x, '/' ∉ x ∧ m = mark :: x}

theorem slash_mem_foldCase : '/' ∈ foldCase t ↔ '/' ∈ t := by
  have hslash : ∀ c : Char, c.toLower = '/' ↔ c = '/' := toLower_eq_iff (by decide)
  simp [foldCase, hslash]

theorem foldCase_marked {mark : Char} (hmark : mark ∈ ['-', '_']) (x : Text) :
    foldCase ("rpc" ++ mark :: x ++ ".axi") = "rpc" ++ mark :: foldCase x ++ ".axi" := by
  have hfront : foldCase "rpc" = "rpc" := by decide
  have hback : foldCase ".axi" = ".axi" := by decide
  have hlower : mark.toLower = mark := by
    rcases List.mem_pair.mp hmark with rfl | rfl <;> rfl
  rw [foldCase_append, foldCase_append, foldCase_cons, hfront, hback, hlower]

theorem isReserved_iff_cut (name : Text) : name.IsReserved ↔
    sameLetters name "rpc.axi" ∨ ['-', '_'].any fun mark =>
      sameLetters name ("rpc" ++ mark :: (name.drop 4).take (name.length - 8) ++ ".axi") := by
  rw [List.any_eq_true]
  apply or_congr Iff.rfl
  refine exists_congr fun mark => and_congr_right fun hmark => ⟨?_, fun h => ⟨_, h⟩⟩
  rintro ⟨x, hx⟩
  have hlower := (beq_iff_eq.mp hx).trans (foldCase_marked hmark x)
  have hlength : name.length - 8 = (foldCase x).length := by
    have hsize : (foldCase name).length = 3 + ((foldCase x).length + 1) + 4 := by
      rw [hlower]
      simp only [List.length_append, List.length_cons]
      rfl
    rw [foldCase, List.length_map] at hsize
    omega
  have hmiddle : foldCase ((name.drop 4).take (name.length - 8)) = foldCase x := by
    rw [foldCase, List.map_take, List.map_drop, hlength]
    change ((foldCase name).drop 4).take _ = _
    rw [hlower]
    exact List.take_left
  rw [sameLetters, beq_iff_eq, foldCase_marked hmark, hmiddle]
  exact hlower

instance : DecidablePred IsReserved := fun name => decidable_of_iff _ (isReserved_iff_cut name).symm

theorem isReserved_iff (h : '/' ∉ w) :
    w.IsReserved ↔ ∃ m ∈ reservedMiddles, foldCase w = "rpc" ++ m ++ ".axi" := by
  constructor
  · rintro (hplain | ⟨mark, hmark, x, hmarked⟩)
    · have hlower : foldCase "rpc.axi" = "rpc".toList ++ [] ++ ".axi".toList := by decide
      exact ⟨[], .inl rfl, (beq_iff_eq.mp hplain).trans hlower⟩
    · have hw := (beq_iff_eq.mp hmarked).trans (foldCase_marked hmark x)
      refine ⟨mark :: foldCase x, .inr ⟨mark, hmark, foldCase x, fun hmem => ?_, rfl⟩, hw⟩
      have hslash : '/' ∈ foldCase w := by
        rw [hw]
        simp [hmem]
      exact h (slash_mem_foldCase.mp hslash)
  · rintro ⟨m, rfl | ⟨mark, hmark, x, -, rfl⟩, hw⟩
    · have hlower : "rpc".toList ++ [] ++ ".axi".toList = foldCase "rpc.axi" := by decide
      exact .inl (beq_iff_eq.mpr (hw.trans hlower))
    · refine .inr ⟨mark, hmark, x, beq_iff_eq.mpr ?_⟩
      rw [← hw, foldCase_foldCase]

end Text

namespace Regex

open Language Text

def letter (c : Char) : Regex :=
  .chars (.runs [⟨c.toNat, c.toNat, 1⟩, ⟨c.toUpper.toNat, c.toUpper.toNat, 1⟩])

def hyphenOrUnderscore : CharClass := .union (.union .empty (.single '-')) (.single '_')

def noSeparator : CharClass := .compl (.union .empty (.single '/'))

def middle : Regex :=
  .times (.seq (.chars hyphenOrUnderscore) (.times (.chars noSeparator) 0 none)) 0 (some 1)

/-- What the default exclude expression asks for behind the start or a separator. -/
def generatedName : Regex :=
  .seq (letter 'r') <| .seq (letter 'p') <| .seq (letter 'c') <|
    .seq middle <| .seq (.chars (.single '.')) <|
      .seq (letter 'a') <| .seq (letter 'x') <| .seq (letter 'i') (.look .textEnd)

def generatedPath : Regex :=
  .seq (.alt (.look .textStart) (.chars (.single '/'))) generatedName

/-- The default exclude expression is well formed, and this is what it stands for. -/
theorem parse?_exclude : parse? ({} : ScanSettings).exclude = some generatedPath := by
  decide +kernel

/-- The words that are in the language in lower case. -/
def anyCase (l : Language Char) : Language Char := {w | foldCase w ∈ l}

theorem anyCase_mul (l l' : Language Char) : anyCase (l * l') = anyCase l * anyCase l' := by
  ext w
  constructor
  · rintro ⟨a, ha, b, hb, hab⟩
    obtain ⟨u, v, rfl, rfl, rfl⟩ := List.map_eq_append_iff.mp hab.symm
    exact append_mem_mul ha hb
  · rintro ⟨u, hu, v, hv, rfl⟩
    exact ⟨foldCase u, hu, foldCase v, hv, (foldCase_append u v).symm⟩

theorem language_chars_eq_anyCase {c : CharClass} {l : Char}
    (h : ∀ x, c.contains x = true ↔ x.toLower = l) : (chars c).language = anyCase {[l]} := by
  ext w
  constructor
  · rintro ⟨x, hx, rfl⟩
    exact congrArg (fun y => [y]) ((h x).mp hx)
  · intro hw
    obtain ⟨x, rfl, hx⟩ := List.map_eq_singleton_iff.mp hw
    exact ⟨x, (h x).mpr hx, rfl⟩

theorem contains_letter {l : Char} (hl : l ∈ ['r', 'p', 'c', 'a', 'x', 'i']) (x : Char) :
    (CharClass.runs [⟨l.toNat, l.toNat, 1⟩, ⟨l.toUpper.toNat, l.toUpper.toNat, 1⟩]).contains x =
      true ↔ x.toLower = l := by
  have hruns : (CharClass.runs
      [⟨l.toNat, l.toNat, 1⟩, ⟨l.toUpper.toNat, l.toUpper.toNat, 1⟩]).contains x = true ↔
        x = l ∨ x = l.toUpper := by
    simp only [CharClass.contains, CodeRun.contains, List.any_cons, List.any_nil, Bool.or_false,
      Bool.or_eq_true, Bool.and_eq_true, decide_eq_true_eq, beq_iff_eq, ← Char.toNat_inj]
    omega
  obtain ⟨hback, hletters⟩ : l.toUpper.toLower = l ∧
      ∀ n < 26, Char.ofNat (97 + n) = l ↔
        Char.ofNat (65 + n) = l ∨ Char.ofNat (65 + n) = l.toUpper := by
    simp only [List.mem_cons, List.not_mem_nil, or_false] at hl
    rcases hl with rfl | rfl | rfl | rfl | rfl | rfl <;> decide
  rw [hruns]
  rcases toLower_cases x with hx | ⟨n, hn, hx, hlower⟩
  · rw [hx]
    constructor
    · rintro (rfl | rfl)
      · rfl
      · exact hx.symm.trans hback
    · exact .inl
  · rw [hlower, hx]
    exact (hletters n hn).symm

theorem language_letter {l : Char} (hl : l ∈ ['r', 'p', 'c', 'a', 'x', 'i']) :
    (letter l).language = anyCase {[l]} :=
  language_chars_eq_anyCase (contains_letter hl)

theorem language_dot : (chars (.single '.')).language = anyCase {['.']} :=
  language_chars_eq_anyCase fun x =>
    CharClass.contains_single.trans (toLower_eq_iff (by decide) x).symm

theorem contains_noSeparator {x : Char} : noSeparator.contains x = true ↔ x ≠ '/' := by
  rw [noSeparator, CharClass.contains, CharClass.contains, Ne, ← CharClass.contains_single]
  simp [CharClass.empty, CharClass.contains]

theorem contains_hyphenOrUnderscore {x : Char} :
    hyphenOrUnderscore.contains x = true ↔ x ∈ ['-', '_'] := by
  rw [hyphenOrUnderscore, CharClass.contains, CharClass.contains, Bool.or_eq_true, Bool.or_eq_true,
    CharClass.contains_single, CharClass.contains_single]
  simp [CharClass.empty, CharClass.contains]

theorem mem_language_middle {w : Text} : w ∈ middle.language ↔ w ∈ reservedMiddles := by
  rw [middle, language_optional, mem_add, mem_one]
  apply or_congr Iff.rfl
  rw [language, mem_mul, language_manyChars]
  constructor
  · rintro ⟨_, ⟨mark, hmark, rfl⟩, x, hx, rfl⟩
    refine ⟨mark, contains_hyphenOrUnderscore.mp hmark, x, fun hmem => ?_, rfl⟩
    exact contains_noSeparator.mp (hx _ hmem) rfl
  · rintro ⟨mark, hmark, x, hx, rfl⟩
    refine ⟨[mark], ⟨mark, contains_hyphenOrUnderscore.mpr hmark, rfl⟩, x, fun y hy => ?_, rfl⟩
    exact contains_noSeparator.mpr fun heq => hx (heq ▸ hy)

/-- Neither marks nor separators have a letter case. -/
theorem foldCase_mem_reservedMiddles {w : Text} :
    foldCase w ∈ reservedMiddles ↔ w ∈ reservedMiddles := by
  have hhyphen : ∀ c : Char, c.toLower = '-' ↔ c = '-' := toLower_eq_iff (by decide)
  have hunderscore : ∀ c : Char, c.toLower = '_' ↔ c = '_' := toLower_eq_iff (by decide)
  have hmark (c : Char) : c.toLower ∈ ['-', '_'] ↔ c ∈ ['-', '_'] := by
    simp only [List.mem_cons, List.not_mem_nil, or_false, hhyphen, hunderscore]
  constructor
  · rintro (hw | ⟨mark, hmem, x, hx, hw⟩)
    · exact .inl (List.map_eq_nil_iff.mp hw)
    · obtain ⟨c, y, rfl, rfl, rfl⟩ := List.map_eq_cons_iff.mp hw
      exact .inr ⟨c, (hmark c).mp hmem, y, mt slash_mem_foldCase.mpr hx, rfl⟩
  · rintro (rfl | ⟨mark, hmem, x, hx, rfl⟩)
    · exact .inl rfl
    · exact .inr ⟨mark.toLower, (hmark mark).mpr hmem, foldCase x, mt slash_mem_foldCase.mp hx, rfl⟩

theorem language_middle : middle.language = anyCase reservedMiddles := by
  ext w
  exact mem_language_middle.trans foldCase_mem_reservedMiddles.symm

def generatedWords : Language Char :=
  anyCase ({"rpc".toList} * reservedMiddles * {".axi".toList})

theorem finishes_generatedName : generatedName.Finishes generatedWords := by
  have hsplit (u v : Text) : ({u ++ v} : Language Char) = {u} * {v} :=
    Set.image2_singleton.symm
  have hfront : ({"rpc".toList} : Language Char) = {['r']} * ({['p']} * {['c']}) := by
    rw [← hsplit, ← hsplit]
    rfl
  have hback : ({".axi".toList} : Language Char) = {['.']} * ({['a']} * ({['x']} * {['i']})) := by
    rw [← hsplit, ← hsplit, ← hsplit]
    rfl
  have hlanguage : generatedWords = (letter 'r').language * ((letter 'p').language *
      ((letter 'c').language * (middle.language * ((chars (.single '.')).language *
        ((letter 'a').language * ((letter 'x').language * ((letter 'i').language * 1))))))) := by
    rw [language_letter (by decide), language_letter (by decide), language_letter (by decide),
      language_middle, language_dot, language_letter (by decide), language_letter (by decide),
      language_letter (by decide), mul_one]
    simp only [generatedWords, hfront, hback, anyCase_mul, mul_assoc]
  have hletter (c : Char) : (letter c).IsPlain := trivial
  have hdot : (chars (.single '.')).IsPlain := trivial
  have hmiddle : middle.IsPlain := ⟨trivial, trivial⟩
  rw [hlanguage]
  exact (((((((finishes_textEnd.seq (hletter 'i')).seq (hletter 'x')).seq (hletter 'a')).seq
    hdot).seq hmiddle).seq (hletter 'c')).seq (hletter 'p')).seq (hletter 'r')

theorem mem_generatedWords {w : Text} :
    w ∈ generatedWords ↔ ∃ m ∈ reservedMiddles, foldCase w = "rpc" ++ m ++ ".axi" := by
  constructor
  · rintro ⟨_, ⟨_, rfl, m, hm, rfl⟩, _, rfl, hw⟩
    exact ⟨m, hm, hw.symm⟩
  · rintro ⟨m, hm, hw⟩
    exact ⟨_, ⟨_, rfl, m, hm, rfl⟩, _, rfl, hw.symm⟩

/-- A name that is matched does not reach across a separator. -/
theorem slash_notMem_of_mem_generatedWords {w : Text} (h : w ∈ generatedWords) : '/' ∉ w := by
  obtain ⟨m, hm, hw⟩ := mem_generatedWords.mp h
  rw [← slash_mem_foldCase, hw]
  rcases hm with rfl | ⟨mark, hmark, x, hx, rfl⟩
  · decide
  · have hne : '/' ≠ mark := by
      rintro rfl
      revert hmark
      decide
    simp [hne, hx]

/-- A path is excluded by default if and only if its last name is reserved. -/
theorem isMatch_generatedPath_iff {t : Text} :
    generatedPath.isMatch t = true ↔ (lastName t).IsReserved := by
  have hwords (w : Text) : w ∈ generatedWords ↔ '/' ∉ w ∧ w.IsReserved := by
    refine (and_iff_right_of_imp slash_notMem_of_mem_generatedWords).symm.trans ?_
    exact and_congr_right fun h => mem_generatedWords.trans (isReserved_iff h).symm
  rw [isMatch_iff]
  constructor
  · rintro ⟨⟨before, s⟩, q, ⟨pre, ht, hbefore⟩, m, hstart, hname⟩
    rcases hstart with ⟨hfirst, rfl⟩ | ⟨x, hnext, hx⟩
    · -- the name is the whole text
      obtain ⟨hslash, hreserved⟩ := (hwords s).mp ((finishes_generatedName before s).mp ⟨q, hname⟩)
      have hpre : pre = [] := by
        rw [Look.holds, hbefore, Option.isNone_iff_eq_none, List.getLast?_eq_none_iff] at hfirst
        exact hfirst
      rw [ht, hpre, List.nil_append, lastName_of_notMem hslash]
      exact hreserved
    · obtain rfl := CharClass.contains_single.mp hx
      obtain ⟨before', w⟩ := m
      obtain ⟨hslash, hreserved⟩ := (hwords w).mp ((finishes_generatedName before' w).mp ⟨q, hname⟩)
      rw [ht, (Place.next?_eq_some.mp hnext).1, lastName_append pre hslash]
      exact hreserved
  · intro hreserved
    have hword := (hwords (lastName t)).mpr ⟨slash_notMem_lastName t, hreserved⟩
    rcases eq_lastName_or t with ht | ⟨s, hs⟩
    · obtain ⟨q, hq⟩ := (finishes_generatedName none (lastName t)).mpr hword
      exact ⟨⟨none, lastName t⟩, q, ⟨[], ht, rfl⟩, _, .inl ⟨rfl, rfl⟩, hq⟩
    · obtain ⟨q, hq⟩ := (finishes_generatedName (some '/') (lastName t)).mpr hword
      exact ⟨⟨s.getLast?, '/' :: lastName t⟩, q, ⟨s, hs, rfl⟩, _,
        .inr ⟨'/', rfl, CharClass.contains_single.mpr rfl⟩, hq⟩

end Regex

end RpcDispatch
