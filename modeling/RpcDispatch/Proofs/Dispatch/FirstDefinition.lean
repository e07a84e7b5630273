import RpcDispatch.Dispatch.Session
import RpcDispatch.Proofs.Dispatch.Validation

/-!
# The first definition of a name decides

One registry passes through all files. It always holds exactly the names of the signatures that
were read, so a signature is a duplicate if and only if an earlier one, in any file, has its name
up to letter case; all other outcomes depend on the signature alone.
-/

namespace RpcDispatch

/-! ## The registry -/

/-- A signature among those read before has this name, up to letter case. -/
def Signature.Repeats (s : Signature) (before : List Signature) : Prop :=
  ∃ e ∈ before, Text.lower e.name = Text.lower s.name

/-- The registry holds exactly the names of the signatures read so far. -/
def Registry.Holds (r : Registry) (read : List Signature) : Prop :=
  ∀ name, name ∈ r.names ↔ ∃ s ∈ read, Text.lower s.name = name

namespace Registry

theorem holds_empty : empty.Holds [] := by
  intro name
  simp [empty]

/-- The registry refuses a name exactly if an earlier signature has it, in any letter case. -/
theorem Holds.claims_iff {r : Registry} {read : List Signature} (h : r.Holds read)
    (s : Signature) : r.claims s.name = true ↔ s.Repeats read := by
  rw [claims, List.contains_iff_mem]
  exact h _

theorem Holds.claim {r : Registry} {read : List Signature} (h : r.Holds read) (s : Signature) :
    (r.claim s.name).2.Holds (read ++ [s]) := by
  intro name
  rw [Registry.claim]
  split
  next hc =>
    -- The name is held already, so the registry stays and still covers `s`.
    obtain ⟨e, he, hname⟩ := (h.claims_iff s).mp hc
    rw [h name]
    constructor
    · rintro ⟨t, ht, rfl⟩
      exact ⟨t, List.mem_append_left _ ht, rfl⟩
    · rintro ⟨t, ht, rfl⟩
      rcases List.mem_append.mp ht with ht | ht
      · exact ⟨t, ht, rfl⟩
      · rw [List.mem_singleton.mp ht]
        exact ⟨e, he, hname⟩
  next =>
    rw [insert, List.mem_cons, h name]
    constructor
    · rintro (rfl | ⟨t, ht, rfl⟩)
      · exact ⟨s, by simp, rfl⟩
      · exact ⟨t, List.mem_append_left _ ht, rfl⟩
    · rintro ⟨t, ht, rfl⟩
      rcases List.mem_append.mp ht with ht | ht
      · exact .inr ⟨t, ht, rfl⟩
      · rw [List.mem_singleton.mp ht]
        exact .inl rfl

end Registry

namespace Signature

theorem validate_snd (s : Signature) (r : Registry) : (s.validate r).2 = (r.claim s.name).2 := by
  rw [validate]
  split <;> simp_all

theorem validate_of_repeats {s : Signature} {r : Registry} {read : List Signature}
    (h : r.Holds read) (hs : s.Repeats read) : (s.validate r).1 = .error .duplicateName := by
  rw [validate, Registry.claim, if_pos ((h.claims_iff s).mpr hs)]

theorem validate_of_not_repeats {s : Signature} {r : Registry} {read : List Signature}
    (h : r.Holds read) (hs : ¬ s.Repeats read) : (s.validate r).1 = s.resolve := by
  rw [validate, Registry.claim, if_neg fun hc => hs ((h.claims_iff s).mp hc)]

end Signature

/-! ## One entry -/

/-- What the table holds for a signature, given the signatures before it. -/
structure Signature.Settles (s : Signature) (before : List Signature) (f : Fragment) : Prop where
  duplicate : f = .skip s.rawParams .duplicateName ↔ s.Repeats before
  branch : ∀ resolved, f = .branch resolved ↔
    ¬ s.Repeats before ∧ ∃ ps, s.Accepts ps ∧ resolved = s.accepted ps
  refused : ∀ rawParams reason, f = .skip rawParams reason ∧ reason ≠ .duplicateName ↔
    ¬ s.Repeats before ∧ s.RefusedFor reason ∧ rawParams = s.rawParams

theorem Signature.RefusedFor.ne_duplicateName {s : Signature} {r : SkipReason}
    (h : s.RefusedFor r) : r ≠ .duplicateName := by
  cases h <;> simp

/-- The entry of a signature, where the registry holds what was read before it. -/
theorem Signature.settles_of_holds (s : Signature) {r : Registry} {before : List Signature}
    (h : r.Holds before) :
    s.Settles before (DispatchEntry.ofOutcome s (s.validate r).1).fragment := by
  by_cases hs : s.Repeats before
  · rw [validate_of_repeats h hs]
    refine ⟨by simp [DispatchEntry.ofOutcome, hs], ?_, ?_⟩
    · intro resolved
      simp [DispatchEntry.ofOutcome, hs]
    · intro rawParams reason
      simp [DispatchEntry.ofOutcome, hs, eq_comm]
  · rw [validate_of_not_repeats h hs]
    rcases s.accepts_or_refusedFor with ⟨ps, hps⟩ | ⟨reason, hr⟩
    · have hres := resolve_of_accepts hps
      refine ⟨by simp [DispatchEntry.ofOutcome, hres, hs], ?_, ?_⟩
      · intro resolved
        rw [← resolve_eq_ok, hres]
        simp [DispatchEntry.ofOutcome, hs]
      · intro rawParams reason
        rw [← resolve_eq_error, hres]
        simp [DispatchEntry.ofOutcome]
    · have hres := resolve_of_refusedFor hr
      have hne := hr.ne_duplicateName
      refine ⟨by simp [DispatchEntry.ofOutcome, hres, hs, hne], ?_, ?_⟩
      · intro resolved
        rw [← resolve_eq_ok, hres]
        simp [DispatchEntry.ofOutcome]
      · intro rawParams other
        rw [← resolve_eq_error, hres]
        simp only [DispatchEntry.ofOutcome, Fragment.skip.injEq, hs, not_false_eq_true, true_and,
          Except.error.injEq]
        constructor
        · rintro ⟨⟨rfl, rfl⟩, -⟩
          exact ⟨rfl, rfl⟩
        · rintro ⟨rfl, rfl⟩
          exact ⟨⟨rfl, rfl⟩, hne⟩

/-! ## The whole table -/

namespace DispatchTable

theorem entriesOf_cons (s : Signature) (ss : List Signature) (r : Registry) :
    entriesOf (s :: ss) r =
      (DispatchEntry.ofOutcome s (s.validate r).1 :: (entriesOf ss (s.validate r).2).1,
        (entriesOf ss (s.validate r).2).2) := rfl

theorem sectionsOf_cons (d : DisplayedScan) (ds : List DisplayedScan) (r : Registry) :
    sectionsOf (d :: ds) r =
      ⟨d.display, (entriesOf d.scan.signatures r).1⟩ ::
        sectionsOf ds (entriesOf d.scan.signatures r).2 := rfl

/-- The second list is entered with the registry that the first one leaves. -/
theorem entriesOf_append (ss ts : List Signature) (r : Registry) :
    entriesOf (ss ++ ts) r =
      ((entriesOf ss r).1 ++ (entriesOf ts (entriesOf ss r).2).1,
        (entriesOf ts (entriesOf ss r).2).2) := by
  induction ss generalizing r with
  | nil => rfl
  | cons s ss ih =>
      rw [List.cons_append, entriesOf_cons, entriesOf_cons, ih]
      rfl

theorem length_entriesOf (ss : List Signature) (r : Registry) :
    (entriesOf ss r).1.length = ss.length := by
  induction ss generalizing r with
  | nil => rfl
  | cons s ss ih =>
      rw [entriesOf_cons, List.length_cons, List.length_cons, ih]

/-- Sections do not matter to the entries: they are those of all signatures in a row. -/
theorem entries_sectionsOf (ds : List DisplayedScan) (r : Registry) :
    (sectionsOf ds r).flatMap (·.entries) =
      (entriesOf (ds.flatMap (·.scan.signatures)) r).1 := by
  induction ds generalizing r with
  | nil => rfl
  | cons d ds ih =>
      rw [sectionsOf_cons, List.flatMap_cons, List.flatMap_cons, entriesOf_append, ih]

theorem sections_sectionsOf (ds : List DisplayedScan) (r : Registry) :
    (sectionsOf ds r).map (fun f => (f.path, f.entries.length)) =
      ds.map fun d => (d.display, d.scan.signatures.length) := by
  induction ds generalizing r with
  | nil => rfl
  | cons d ds ih =>
      rw [sectionsOf_cons, List.map_cons, List.map_cons, ih, length_entriesOf]

/-- The registry that meets a signature holds the signatures before it. -/
theorem getElem?_entriesOf {ss read : List Signature} {r : Registry} (h : r.Holds read) {i : Nat}
    {s : Signature} (hs : ss[i]? = some s) :
    ∃ r' : Registry, r'.Holds (read ++ ss.take i) ∧
      (entriesOf ss r).1[i]? = some (DispatchEntry.ofOutcome s (s.validate r').1) := by
  induction ss generalizing read r i with
  | nil => cases hs
  | cons t ss ih =>
      rw [entriesOf_cons]
      cases i with
      | zero =>
          obtain rfl := Option.some.inj hs
          exact ⟨r, by simpa using h, rfl⟩
      | succ i =>
          have hnext : (t.validate r).2.Holds (read ++ [t]) := by
            rw [Signature.validate_snd]
            exact h.claim t
          obtain ⟨r', hr', he⟩ := ih hnext hs
          refine ⟨r', ?_, he⟩
          rwa [List.append_assoc] at hr'

end DispatchTable

def DispatchEntry.key? (e : DispatchEntry) : Option Text :=
  match e.fragment with
  | .branch f => some (Text.lower f.name)
  | .skip _ _ => none

def DispatchTable.keys (t : DispatchTable) : List Text := t.entries.filterMap (·.key?)

namespace Session

def signatures (session : Session) : List Signature :=
  session.scans.flatMap (·.scan.signatures)

theorem entries_table (session : Session) :
    session.table.entries = (DispatchTable.entriesOf session.signatures .empty).1 :=
  DispatchTable.entries_sectionsOf session.scans .empty

theorem length_entries_table (session : Session) :
    session.table.entries.length = session.signatures.length := by
  rw [entries_table, DispatchTable.length_entriesOf]

theorem settles (session : Session) {i : Nat} {s : Signature}
    (hs : session.signatures[i]? = some s) :
    ∃ f, session.table.entries[i]? = some ⟨s.name, f⟩ ∧
      s.Settles (session.signatures.take i) f := by
  obtain ⟨r, hr, he⟩ := DispatchTable.getElem?_entriesOf Registry.holds_empty hs
  rw [List.nil_append] at hr
  refine ⟨_, ?_, s.settles_of_holds hr⟩
  rw [entries_table, he]
  cases (s.validate r).1 <;> rfl

/-- A key of the table belongs to a signature that is the first of its name and is accepted. -/
theorem of_key?_eq_some (session : Session) {i : Nat} {e : DispatchEntry} {key : Text}
    (he : session.table.entries[i]? = some e) (hk : e.key? = some key) :
    ∃ s, session.signatures[i]? = some s ∧ Text.lower s.name = key ∧
      ¬ s.Repeats (session.signatures.take i) ∧ ∃ ps, s.Accepts ps := by
  have hi : i < session.signatures.length := by
    rw [← length_entries_table]
    exact (List.getElem?_eq_some_iff.mp he).1
  have hs : session.signatures[i]? = some session.signatures[i] := List.getElem?_eq_getElem hi
  obtain ⟨f, hf, hsettles⟩ := session.settles hs
  rw [he] at hf
  obtain rfl := Option.some.inj hf
  cases f with
  | skip rawParams reason => cases hk
  | branch resolved =>
      obtain ⟨hfirst, ps, hps, rfl⟩ := (hsettles.branch resolved).mp rfl
      exact ⟨_, hs, Option.some.inj hk, hfirst, ps, hps⟩

theorem repeats_of_lt (session : Session) {i j : Nat} {s t : Signature} (hij : i < j)
    (hs : session.signatures[i]? = some s) (ht : Text.lower s.name = Text.lower t.name) :
    t.Repeats (session.signatures.take j) := by
  refine ⟨s, ?_, ht⟩
  rw [List.mem_iff_getElem?]
  exact ⟨i, by rw [List.getElem?_take_of_lt hij, hs]⟩

/-- No two branches answer to one message name. -/
theorem nodup_keys (session : Session) : session.table.keys.Nodup := by
  rw [DispatchTable.keys, List.Nodup, List.pairwise_filterMap, List.pairwise_iff_getElem]
  intro i j hi hj hij k hk k' hk' heq
  obtain ⟨s, hs, hname, -, -⟩ :=
    session.of_key?_eq_some (List.getElem?_eq_getElem hi) hk
  obtain ⟨t, ht, hname', hfirst, -⟩ :=
    session.of_key?_eq_some (List.getElem?_eq_getElem hj) hk'
  apply hfirst
  exact session.repeats_of_lt hij hs (by rw [hname, hname', heq])

/-- A name whose first definition is refused has no branch: later definitions of it repeat it. -/
theorem not_mem_keys (session : Session) {i : Nat} {s : Signature} {reason : SkipReason}
    (hs : session.signatures[i]? = some s) (hfirst : ¬ s.Repeats (session.signatures.take i))
    (hr : s.RefusedFor reason) : Text.lower s.name ∉ session.table.keys := by
  intro hmem
  rw [DispatchTable.keys, List.mem_filterMap] at hmem
  obtain ⟨e, he, hk⟩ := hmem
  obtain ⟨j, hj⟩ := List.mem_iff_getElem?.mp he
  obtain ⟨t, ht, hname, hfirst', ps, hps⟩ := session.of_key?_eq_some hj hk
  rcases Nat.lt_trichotomy i j with hij | rfl | hji
  · exact hfirst' (session.repeats_of_lt hij hs hname.symm)
  · rw [hs] at ht
    obtain rfl := Option.some.inj ht
    have hok := Signature.resolve_of_accepts hps
    rw [Signature.resolve_of_refusedFor hr] at hok
    cases hok
  · exact hfirst (session.repeats_of_lt hji ht hname)

/-- Every signature of a session has one entry, in order. It is a duplicate if and only if an
earlier signature has its name, a branch if and only if it is the first of its name and accepted,
and refused on its first ground otherwise. So no two branches answer to one name, and a name
whose first definition is refused has none. -/
theorem table_settles (session : Session) :
    (session.table.sections.map fun f => (f.path, f.entries.length)) =
        (session.scans.map fun d => (d.display, d.scan.signatures.length)) ∧
      (∀ (i : Nat) (s : Signature), session.signatures[i]? = some s →
        ∃ f, session.table.entries[i]? = some ⟨s.name, f⟩ ∧
          s.Settles (session.signatures.take i) f) ∧
      (∀ message, session.table.keys.count (Text.lower message) ≤ 1) ∧
      ∀ (i : Nat) (s : Signature) (reason : SkipReason), session.signatures[i]? = some s →
        ¬ s.Repeats (session.signatures.take i) → s.RefusedFor reason →
        session.table.keys.count (Text.lower s.name) = 0 := by
  refine ⟨DispatchTable.sections_sectionsOf session.scans .empty, ?_, ?_, ?_⟩
  · intro i s hs
    exact session.settles hs
  · intro message
    exact List.nodup_iff_count.mp session.nodup_keys _
  · intro i s reason hs hfirst hr
    exact List.count_eq_zero.mpr (session.not_mem_keys hs hfirst hr)

end Session

end RpcDispatch
