import Mathlib.Data.List.Induction
import RpcDispatch.Project.Scan

/-!
# Guards

A change of the phase or of the file makes a guard, which puts back both as they were. If every
guard is dropped after all that were made during its life, the context shows at any moment the
changes whose guards are alive, the latest on top, and at the end of the run only the progress has
changed.
-/

namespace RpcDispatch

/-! ## Calls -/

inductive Change where
  | phase (p : Phase)
  | file (f : Path)
deriving DecidableEq

namespace Change

def apply (c : Context) : Change → Context
  | phase p => c.setPhase p
  | file f => c.setFile f

/-- Phase and file with the change on top of them. -/
def onTopOf (g : Guard) : Change → Guard
  | phase p => { g with phase := some p }
  | file f => { g with file := some f }

theorem guard_apply (change : Change) (c : Context) :
    (change.apply c).guard = change.onTopOf c.guard := by
  cases change <;> rfl

end Change

inductive Call where
  /-- Makes a guard. Guards are numbered as they are made. -/
  | enter (change : Change)
  | progress (scanned total : Nat)
  | drop (guard : Nat)
deriving DecidableEq

namespace Call

def change? : Call → Option Change
  | enter change => some change
  | _ => none

def progress? : Call → Option (Nat × Nat)
  | progress scanned total => some (scanned, total)
  | _ => none

end Call

/-- A context, and all guards that have been made. -/
structure Guarded where
  context : Context
  guards : List Guard

namespace Guarded

def step (s : Guarded) : Call → Guarded
  | .enter change => ⟨change.apply s.context, s.guards ++ [s.context.guard]⟩
  | .progress scanned total => { s with context := s.context.setProgress scanned total }
  | .drop n => { s with context := s.guards[n]?.elim s.context s.context.restore }

def run (s : Guarded) (calls : List Call) : Guarded := calls.foldl step s

theorem run_append (s : Guarded) (xs ys : List Call) : s.run (xs ++ ys) = (s.run xs).run ys :=
  List.foldl_append

/-- Guards are only added at the end of the list, so each keeps its index. -/
theorem guards_prefix_run (s : Guarded) (calls : List Call) :
    s.guards <+: (s.run calls).guards := by
  induction calls generalizing s with
  | nil => exact List.prefix_refl _
  | cons call calls ih =>
      refine List.IsPrefix.trans ?_ (ih (s.step call))
      cases call with
      | enter change => exact List.prefix_append _ _
      | progress => exact List.prefix_refl _
      | drop => exact List.prefix_refl _

end Guarded

/-! ## Nested runs -/

section

variable {calls : List Call} {n : Nat}

def changesOf (calls : List Call) : List Change := calls.filterMap Call.change?

/-- So far each guard was dropped at most once, and after all that were made during its life. -/
inductive Nests : List Call → Prop
  | nil : Nests []
  | enter {calls : List Call} {change : Change} : Nests calls → Nests (calls ++ [.enter change])
  | progress {calls : List Call} {scanned total : Nat} : Nests calls →
      Nests (calls ++ [.progress scanned total])
  | drop {calls : List Call} {n : Nat} : Nests calls → n < (changesOf calls).length →
      .drop n ∉ calls → (∀ m < (changesOf calls).length, n < m → .drop m ∈ calls) →
      Nests (calls ++ [.drop n])

/-- A nested run that has come to its end: all guards have been dropped. -/
structure IsNested (calls : List Call) : Prop where
  nests : Nests calls
  dropped : ∀ n < (changesOf calls).length, .drop n ∈ calls

theorem changesOf_append (xs ys : List Call) :
    changesOf (xs ++ ys) = changesOf xs ++ changesOf ys :=
  List.filterMap_append

@[simp] theorem changesOf_enter (calls : List Call) (change : Change) :
    changesOf (calls ++ [.enter change]) = changesOf calls ++ [change] :=
  changesOf_append calls _

@[simp] theorem changesOf_progress (calls : List Call) (scanned total : Nat) :
    changesOf (calls ++ [.progress scanned total]) = changesOf calls := by
  rw [changesOf_append]
  exact List.append_nil _

@[simp] theorem changesOf_drop (calls : List Call) (n : Nat) :
    changesOf (calls ++ [.drop n]) = changesOf calls := by
  rw [changesOf_append]
  exact List.append_nil _

theorem Nests.of_append {xs ys : List Call} (h : Nests (xs ++ ys)) : Nests xs := by
  induction ys using List.reverseRecOn with
  | nil => rwa [List.append_nil] at h
  | append_singleton ys y ih =>
      apply ih
      rw [← List.append_assoc] at h
      generalize hcalls : xs ++ ys ++ [y] = calls at h
      cases h with
      | nil => simp at hcalls
      | enter h | progress h | drop h =>
          obtain ⟨rfl, -⟩ := List.append_inj' hcalls rfl
          exact h

theorem Nests.lt_of_mem (h : Nests calls) (hn : .drop n ∈ calls) :
    n < (changesOf calls).length := by
  induction h with
  | nil => cases hn
  | enter _ ih =>
      rw [changesOf_enter, List.length_append]
      apply Nat.lt_add_right
      exact ih (by simpa using hn)
  | progress _ ih =>
      rw [changesOf_progress]
      exact ih (by simpa using hn)
  | drop _ hlt _ _ ih =>
      rw [changesOf_drop]
      rcases List.mem_append.mp hn with hn | hn
      · exact ih hn
      · obtain rfl : n = _ := by simpa using hn
        exact hlt

/-! ## What the context shows -/

/-- Among the first `n` changes, those whose guards are alive. -/
def changesAlive (calls : List Call) (n : Nat) : List Change :=
  (((changesOf calls).take n).zipIdx.filter fun p => .drop p.2 ∉ calls).map Prod.fst

/-- Phase and file of the start, and on top of them the changes that are alive. -/
def shownBy (start : Guard) (calls : List Call) (n : Nat) : Guard :=
  (changesAlive calls n).foldl Change.onTopOf start

/-- Calls that drop none of the first guards leave alone what is alive of the first changes. -/
theorem changesAlive_append (ys : List Call) (hn : n ≤ (changesOf calls).length)
    (hys : ∀ m < n, .drop m ∉ ys) : changesAlive (calls ++ ys) n = changesAlive calls n := by
  have htake : (changesOf (calls ++ ys)).take n = (changesOf calls).take n := by
    rw [changesOf_append, List.take_append_of_le_length hn]
  rw [changesAlive, changesAlive, htake]
  congr 1
  apply List.filter_congr
  rintro ⟨change, m⟩ hm
  have hlt : m < n := by
    obtain ⟨-, hlt, -⟩ := List.mem_zipIdx hm
    rw [List.length_take] at hlt
    omega
  simp [hys m hlt]

/-- What the first `n` guards show does not change until one of them is dropped. -/
theorem shownBy_append {start : Guard} (ys : List Call) (hn : n ≤ (changesOf calls).length)
    (hys : ∀ m < n, .drop m ∉ ys) : shownBy start (calls ++ ys) n = shownBy start calls n := by
  rw [shownBy, changesAlive_append ys hn hys, shownBy]

theorem changesAlive_enter (h : Nests calls) (change : Change) :
    changesAlive (calls ++ [.enter change]) ((changesOf calls).length + 1) =
      changesAlive calls (changesOf calls).length ++ [change] := by
  have hnew : .drop (changesOf calls).length ∉ calls :=
    fun hmem => Nat.lt_irrefl _ (h.lt_of_mem hmem)
  have htake : (changesOf calls ++ [change]).take ((changesOf calls).length + 1) =
      changesOf calls ++ [change] := List.take_of_length_le (by simp)
  rw [changesAlive, changesAlive, changesOf_enter, htake, List.take_length, List.zipIdx_append]
  simp [hnew]

/-- Changes whose guards have been dropped are not alive. -/
theorem changesAlive_of_dropped {k : Nat} (hk : n ≤ k)
    (h : ∀ m, n ≤ m → m < k → .drop m ∈ calls) : changesAlive calls k = changesAlive calls n := by
  obtain ⟨d, rfl⟩ := Nat.exists_eq_add_of_le hk
  rw [changesAlive, changesAlive, List.take_add, List.zipIdx_append, List.filter_append]
  refine congrArg (List.map Prod.fst) (List.append_right_eq_self.mpr ?_)
  rw [List.filter_eq_nil_iff]
  rintro ⟨change, m⟩ hm
  obtain ⟨hle, hlt, -⟩ := List.mem_zipIdx hm
  simp only [List.length_take, List.length_drop] at hle hlt
  have hmem := h m (by omega) (by omega)
  simp [hmem]

/-- The context shows the changes that are alive, and every guard alive remembers what was shown
when it was made. -/
structure Shows (start : Guard) (calls : List Call) (s : Guarded) : Prop where
  length : s.guards.length = (changesOf calls).length
  context : s.context.guard = shownBy start calls (changesOf calls).length
  guards : ∀ n, n < (changesOf calls).length → .drop n ∉ calls →
    s.guards[n]? = some (shownBy start calls n)

namespace Shows

variable {start : Guard} {s : Guarded}

theorem enter (h : Shows start calls s) (hn : Nests calls) (change : Change) :
    Shows start (calls ++ [.enter change]) (s.step (.enter change)) := by
  have hlength : (changesOf (calls ++ [.enter change])).length = (changesOf calls).length + 1 := by
    rw [changesOf_enter, List.length_append]
    rfl
  refine ⟨?_, ?_, fun m hm halive => ?_⟩
  · rw [hlength, ← h.length]
    exact List.length_append
  · rw [hlength, shownBy, changesAlive_enter hn, List.foldl_append, ← shownBy, ← h.context]
    exact change.guard_apply s.context
  · rw [hlength] at hm
    rw [shownBy_append _ (Nat.le_of_lt_succ hm) (by simp)]
    rcases Nat.lt_succ_iff_lt_or_eq.mp hm with hm | rfl
    · have hguard := h.guards m hm (by simpa using halive)
      exact (List.getElem?_append_left (by rw [h.length]; exact hm)).trans hguard
    · rw [← h.context, ← h.length]
      exact List.getElem?_concat_length

/-- The progress is no part of what a guard remembers. -/
theorem progress (h : Shows start calls s) (scanned total : Nat) :
    Shows start (calls ++ [.progress scanned total]) (s.step (.progress scanned total)) := by
  have hchanges := changesOf_progress calls scanned total
  refine ⟨?_, ?_, fun m hm halive => ?_⟩
  · rw [hchanges]
    exact h.length
  · rw [hchanges, shownBy_append _ (Nat.le_refl _) (by simp)]
    exact h.context
  · rw [hchanges] at hm
    rw [shownBy_append _ (Nat.le_of_lt hm) (by simp)]
    exact h.guards m hm (by simpa using halive)

/-- The guard dropped is the last one alive, so what was shown when it was made shows again. -/
theorem drop (h : Shows start calls s) (hlt : n < (changesOf calls).length)
    (halive : .drop n ∉ calls)
    (hlater : ∀ m < (changesOf calls).length, n < m → .drop m ∈ calls) :
    Shows start (calls ++ [.drop n]) (s.step (.drop n)) := by
  have hchanges := changesOf_drop calls n
  -- what is below the guard dropped stays
  have hold {m : Nat} (hm : m ≤ n) :
      shownBy start (calls ++ [.drop n]) m = shownBy start calls m := by
    refine shownBy_append _ (Nat.le_trans hm (Nat.le_of_lt hlt)) fun k hk hmem => ?_
    obtain rfl : k = n := by simpa using hmem
    omega
  have hdropped : ∀ m, n ≤ m → m < (changesOf calls).length → .drop m ∈ calls ++ [.drop n] := by
    intro m hle hm
    rcases Nat.eq_or_lt_of_le hle with rfl | hlt
    · simp
    · exact List.mem_append_left _ (hlater m hm hlt)
  have hguard : s.guards[n]? = some (shownBy start calls n) := h.guards n hlt halive
  refine ⟨?_, ?_, fun m hm halive' => ?_⟩
  · rw [hchanges]
    exact h.length
  · rw [hchanges, shownBy, changesAlive_of_dropped (Nat.le_of_lt hlt) hdropped, ← shownBy,
      hold (Nat.le_refl n)]
    rw [Guarded.step, hguard]
    rfl
  · rw [hchanges] at hm
    have hmn : m < n := by
      by_contra hle
      exact halive' (hdropped m (Nat.le_of_not_lt hle) hm)
    rw [hold (Nat.le_of_lt hmn)]
    exact h.guards m hm fun hmem => halive' (List.mem_append_left _ hmem)

end Shows

/-- The invariant of a nested run, call by call. -/
theorem Nests.shows (h : Nests calls) (c : Context) :
    Shows c.guard calls (Guarded.run ⟨c, []⟩ calls) := by
  induction h with
  | nil => exact ⟨rfl, rfl, fun n hn => absurd hn (Nat.not_lt_zero n)⟩
  | enter hn ih =>
      rw [Guarded.run_append]
      exact ih.enter hn _
  | progress _ ih =>
      rw [Guarded.run_append]
      exact ih.progress _ _
  | drop _ hlt halive hlater ih =>
      rw [Guarded.run_append]
      exact ih.drop hlt halive hlater

/-! ## The progress -/

def Context.progress (c : Context) : Nat × Nat := (c.scanned, c.total)

def progressAfter (start : Nat × Nat) (calls : List Call) : Nat × Nat :=
  (calls.filterMap Call.progress?).getLast?.getD start

theorem progressAfter_append (start : Nat × Nat) (xs ys : List Call) :
    progressAfter start (xs ++ ys) = progressAfter (progressAfter start xs) ys := by
  rw [progressAfter, progressAfter, progressAfter, List.filterMap_append, List.getLast?_append]
  cases (ys.filterMap Call.progress?).getLast? <;> rfl

theorem Guarded.progress_step (s : Guarded) (call : Call) :
    (s.step call).context.progress = progressAfter s.context.progress [call] := by
  cases call with
  | enter change => cases change <;> rfl
  | progress => rfl
  | drop n =>
      rw [step]
      cases s.guards[n]? <;> rfl

theorem Guarded.progress_run (s : Guarded) (calls : List Call) :
    (s.run calls).context.progress = progressAfter s.context.progress calls := by
  induction calls using List.reverseRecOn with
  | nil => rfl
  | append_singleton calls call ih =>
      rw [run_append, progressAfter_append, ← ih]
      exact progress_step _ call

theorem Context.eq_of_guard {c d : Context} (hguard : d.guard = c.guard) :
    d = c.setProgress d.progress.1 d.progress.2 := by
  obtain ⟨hphase, hfile⟩ := Guard.mk.inj hguard
  cases c
  cases d
  cases hphase
  cases hfile
  rfl

/-- A nested run that has come to its end leaves phase and file as they were. -/
theorem IsNested.context_run (h : IsNested calls) (c : Context) :
    (Guarded.run ⟨c, []⟩ calls).context =
      c.setProgress (progressAfter c.progress calls).1 (progressAfter c.progress calls).2 := by
  have hnone : changesAlive calls (changesOf calls).length = [] :=
    changesAlive_of_dropped (Nat.zero_le _) fun m _ hm => h.dropped m hm
  have hguard : (Guarded.run ⟨c, []⟩ calls).context.guard = c.guard := by
    rw [(h.nests.shows c).context, shownBy, hnone]
    rfl
  have hprogress := Guarded.progress_run ⟨c, []⟩ calls
  rw [Context.eq_of_guard hguard, hprogress]

end

end RpcDispatch
