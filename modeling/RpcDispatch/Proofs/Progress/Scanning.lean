import RpcDispatch.Proofs.Progress.Guards

/-!
# Scans and the context

A scan keeps one guard for its phase and, while it reads a file, another for the file. The calls
that it makes are a nested run, whichever file it stops at.
-/

namespace RpcDispatch

namespace Session

variable {t : FileTree} {total done : Nat} {s : Session} {f : SourceFile} {fs : List SourceFile}
  {e : Error} {calls : List Call}

/-! ## The calls of a scan -/

/-- The calls behind the first `done` files, whose guards follow that of the phase. -/
def callsFrom (t : FileTree) (total : Nat) : (done : Nat) → List SourceFile → List Call
  | done, [] => [.progress done total]
  | done, f :: fs => [.progress done total, .enter (.file f.path), .drop (done + 1)] ++
      match t.readText f.path with
      | .ok _ => callsFrom t total (done + 1) fs
      | .error _ => []

def callsOf (t : FileTree) (files : List SourceFile) : List Call :=
  [.enter (.phase .scanning)] ++ callsFrom t files.length 0 files ++ [.drop 0]

/-- The guard of the phase is alive, those of the first `done` files have been dropped. -/
structure HasPassed (calls : List Call) (done : Nat) : Prop where
  nests : Nests calls
  length : (changesOf calls).length = done + 1
  drop_mem_iff : ∀ m, .drop m ∈ calls ↔ 0 < m ∧ m ≤ done

/-- The guard of a file is dropped before that of the next one is made. -/
theorem HasPassed.file (h : HasPassed calls done) (total : Nat) (p : Path) :
    HasPassed (calls ++ [.progress done total, .enter (.file p), .drop (done + 1)]) (done + 1) := by
  have hcalls : calls ++ [.progress done total, .enter (.file p), .drop (done + 1)] =
      calls ++ [.progress done total] ++ [.enter (.file p)] ++ [.drop (done + 1)] := by simp
  have hlength : (changesOf (calls ++ [.progress done total] ++ [.enter (.file p)])).length =
      done + 2 := by
    rw [changesOf_enter, changesOf_progress, List.length_append, h.length]
    rfl
  rw [hcalls]
  refine ⟨h.nests.progress.enter.drop ?_ ?_ fun m hm hlt => ?_, ?_, fun m => ?_⟩
  · rw [hlength]
    exact Nat.lt_add_one _
  · simp [h.drop_mem_iff]
  · rw [hlength] at hm
    omega
  · rw [changesOf_drop, hlength]
  · simp only [List.mem_append, List.mem_singleton, h.drop_mem_iff, Call.drop.injEq, reduceCtorEq,
      or_false]
    omega

theorem HasPassed.exists_callsFrom (h : HasPassed calls done) (t : FileTree) (total : Nat)
    (fs : List SourceFile) : ∃ k, HasPassed (calls ++ callsFrom t total done fs) k := by
  induction fs generalizing done calls with
  | nil =>
      refine ⟨done, h.nests.progress, ?_, fun m => ?_⟩
      · rw [callsFrom, changesOf_progress, h.length]
      · simp [callsFrom, h.drop_mem_iff]
  | cons f fs ih =>
      have hfile := h.file total f.path
      rw [callsFrom, ← List.append_assoc]
      cases t.readText f.path with
      | error e =>
          rw [List.append_nil]
          exact ⟨_, hfile⟩
      | ok text => exact ih hfile

theorem isNested_callsOf (t : FileTree) (files : List SourceFile) : IsNested (callsOf t files) := by
  have hstart : HasPassed [.enter (.phase .scanning)] 0 :=
    ⟨Nests.nil.enter, rfl, fun m => by simp; omega⟩
  obtain ⟨k, hpassed⟩ := hstart.exists_callsFrom t files.length files
  constructor
  · refine hpassed.nests.drop ?_ ?_ fun m hm hlt => ?_
    · rw [hpassed.length]
      exact Nat.succ_pos k
    · rw [hpassed.drop_mem_iff]
      exact fun hmem => Nat.lt_irrefl 0 hmem.1
    · rw [hpassed.length] at hm
      exact (hpassed.drop_mem_iff m).mpr ⟨hlt, Nat.le_of_lt_succ hm⟩
  · intro n hn
    rw [callsOf, changesOf_drop, hpassed.length] at hn
    rw [callsOf, List.mem_append, hpassed.drop_mem_iff, List.mem_singleton, Call.drop.injEq]
    omega

/-! ## The context of a scan -/

theorem run_scanFrom_error (h : t.readText f.path = .error e) (c : Context) :
    (scanFrom t total done s (f :: fs)).run c = (⟨s, some e⟩, c.setProgress done total) := by
  rw [scanFrom, scanFile, h]
  rfl

theorem run_scanFrom_ok {text : Text} (h : t.readText f.path = .ok text) (c : Context) :
    (scanFrom t total done s (f :: fs)).run c =
      (scanFrom t total (done + 1) (s.add f.display (SourceText.extract ⟨f.path, text⟩)) fs).run
        (c.setProgress done total) := by
  rw [scanFrom, scanFile, h]
  rfl

/-- The run of the calls leaves the context that the scan leaves. -/
theorem context_run_callsFrom (g : Guarded) (h : g.guards.length = done + 1) :
    (g.run (callsFrom t total done fs)).context =
      ((scanFrom t total done s fs).run g.context).2 := by
  induction fs generalizing g done s with
  | nil => rfl
  | cons f fs ih =>
      have hfile : g.run [.progress done total, .enter (.file f.path), .drop (done + 1)] =
          ⟨g.context.setProgress done total,
            g.guards ++ [(g.context.setProgress done total).guard]⟩ := by
        rw [← h]
        simp [Guarded.run, Guarded.step]
        rfl
      rw [callsFrom, Guarded.run_append, hfile]
      cases htext : t.readText f.path with
      | error e =>
          rw [run_scanFrom_error htext]
          rfl
      | ok text =>
          rw [run_scanFrom_ok htext]
          exact ih _ (by simp [h])

theorem context_run_callsOf (t : FileTree) (files : List SourceFile) (c : Context) :
    (Guarded.run ⟨c, []⟩ (callsOf t files)).context = ((scanAll t files).run c).2 := by
  let g : Guarded := ⟨c.setPhase .scanning, [c.guard]⟩
  have hcontext : (g.run (callsFrom t files.length 0 files)).context =
      ((scanFrom t files.length 0 {} files).run g.context).2 := context_run_callsFrom g rfl
  have hguard : (g.run (callsFrom t files.length 0 files)).guards[0]? = some c.guard := by
    obtain ⟨later, hlater⟩ := g.guards_prefix_run (callsFrom t files.length 0 files)
    rw [← hlater]
    rfl
  rw [callsOf, Guarded.run_append, Guarded.run_append]
  change ((g.run (callsFrom t files.length 0 files)).step (.drop 0)).context = _
  rw [Guarded.step, hguard, hcontext]
  rfl

/-! ## Where a scan stops -/

/-- How many files are read, and what stops the scan if anything does. -/
inductive StopsAfter (t : FileTree) : List SourceFile → Nat → Option Error → Prop
  | done : StopsAfter t [] 0 none
  | error {f : SourceFile} {fs : List SourceFile} {e : Error} : t.readText f.path = .error e →
      StopsAfter t (f :: fs) 0 (some e)
  | ok {f : SourceFile} {fs : List SourceFile} {text : Text} {k : Nat} {failure : Option Error} :
      t.readText f.path = .ok text → StopsAfter t fs k failure →
      StopsAfter t (f :: fs) (k + 1) failure

namespace StopsAfter

variable {k : Nat} {failure : Option Error}

theorem of_readable (h : ∀ f ∈ fs, ∃ text, t.readText f.path = .ok text) :
    StopsAfter t fs fs.length none := by
  induction fs with
  | nil => exact .done
  | cons f fs ih =>
      obtain ⟨⟨text, htext⟩, hfs⟩ := List.forall_mem_cons.mp h
      exact .ok htext (ih hfs)

theorem of_unreadable (before after : List SourceFile)
    (h : ∀ g ∈ before, ∃ text, t.readText g.path = .ok text) (hf : t.readText f.path = .error e) :
    StopsAfter t (before ++ f :: after) before.length (some e) := by
  induction before with
  | nil => exact .error hf
  | cons g before ih =>
      obtain ⟨⟨text, htext⟩, hbefore⟩ := List.forall_mem_cons.mp h
      exact .ok htext (ih hbefore)

theorem failure_scanFrom (h : StopsAfter t fs k failure) (c : Context) :
    ((scanFrom t total done s fs).run c).1.failure = failure := by
  induction h generalizing done s c with
  | done => rfl
  | error hf => rw [run_scanFrom_error hf]
  | ok hf _ ih =>
      rw [run_scanFrom_ok hf]
      exact ih _

theorem progressAfter_callsFrom (h : StopsAfter t fs k failure) (start : Nat × Nat) :
    progressAfter start (callsFrom t total done fs) = (done + k, total) := by
  induction h generalizing done start with
  | done => rfl
  | error hf =>
      rw [callsFrom, hf]
      rfl
  | ok hf _ ih =>
      rw [callsFrom, hf, progressAfter_append, ih, Nat.add_assoc, Nat.add_comm 1]

/-- All guards are gone at the end, and what stays is the count of the files that were read. -/
theorem run_scanAll (h : StopsAfter t fs k failure) (c : Context) :
    ((scanAll t fs).run c).1.failure = failure ∧
      ((scanAll t fs).run c).2 = c.setProgress k fs.length := by
  refine ⟨h.failure_scanFrom (c.setPhase .scanning), ?_⟩
  have hprogress : progressAfter c.progress (callsOf t fs) = (k, fs.length) := by
    rw [callsOf, progressAfter_append, progressAfter_append, h.progressAfter_callsFrom,
      Nat.zero_add]
    rfl
  rw [← context_run_callsOf, (isNested_callsOf t fs).context_run, hprogress]

end StopsAfter

end Session

open Session

/-- At any moment of a nested run the context shows the changes whose guards are alive on top of
what it showed at the start, and at the end it differs from the start only in the progress. So it is
with a scan, whether it reads every file or stops at one. -/
theorem Context.guards_restore :
    (∀ (c : Context) (calls : List Call), IsNested calls →
      (∀ front, front <+: calls → (Guarded.run ⟨c, []⟩ front).context.guard =
        shownBy c.guard front (changesOf front).length) ∧
      (Guarded.run ⟨c, []⟩ calls).context =
        c.setProgress (progressAfter c.progress calls).1 (progressAfter c.progress calls).2) ∧
    ∀ (t : FileTree) (files : List SourceFile) (c : Context),
      ((∀ f ∈ files, ∃ text, t.readText f.path = .ok text) →
        ((scanAll t files).run c).1.failure = none ∧
        ((scanAll t files).run c).2 = c.setProgress files.length files.length) ∧
      ∀ before f after e, files = before ++ f :: after →
        (∀ g ∈ before, ∃ text, t.readText g.path = .ok text) → t.readText f.path = .error e →
        ((scanAll t files).run c).1.failure = some e ∧
        ((scanAll t files).run c).2 = c.setProgress before.length files.length := by
  refine ⟨fun c calls h => ⟨?_, h.context_run c⟩, fun t files c => ⟨fun h => ?_, ?_⟩⟩
  · rintro front ⟨behind, rfl⟩
    exact (h.nests.of_append.shows c).context
  · exact (StopsAfter.of_readable h).run_scanAll c
  · rintro before f after e rfl hbefore hf
    exact (StopsAfter.of_unreadable before after hbefore hf).run_scanAll c

def twoFilesCalls : List Call :=
  [.enter (.phase .scanning), .progress 0 2, .enter (.file ⟨"a.axi"⟩), .enter (.phase .emission),
    .drop 2, .drop 1, .progress 1 2, .enter (.file ⟨"b.axi"⟩), .drop 3, .drop 0]

theorem isNested_twoFilesCalls : IsNested twoFilesCalls where
  nests :=
    show Nests ([] ++ [.enter (.phase .scanning)] ++ [.progress 0 2] ++
      [.enter (.file ⟨"a.axi"⟩)] ++ [.enter (.phase .emission)] ++ [.drop 2] ++ [.drop 1] ++
      [.progress 1 2] ++ [.enter (.file ⟨"b.axi"⟩)] ++ [.drop 3] ++ [.drop 0]) from
    Nests.nil.enter.progress.enter.enter |>.drop (by decide) (by decide) (by decide)
      |>.drop (by decide) (by decide) (by decide) |>.progress |>.enter
      |>.drop (by decide) (by decide) (by decide) |>.drop (by decide) (by decide) (by decide)
  dropped := by decide

def oneReadable : FileTree := ⟨[(["w"], .directory), (["w", "a.axi"], .file [])]⟩

def oneReadableFile : SourceFile := ⟨⟨"/w/a.axi"⟩, "a.axi"⟩

def unreadableFile : SourceFile := ⟨⟨"/w/b.axi"⟩, "b.axi"⟩

/-- The second of three files cannot be read. -/
theorem Context.guards_restore_twoFiles :
    IsNested twoFilesCalls ∧
      (Guarded.run ⟨⟨some .discovery, none, 7, 9⟩, []⟩ twoFilesCalls).context =
        ⟨some .discovery, none, 1, 2⟩ ∧
      oneReadable.readText unreadableFile.path = .error (.sourceNotFound unreadableFile.path) ∧
      ((scanAll oneReadable [oneReadableFile, unreadableFile, oneReadableFile]).run
        ⟨some .discovery, none, 7, 9⟩).2 = ⟨some .discovery, none, 1, 3⟩ := by
  have hreadable : ∀ f ∈ [oneReadableFile], ∃ text, oneReadable.readText f.path = .ok text :=
    List.forall_mem_singleton.mpr ⟨[], by decide⟩
  have hunreadable : oneReadable.readText unreadableFile.path =
      .error (.sourceNotFound unreadableFile.path) := by decide
  obtain ⟨hnested, hscan⟩ := guards_restore
  refine ⟨isNested_twoFilesCalls, (hnested _ _ isNested_twoFilesCalls).2, hunreadable, ?_⟩
  exact ((hscan _ _ _).2 [oneReadableFile] unreadableFile [oneReadableFile] _ rfl hreadable
    hunreadable).2

/-- Guards that are dropped in the order they were made in leave the later file behind. -/
example : (Guarded.run ⟨.empty, []⟩ [.enter (.file ⟨"a.axi"⟩), .enter (.file ⟨"b.axi"⟩), .drop 0,
    .drop 1]).context.file = some ⟨"a.axi"⟩ := by decide

end RpcDispatch
