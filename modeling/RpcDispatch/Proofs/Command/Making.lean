import RpcDispatch.Command.Run
import RpcDispatch.Proofs.Project.Finding

/-!
# What it takes to make a product

The context is for reports only, what is made does not depend on it. A product is made when its
sources have been resolved, all of them could be read, and the text could be stored.
-/

namespace RpcDispatch

/-! ## The context -/

namespace Tracked

variable {α β : Type}

theorem duringPhase_pure (p : Phase) (x : α) : duringPhase p (pure x) = pure x := rfl

theorem run_bind_fst (x : Tracked α) (f : α → Tracked β) (c : Context) :
    ((x >>= f).run c).1 = ((f (x.run c).1).run (x.run c).2).1 := rfl

end Tracked

namespace Session

/-! ## Reading the sources -/

def readAll (t : FileTree) : Session → List SourceFile → Scanned
  | s, [] => ⟨s, none⟩
  | s, f :: fs => match scanFile t s f with
      | .error e => ⟨s, some e⟩
      | .ok s => readAll t s fs

/-- The progress that is shown on the way plays no part in what is read. -/
theorem scanFrom_fst (t : FileTree) (total done : Nat) (s : Session) (fs : List SourceFile)
    (c : Context) : ((scanFrom t total done s fs).run c).1 = readAll t s fs := by
  induction fs generalizing done s c with
  | nil => rfl
  | cons f fs ih =>
      rw [readAll]
      cases hscan : scanFile t s f with
      | error e =>
          rw [scanFrom, hscan]
          rfl
      | ok s' =>
          have hrest := ih (done + 1) s'
          rw [scanFrom, hscan]
          exact hrest _

theorem scanAll_fst (t : FileTree) (fs : List SourceFile) (c : Context) :
    ((scanAll t fs).run c).1 = readAll t {} fs :=
  scanFrom_fst t fs.length 0 {} fs (c.setPhase .scanning)

theorem scanFile_eq_ok {t : FileTree} {s s' : Session} {f : SourceFile} :
    scanFile t s f = .ok s' ↔ ∃ bytes, t.read f.path = .ok bytes ∧
      s' = s.add f.display (SourceText.extract ⟨f.path, Latin.decode bytes⟩) := by
  rw [scanFile, FileTree.readText]
  cases t.read f.path with
  | error e => cases e <;> simp [Except.map]
  | ok bytes => simp [Except.map, eq_comm]

/-- What has been read can be read again beside a file that is put somewhere else. -/
theorem readAll_putFile {t : FileTree} {r : Route} (bytes : List UInt8) (h : t.Takes r)
    {s s' : Session} {fs : List SourceFile} (hne : ∀ f ∈ fs, f.path.place ≠ r)
    (hread : readAll t s fs = ⟨s', none⟩) : readAll (t.putFile r bytes) s fs = ⟨s', none⟩ := by
  induction fs generalizing s with
  | nil => exact hread
  | cons f fs ih =>
      rw [readAll] at hread
      cases hscan : scanFile t s f with
      | error e =>
          rw [hscan] at hread
          cases (Scanned.mk.inj hread).2
      | ok s₁ =>
          rw [hscan] at hread
          obtain ⟨bs, hbs, rfl⟩ := scanFile_eq_ok.mp hscan
          have hbs' := h.read_putFile bytes hbs (hne f List.mem_cons_self)
          have hscan' := scanFile_eq_ok (s := s).mpr ⟨bs, hbs', rfl⟩
          rw [readAll, hscan']
          exact ih (fun g hg => hne g (List.mem_cons_of_mem f hg)) hread

end Session

/-! ## Writing the product -/

namespace Product

def Makes (p : Product) (t : FileTree) (cwd : Path) (a : SourceArguments) (output : Option Path)
    (t' : FileTree) : Prop :=
  ∃ r s, a.resolve t cwd = .ok r ∧ Session.readAll t {} r.sources.files = ⟨s, none⟩ ∧
    t.writeText (p.target r cwd output) (p.render r s) = (.ok (), t')

section

variable {p : Product} {t t' : FileTree} {cwd : Path} {a : SourceArguments}
  {output : Option Path} {r : Resolved} {s : Session} (c : Context)

theorem write_of_ok (h : t.writeText (p.target r cwd output) (p.render r s) = (.ok (), t')) :
    ((p.write t cwd output r s).run c).1 =
      (⟨p.opening ++ closing (shown (p.target r cwd output) cwd), p.warnings s, none⟩, t') := by
  simp only [write, Tracked.duringPhase_pure, pure_bind, h]
  rfl

theorem write_of_error {e : Error}
    (h : t.writeText (p.target r cwd output) (p.render r s) = (.error e, t')) :
    ((p.write t cwd output r s).run c).1 =
      (⟨p.opening, p.warnings s,
        some (.error (some ("Failed to write " ++ (p.target r cwd output).text)) e)⟩, t') := by
  simp only [write, Tracked.duringPhase_pure, pure_bind, h]
  rfl

theorem make_of_unresolved {f : Failure} (h : a.resolve t cwd = .error f) :
    ((p.make t cwd a output).run c).1 = (⟨p.opening, [], some f⟩, t) := by
  simp only [make, Tracked.duringPhase_pure, pure_bind, h]
  rfl

/-- A source that cannot be read ends the command before anything is written, and what was diagnosed
up to there is reported. -/
theorem make_of_unread {e : Error} (h : a.resolve t cwd = .ok r)
    (hread : Session.readAll t {} r.sources.files = ⟨s, some e⟩) :
    ((p.make t cwd a output).run c).1 =
      (⟨p.opening, s.diagnostics.map (·.text), some (.ofError e)⟩, t) := by
  simp only [make, Tracked.duringPhase_pure, pure_bind, h]
  rw [Tracked.run_bind_fst, Session.scanAll_fst, hread]
  rfl

/-- Once all sources are read the command writes, in whatever context the scan has left. -/
theorem make_of_read (h : a.resolve t cwd = .ok r)
    (hread : Session.readAll t {} r.sources.files = ⟨s, none⟩) :
    ∃ d, ((p.make t cwd a output).run c).1 = ((p.write t cwd output r s).run d).1 := by
  simp only [make, Tracked.duringPhase_pure, pure_bind, h]
  rw [Tracked.run_bind_fst, Session.scanAll_fst, hread]
  exact ⟨_, rfl⟩

/-- A run without a failure is one that makes the product. -/
theorem makes_of_run (h : ((p.make t cwd a output).run c).1.1.failure = none) :
    p.Makes t cwd a output ((p.make t cwd a output).run c).1.2 := by
  cases hresolve : a.resolve t cwd with
  | error f =>
      rw [make_of_unresolved c hresolve] at h
      cases h
  | ok r =>
      cases hread : Session.readAll t {} r.sources.files with
      | mk s failure =>
          cases failure with
          | some e =>
              rw [make_of_unread c hresolve hread] at h
              cases h
          | none =>
              obtain ⟨d, hrun⟩ : ∃ d, ((p.make t cwd a output).run c).1 =
                  ((p.write t cwd output r s).run d).1 := make_of_read c hresolve hread
              rw [hrun] at h ⊢
              cases hwrite : t.writeText (p.target r cwd output) (p.render r s) with
              | mk result t' =>
                  cases result with
                  | error e =>
                      rw [write_of_error d hwrite] at h
                      cases h
                  | ok =>
                      rw [write_of_ok d hwrite]
                      exact ⟨r, s, hresolve, hread, hwrite⟩

/-- Conversely, a product that can be made is made, in any context. -/
theorem Makes.run (h : p.Makes t cwd a output t') :
    ((p.make t cwd a output).run c).1.1.failure = none ∧
      ((p.make t cwd a output).run c).1.2 = t' := by
  obtain ⟨r, s, hresolve, hread, hwrite⟩ := h
  obtain ⟨d, hrun⟩ : ∃ d, ((p.make t cwd a output).run c).1 =
      ((p.write t cwd output r s).run d).1 := make_of_read c hresolve hread
  rw [hrun, write_of_ok d hwrite]
  exact ⟨rfl, rfl⟩

end

end Product

end RpcDispatch
