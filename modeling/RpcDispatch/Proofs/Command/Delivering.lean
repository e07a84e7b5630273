import RpcDispatch.Proofs.Command.Making
import RpcDispatch.Proofs.Project.Keeping

/-!
# What a command leaves behind

A command has one text to deliver and one path for it. Wherever it fails, every file is what it
was; where it does not, only the file at that path may be another.
-/

namespace RpcDispatch

/-! ## Products -/

namespace Product

variable {p : Product} {t : FileTree} {cwd : Path} {a : SourceArguments} {output : Option Path}
  (c : Context)

/-- The product may fail to be resolved, read or stored; only the last comes near the tree. -/
theorem widens_of_failure (h : ((p.make t cwd a output).run c).1.1.failure ≠ none) :
    t.Widens ((p.make t cwd a output).run c).1.2 := by
  cases hresolve : a.resolve t cwd with
  | error f =>
      rw [make_of_unresolved c hresolve]
      exact .refl t
  | ok r =>
      cases hread : Session.readAll t {} r.sources.files with
      | mk s failure =>
          cases failure with
          | some e =>
              rw [make_of_unread c hresolve hread]
              exact .refl t
          | none =>
              obtain ⟨d, hrun⟩ : ∃ d, ((p.make t cwd a output).run c).1 =
                  ((p.write t cwd output r s).run d).1 := make_of_read c hresolve hread
              rw [hrun] at h ⊢
              cases hwrite : t.writeText (p.target r cwd output) (p.render r s) with
              | mk result t' =>
                  cases result with
                  | error e =>
                      rw [write_of_error d hwrite]
                      exact FileTree.widens_of_writeText hwrite
                  | ok =>
                      rw [write_of_ok d hwrite] at h
                      exact absurd rfl h

end Product

namespace Command

/-! ## Settings to start from -/

def settingsPath (cwd : Path) : Path := (cwd.join ⟨"."⟩).join ⟨Settings.fileName⟩

/-- A failed initialisation has at most made directories. -/
theorem widens_of_initialise {t : FileTree} {cwd : Path} {force : Bool}
    (h : (initialise t cwd force).1.failure ≠ none) : t.Widens (initialise t cwd force).2 := by
  rw [initialise] at h ⊢
  dsimp only at h ⊢
  split at h
  next hthere =>
    rw [if_pos hthere]
    exact .refl t
  next hfree =>
    rw [if_neg hfree]
    split at h
    next hwrite => exact FileTree.widens_of_writeText hwrite
    next => exact absurd rfl h

/-- Without a failure, the template is what the settings file holds. -/
theorem stores_of_initialise {t : FileTree} {cwd : Path} {force : Bool}
    (h : (initialise t cwd force).1.failure = none) :
    t.Stores (settingsPath cwd) Settings.template (initialise t cwd force).2 := by
  rw [initialise] at h ⊢
  dsimp only at h ⊢
  split at h
  next => cases h
  next hfree =>
    rw [if_neg hfree]
    split at h
    next => cases h
    next hwrite => exact FileTree.stores_of_writeText hwrite

/-! ## All commands -/

/-- The path a command writes to in a tree, and the text it has for it. -/
inductive Delivers (t : FileTree) (cwd : Path) : Command → Path → Text → Prop
  | dispatcher {a : SourceArguments} {output : Option Path} {r : Resolved} {s : Session}
      (resolved : a.resolve t cwd = .ok r)
      (read : Session.readAll t {} r.sources.files = ⟨s, none⟩) :
      Delivers t cwd (generate a output) (Product.dispatcher.target r cwd output)
        (s.render r.settings.dispatch r.sources.audit).contents
  | listing {a : SourceArguments} {output : Option Path} {r : Resolved} {s : Session}
      (resolved : a.resolve t cwd = .ok r)
      (read : Session.readAll t {} r.sources.files = ⟨s, none⟩) :
      Delivers t cwd (list a output) (Product.listing.target r cwd output) s.listing
  | settings (force : Bool) :
      Delivers t cwd (init force) (settingsPath cwd) Settings.template

/-- A command that fails leaves every file as it was, however far it got. One that does not fail
has stored its text, and every other file is as it was. -/
theorem run_keeps_files (t : FileTree) (cwd : Path) (command : Command) (c : Context) :
    (((command.run t cwd).run c).1.1.failure ≠ none → ∀ r bytes,
      ((command.run t cwd).run c).1.2.node? r = some (.file bytes) ↔
        t.node? r = some (.file bytes)) ∧
    (((command.run t cwd).run c).1.1.failure = none → ∃ path text,
      command.Delivers t cwd path text ∧
      ((command.run t cwd).run c).1.2.read path = .ok (Latin.encode text) ∧
      ∀ r, r ≠ path.place → ∀ bytes,
        ((command.run t cwd).run c).1.2.node? r = some (.file bytes) ↔
          t.node? r = some (.file bytes)) := by
  cases command with
  | generate a output =>
      constructor
      · intro h
        exact (Product.widens_of_failure c h).file_iff
      · intro h
        obtain ⟨r, s, hresolve, hread, hwrite⟩ := Product.makes_of_run c h
        have hstores := FileTree.stores_of_writeText hwrite
        exact ⟨_, _, .dispatcher hresolve hread, hstores.read, hstores.others⟩
  | list a output =>
      constructor
      · intro h
        exact (Product.widens_of_failure c h).file_iff
      · intro h
        obtain ⟨r, s, hresolve, hread, hwrite⟩ := Product.makes_of_run c h
        have hstores := FileTree.stores_of_writeText hwrite
        exact ⟨_, _, .listing hresolve hread, hstores.read, hstores.others⟩
  | init force =>
      constructor
      · intro h
        exact (widens_of_initialise h).file_iff
      · intro h
        have hstores := stores_of_initialise h
        exact ⟨_, _, .settings force, hstores.read, hstores.others⟩

end Command

end RpcDispatch
