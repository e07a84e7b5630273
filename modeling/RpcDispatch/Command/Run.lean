import RpcDispatch.Command.Product
import RpcDispatch.Settings.Template

/-!
# Running a command

A command reads a file tree and leaves another, with a report.
-/

namespace RpcDispatch.Command

/-- Writes a settings file to start from. One that is there is replaced only if forced. -/
def initialise (t : FileTree) (cwd : Path) (force : Bool) : Report × FileTree :=
  let path := (cwd.join ⟨"."⟩).join ⟨Settings.fileName⟩
  if t.isPresent path && !force then
    let reason : Text := "Configuration file already exists. Use --force to overwrite."
    (⟨[], [], Failure.refused reason⟩, t)
  else match t.writeText path Settings.template with
    | (.error e, t) => (⟨[], [], Failure.ofError e⟩, t)
    | (.ok (), t) => (⟨"Created " ++ Settings.fileName ++ " configuration file\n", [], none⟩, t)

def run (t : FileTree) (cwd : Path) : Command → Tracked (Report × FileTree)
  | generate sources output => Product.dispatcher.make t cwd sources output
  | list sources output => Product.listing.make t cwd sources output
  | init force => pure (initialise t cwd force)

end RpcDispatch.Command
