import RpcDispatch.Project.Path

/-!
# Settings

What a project can set, with the values taken where it sets nothing.
-/

namespace RpcDispatch

structure OutputSettings where
  /-- The dispatcher, relative to the project root. -/
  path : Path := ⟨"include/rpc-functions.axi"⟩
  /-- The function listing. -/
  listingPath : Path := ⟨"functions.axi"⟩
deriving DecidableEq, Repr

structure ScanSettings where
  /-- Extensions of source files, without the dot. -/
  extensions : List Text := ["axi", "axs"]
  /-- Expression for files that are never scanned: generated ones by default. -/
  exclude : Text := "(?i)(?:^|/)rpc(?:[-_][^/]*)?\\.axi$"
  /-- Patterns of files left out of the audit. -/
  auditIgnore : List Text := []
deriving DecidableEq, Repr

structure DispatchSettings where
  /-- The device whose string events carry the requests. -/
  device : Text := "vdvRPC"
  /-- Symbol that guards against a second inclusion. -/
  guard : Text := "RPC_FUNCTION_LIST"
  logLevel : Text := "LOG_LEVEL_INFO"
deriving DecidableEq, Repr

structure Settings where
  output : OutputSettings := {}
  scan : ScanSettings := {}
  dispatch : DispatchSettings := {}
deriving DecidableEq, Repr

end RpcDispatch
