import RpcDispatch.Text.Basic

/-!
# The settings template

A settings file to start from. Every value in it is the default.
-/

namespace RpcDispatch.Settings

def templateLines : List Text :=
  ["# netlinx-rpc configuration",
    "",
    "[output]",
    "# Generated dispatcher, relative to the project root.",
    "path = \"include/rpc-functions.axi\"",
    "# Function listing written by `netlinx-rpc list`.",
    "listing_path = \"functions.axi\"",
    "",
    "[scan]",
    "extensions = [\"axi\", \"axs\"]",
    "# Workspace files matching this regex are never scanned.",
    "exclude = '(?i)(?:^|/)rpc(?:[-_][^/]*)?\\.axi$'",
    "# Glob patterns left out of the audit listing.",
    "audit_ignore = []",
    "",
    "[dispatch]",
    "device = \"vdvRPC\"",
    "guard = \"RPC_FUNCTION_LIST\"",
    "log_level = \"LOG_LEVEL_INFO\""]

def template : Text := templateLines.flatMap (· ++ ['\n'])

end RpcDispatch.Settings
