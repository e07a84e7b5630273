import RpcDispatch.Project.Path

/-!
# The command line

A command line is a command with its options. Options take the next word or one attached to them.
A value is checked when the next option or the end of the line is reached, so that a word in
between that is not known is reported first.
-/

namespace RpcDispatch

structure SourceArguments where
  workspace : Option Path := none
  root : Option Path := none
  /-- Files to scan in place of those of a workspace. -/
  files : List Path := []
deriving DecidableEq, Repr

inductive Command where
  | generate (sources : SourceArguments) (output : Option Path)
  | list (sources : SourceArguments) (output : Option Path)
  | init (force : Bool)
deriving DecidableEq, Repr

structure CommandLine where
  verbosity : Nat
  command : Command
deriving DecidableEq, Repr

/-- Why a command line is not carried out: it asks for help or the version, or it is faulty. -/
inductive LineFault where
  | help
  | version
  | nothingGiven
  | missingCommand
  | unknownCommand
  | unknownArgument
  | invalidValue
  | conflict
  | tooManyValues
deriving DecidableEq, Repr

inductive Flag where
  | verbose
  | help
  | version
  | force
deriving DecidableEq, Repr

namespace Flag

def long : Flag → Text
  | verbose => "verbose"
  | help => "help"
  | version => "version"
  | force => "force"

def short : Flag → Char
  | verbose => 'v'
  | help => 'h'
  | version => 'V'
  | force => 'f'

end Flag

inductive ValueOption where
  | workspace
  | root
  | file
  | output
deriving DecidableEq, Repr

namespace ValueOption

def long : ValueOption → Text
  | workspace => "workspace"
  | root => "root"
  | file => "file"
  | output => "output"

def short? : ValueOption → Option Char
  | workspace => some 'w'
  | output => some 'o'
  | root => none
  | file => none

end ValueOption

/-- What a word belongs to: the program as a whole or a command. -/
inductive Scope where
  | program
  | generate
  | list
  | init
deriving DecidableEq, Repr

namespace Scope

def flags : Scope → List Flag
  | program => [.verbose, .help, .version]
  | init => [.verbose, .help, .force]
  | _ => [.verbose, .help]

def options : Scope → List ValueOption
  | program => []
  | init => []
  | _ => [.workspace, .root, .file, .output]

def ofName? (name : Text) : Option Scope :=
  if name = "generate" then some generate
  else if name = "list" then some list
  else if name = "init" then some init
  else none

def helpName : Text := "help"

def isName (name : Text) : Bool := (ofName? name).isSome || name == helpName

end Scope

inductive Word where
  /-- `--`, behind which no options follow. -/
  | endOfOptions
  | long (name : Text) (value : Option Text)
  | short (letters : Text)
  | plain
deriving DecidableEq, Repr

namespace Word

def ofText (w : Text) : Word :=
  match w with
  | ['-', '-'] => endOfOptions
  | '-' :: '-' :: t => match Text.cutAt? "=" t with
      | some (name, value) => long name (some value)
      | none => long t none
  | '-' :: c :: t => short (c :: t)
  | _ => plain

end Word

/-- The options read so far. -/
structure Given where
  verbosity : Option Nat := none
  force : Bool := false
  workspace : Option Path := none
  root : Option Path := none
  output : Option Path := none
  files : List Path := []
  /-- The option read last, with its value once that has been read. -/
  pending : Option (ValueOption × Option Text) := none
deriving DecidableEq, Repr

namespace Given

/-- Fails if an option is there already. -/
def once {α : Type} (before : Option α) : Except LineFault Unit :=
  if before.isSome then .error .conflict else .ok ()

def nonEmpty (value : Text) : Except LineFault Path :=
  if value = [] then .error .invalidValue else .ok ⟨value⟩

/-- Takes a value. Files may be given again and again, all else only once. -/
def accept (g : Given) (o : ValueOption) (value : Text) : Except LineFault Given :=
  match o with
  | .workspace => do
      once g.workspace
      pure { g with workspace := some (← nonEmpty value) }
  | .root => do
      once g.root
      pure { g with root := some (← nonEmpty value) }
  | .output => do
      once g.output
      pure { g with output := some (← nonEmpty value) }
  | .file => do pure { g with files := g.files ++ [← nonEmpty value] }

def settle (g : Given) : Except LineFault Given :=
  match g.pending with
  | none => .ok g
  | some (_, none) => .error .invalidValue
  | some (o, some value) => accept { g with pending := none } o value

def raise (g : Given) (f : Flag) : Except LineFault Given := do
  let g ← g.settle
  match f with
  | .help => throw .help
  | .version => throw .version
  | .verbose => pure { g with verbosity := some (min 255 (g.verbosity.getD 0 + 1)) }
  | .force => if g.force then throw .conflict else pure { g with force := true }

def start (g : Given) (o : ValueOption) (value : Option Text) : Except LineFault Given := do
  let g ← g.settle
  match value with
  | some value => g.accept o value
  | none => pure { g with pending := some (o, none) }

def readLong (s : Scope) (g : Given) (name : Text) (value : Option Text) :
    Except LineFault Given :=
  match s.flags.find? (·.long = name), s.options.find? (·.long = name) with
  | some f, _ => if value.isSome then .error .tooManyValues else g.raise f
  | none, some o => g.start o value
  | none, none => .error .unknownArgument

/-- What is attached to a letter; a `=` in front does not belong to it. -/
def attached? (t : Text) : Option Text :=
  match t with
  | [] => none
  | '=' :: t => some t
  | t => some t

/-- Reads letters in turn; behind an option with a value the rest is the value. -/
def readShort (s : Scope) (g : Given) : Text → Except LineFault Given
  | [] => .ok g
  | c :: t =>
      match s.flags.find? (·.short = c), s.options.find? (·.short? = some c) with
      | some f, _ => do readShort s (← g.raise f) t
      | none, some o => g.start o (attached? t)
      | none, none => .error .unknownArgument

def readWords (s : Scope) (g : Given) : List Text → Except LineFault Given
  | [] => g.settle
  | w :: ws => match Word.ofText w with
      | .endOfOptions => if ws = [] then g.settle else .error .unknownArgument
      | .long name value => do readWords s (← g.readLong s name value) ws
      | .short letters => do readWords s (← g.readShort s letters) ws
      | .plain => match g.pending with
          | some (o, none) => readWords s { g with pending := some (o, some w) } ws
          | _ => .error .unknownArgument

/-- A workspace and files exclude each other. -/
def checkSources (g : Given) : Except LineFault Unit :=
  if g.workspace.isSome ∧ g.files ≠ [] then .error .conflict else .ok ()

def sources (g : Given) : SourceArguments := ⟨g.workspace, g.root, g.files⟩

end Given

namespace CommandLine

/-- Reads what follows the name of a command. The verbosity given there outweighs the one in
front of the command. -/
def readCommand (s : Scope) (verbosity : Option Nat) (ws : List Text) :
    Except LineFault CommandLine := do
  let g ← Given.readWords s {} ws
  g.checkSources
  let command : Command := match s with
    | .generate => .generate g.sources g.output
    | .list => .list g.sources g.output
    | _ => .init g.force
  pure ⟨(g.verbosity.or verbosity).getD 0, command⟩

def helpFault (ws : List Text) : LineFault :=
  match ws with
  | [] => .help
  | [w] => if Scope.isName w then .help else .unknownCommand
  | _ => .unknownCommand

/-- Without a command, what is missing depends on whether anything was given. -/
def missing (g : Given) : LineFault :=
  if g.verbosity.isSome then .missingCommand else .nothingGiven

def readWords (g : Given) : List Text → Except LineFault CommandLine
  | [] => .error (missing g)
  | w :: ws =>
      match Scope.ofName? w with
      | some s => readCommand s g.verbosity ws
      | none =>
          if w = Scope.helpName then .error (helpFault ws)
          else match Word.ofText w with
            | .endOfOptions => .error <| match ws with
                | [] => missing g
                | w :: _ => if Scope.isName w then .unknownArgument else .unknownCommand
            | .long name value => do readWords (← g.readLong .program name value) ws
            | .short letters => do readWords (← g.readShort .program letters) ws
            | .plain => .error .unknownCommand

def parse (words : List Text) : Except LineFault CommandLine := readWords {} words

def versionText : Text := "netlinx-rpc 0.1.0\n"

end CommandLine

end RpcDispatch
