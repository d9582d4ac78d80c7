import TypeRegistry.CommandLine.Arguments
import TypeRegistry.CommandLine.Environment
import TypeRegistry.Source.Access

/-!
# Running the command line

A run loads the entities of the paths that the arguments or the environment name, answers one
inquiry and prints the reply over several lines.  The exit code is 0 for a success, 1 for a reply
that reports a failure and for settings or files that cannot be read, and 2 for arguments that ask
for nothing.

Main definitions:

- `Outcome`: an exit code and what is printed.
- `Command.run`: the outcome of a command in a registry.
- `pathsToRead`: the paths that a run reads.
- `runCommandLine`: the outcome of arguments in a workspace with an environment.
-/

namespace TypeRegistry

/-- How a run ends: the exit code, and what is printed. -/
structure Outcome where
  exitCode : Nat
  output : String
deriving DecidableEq, Repr

namespace Outcome

/-- The end of a run that prints nothing. -/
def silent (exitCode : Nat) : Outcome := ⟨exitCode, ""⟩

/-- The end of a run that prints a document. -/
def printing (exitCode : Nat) (document : Json) : Outcome :=
  ⟨exitCode, document.writeIndented ++ "\n"⟩

/-- The end of a run that prints a reply. -/
def ofReply (reply : Reply) : Outcome :=
  match reply.toJson? with
  | some document => printing (if reply.isSuccess then 0 else 1) document
  | none => silent 1

/-- The end of a run whose arguments ask for nothing that can be done. -/
def ofUsageFault : UsageFault → Outcome
  | .helpWanted => silent 0
  | _ => silent 2

end Outcome

/-- The outcome of reading the identity of the document in a file. -/
def extractFrom (workspace : Workspace) (registry : Registry) (path : String) : Outcome :=
  match workspace.openFile path with
  | .error fault => .printing 1 (problemJson fault.message)
  | .ok bytes =>
    match decodedText? bytes with
    | none => .silent 1
    | some text =>
      match Json.read text with
      | .error ⟨.tooManyDigits, _⟩ => .silent 1
      | .error fault => .printing 1 (problemJson (fault.message text))
      | .ok document => .ofReply (registry.consult (.extractId document)).value

/-- The outcome of matching an identifier with nothing: what is wrong with the identifier, if
anything is. -/
def matchNothing (candidate : String) : Outcome :=
  match Identifier.parse candidate with
  | .ok _ => .silent 1
  | .error fault =>
    .printing 1 (.obj [("candidate", .str candidate), ("pattern", .arr []), ("match", .bool false),
      ("error", .str fault.message)])

/-- The outcome of casting an instance to nothing: that the instance is missing, if it is. -/
def castToNothing (registry : Registry) (instanceId : String) : Outcome :=
  match registry.store.lookup? instanceId with
  | some _ => .silent 1
  | none => .ofReply (.cast (.error (.registry (.entityNotFound instanceId))))

/-- The outcome of a command in a registry. -/
def Command.run (workspace : Workspace) (registry : Registry) : Command → Outcome
  | .inquire inquiry => .ofReply (registry.consult inquiry).value
  | .extractFrom path => TypeRegistry.extractFrom workspace registry path
  | .matchNothing candidate => TypeRegistry.matchNothing candidate
  | .castToNothing instanceId => TypeRegistry.castToNothing registry instanceId
  | .unanswerable => .silent 1

/-- The settings of an invocation in an environment; every path must be a text. -/
def Invocation.settings (environment : Environment) (invocation : Invocation) :
    Except SettingsFault Settings :=
  match OptionValue.texts? invocation.paths with
  | none => .error .paths
  | some paths =>
    Settings.ofEnvironment environment paths (invocation.logLevel.bind OptionValue.text?)

/-- The paths that a run reads: those that are loaded, and the file that the command names. -/
def pathsToRead (workspace : Workspace) (environment : Environment) (arguments : List String) :
    List String :=
  match Invocation.ofArguments arguments with
  | .error _ => []
  | .ok invocation =>
    match invocation.settings environment with
    | .error _ => []
    | .ok settings =>
      let roots := settings.paths.map workspace.expandHome
      match invocation.command with
      | .extractFrom path => roots ++ [path]
      | _ => roots

/-- The outcome of arguments in a workspace with an environment. -/
def runCommandLine (workspace : Workspace) (environment : Environment)
    (arguments : List String) : Outcome :=
  match Invocation.ofArguments arguments with
  | .error fault => .ofUsageFault fault
  | .ok invocation =>
    match invocation.settings environment with
    | .error _ => .silent 1
    | .ok settings => invocation.command.run workspace (Registry.ofWorkspace workspace settings {})

end TypeRegistry
