import NetworkSlice.Api.Objects
import NetworkSlice.Api.Secrets
import NetworkSlice.Service

/-
The command line: one operation on a request in a file.

A command reads its settings from the environment and the request from a
file, and prints a plan or the response. What it reads and asks is a `World`,
so a command is a function from a world to what it prints.
-/
namespace NetworkSlice.Command

/-- What surrounds a command. -/
structure World (τ : Type) where
  /-- The variables of the environment. -/
  environment : String → Option String
  /-- The bytes of a file, or why there are none. -/
  file : String → Except String Bytes
  /-- What carries the requests of clients with these settings. -/
  transport : Http.ClientSettings → Http.Transport τ
  /-- The id of the operation. -/
  operationId : String
  /-- What the clock reads when the operation starts. -/
  clock : Instant

/-- What a command prints, and its exit code. -/
structure Output where
  exitCode : Nat
  lines : List String
  errors : String
deriving DecidableEq, Repr

/-- What stopped a command. -/
structure Failure where
  /-- What it was doing. -/
  context : String
  cause : Option String
deriving DecidableEq, Repr

namespace Failure

/-- A failure that needs no more words. -/
def plain (message : String) : Failure := ⟨message, none⟩

/-- A failure on the way to something. -/
def during (context cause : String) : Failure := ⟨context, some cause⟩

/-- What is printed of a failure. All lines of a cause are indented. -/
def text (f : Failure) : String :=
  match f.cause with
  | none => s!"Error: {f.context}"
  | some cause =>
    s!"Error: {f.context}\n\nCaused by:\n    " ++ "\n    ".intercalate (cause.splitOn "\n")

end Failure

/-- How the program is called. -/
def usage : String :=
  "usage: slice-apply <create-slice|delete-slice|create-network|delete-network|plan> <request.json>"

/-- The variables of the environment that settings and clients are read
from. -/
def environmentNames : List String := [
  "SLICE_DEFAULT_NAMESPACE", "SLICE_CREDENTIAL_SELECTOR", "SLICE_OPERATION_TIMEOUT_SECS",
  "SLICE_EMPTY_LINKS", "SLICE_MANAGER_ENDPOINT", "SLICE_MANAGER_TOKEN", "SLICE_MANAGER_CA",
  "SLICE_HTTP_TIMEOUT_SECS"]

/-- The files that a command with these arguments may read. -/
def paths (args : List String) (environment : String → Option String) : List String :=
  args.drop 1 ++ (environment "SLICE_MANAGER_CA").toList

/-- The settings of the environment. -/
def settings {τ : Type} (w : World τ) : Except Failure Settings :=
  (Settings.ofEnvironment w.environment).mapError fun e =>
    .during "loading orchestrator config" e.message

/-- The request in a file. -/
def request {τ : Type} (w : World τ) (path : String) : Except Failure Request := do
  let bytes ← (w.file path).mapError (.during s!"reading {path}")
  match String.fromUTF8? ⟨bytes.toArray⟩ with
  | none => .error (.during s!"reading {path}" "stream did not contain valid UTF-8")
  | some text =>
    (Request.format.readText text).mapError fun e =>
      .during s!"parsing slice request {path}" e.message

/-- The lines of a plan: every object under a heading. -/
def planLines (plan : Plan) : List String :=
  plan.participants.flatMap fun p =>
    p.descriptors.flatMap fun d =>
      s!"# {p.participant} / {d.kind.objectName}" :: (d.toObject.pretty.splitOn "\n")

/-- Print the plan of a request. -/
def printPlan (s : Settings) (r : Request) : Except Failure (List String) := do
  let plan ← ((Composer.ofSettings s).plan r.slice .slice).mapError fun e =>
    .during "composing slice plan" e.message
  return planLines plan

/-- The credential of the managing cluster. -/
def manager {τ : Type} (w : World τ) : Except Failure Credential := do
  let endpoint := (w.environment "SLICE_MANAGER_ENDPOINT").getD "https://127.0.0.1:6443"
  let token ← match w.environment "SLICE_MANAGER_TOKEN" with
    | some token => .ok token
    | none => .error (.during "SLICE_MANAGER_TOKEN not set" "environment variable not found")
  let ca ← match w.environment "SLICE_MANAGER_CA" with
    | none => .ok none
    | some path =>
      ((w.file path).map some).mapError (.during s!"reading CA bundle {path}")
  return ⟨endpoint, token, ca⟩

/-- The settings of clients; what is no number of seconds is passed over. -/
def clientSettings {τ : Type} (w : World τ) : Http.ClientSettings :=
  match (w.environment "SLICE_HTTP_TIMEOUT_SECS").bind Settings.readSeconds with
  | some secs => ⟨secs⟩
  | none => .standard

/-- The method of a command. -/
def method? (command : String) : Option Method :=
  if command = "create-slice" then some .createSlice
  else if command = "delete-slice" then some .deleteSlice
  else if command = "create-network" then some .createNetwork
  else if command = "delete-network" then some .deleteNetwork
  else none

/-- Carry out a method; whoever takes part is asked from the state `net`. -/
def carryOut {τ : Type} (w : World τ) (net : τ) (s : Settings) (m : Method) (r : Request)
    (client : Http.Client) : Service.Result (Api.Session τ) :=
  let transport := w.transport (clientSettings w)
  let list : Lister := fun selector dataKey =>
    ⟨some 0, (Api.listSecrets client transport net selector dataKey).1⟩
  Service.execute s m r w.clock list (Api.cluster transport) fun _ => ⟨none, net⟩

/-- What is printed of the way a request ended. -/
def present (operationId : String) : Service.Ending → Output
  | .refused e => ⟨1, [], (Failure.during "slice request rejected" e.message).text⟩
  | .noInstant => ⟨101, [], "overflow when adding duration to instant"⟩
  | .endless => ⟨1, [], (Failure.plain "no answer").text⟩
  | .answered response =>
    let lines := (response.toJson operationId).pretty.splitOn "\n"
    if response.allSucceeded then ⟨0, lines, ""⟩
    else ⟨1, lines, (Failure.plain response.message).text⟩

/-- Run the command line with the given arguments. -/
def run {τ : Type} (w : World τ) (net : τ) (args : List String) : Output :=
  let attempt : Except Failure Output := do
    match args with
    | [command, path] =>
      let s ← settings w
      let r ← request w path
      if command = "plan" then
        return ⟨0, ← printPlan s r, ""⟩
      let credential ← manager w
      let client ← (Api.lister credential).mapError fun e =>
        .during "building secret lister" e.message
      match method? command with
      | none => .error (.plain s!"unknown command: {command}")
      | some m => return present w.operationId (carryOut w net s m r client).ending
    | _ => .error (.plain usage)
  match attempt with
  | .ok output => output
  | .error f => ⟨1, [], f.text⟩

end NetworkSlice.Command
