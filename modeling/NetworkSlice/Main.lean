import NetworkSlice.Command
import NetworkSlice.Operation.Id
import Std.Time.DateTime.Timestamp

/-
The program: collects what surrounds a command and prints what comes of it.

It has no way to reach a server, so every request that a command sends goes
unanswered; plans need none.
-/
namespace NetworkSlice

/-- The text of a failure to read a file: the words for it and its number. -/
def fileFault : IO.Error → String
  | .noFileOrDirectory _ code words
  | .permissionDenied _ code words
  | .inappropriateType _ code words
  | .invalidArgument _ code words => s!"{words} (os error {code})"
  | e => toString e

/-- The bytes of a file. -/
def readFile (path : String) : IO (Except String Bytes) := do
  match ← (IO.FS.readBinFile path).toBaseIO with
  | .ok bytes => return .ok bytes.toList
  | .error e => return .error (fileFault e)

/-- The variables of the environment that a command reads. -/
def readVariables : IO (List (String × String)) :=
  Command.environmentNames.filterMapM fun name => do
    return (← IO.getEnv name).map fun value => (name, value)

/-- An id for an operation that starts now. -/
def newOperationId : IO String := do
  let now ← Std.Time.Timestamp.now
  let chance ← IO.getRandomBytes 10
  let number (bytes : Bytes) : Nat := bytes.foldl (fun n b => n * 256 + b.toNat) 0
  return OperationId.text now.toMillisecondsSinceUnixEpoch.toInt.toNat
    (number (chance.toList.take 2)) (number (chance.toList.drop 2))

end NetworkSlice

open NetworkSlice in
/-- Run one command. -/
def main (args : List String) : IO UInt32 := do
  let found ← readVariables
  let environment (name : String) : Option String := found.lookup name
  let paths := Command.paths args environment
  let files ← paths.mapM fun path => return (path, ← readFile path)
  let id ← newOperationId
  let world : Command.World Unit := {
    environment
    file := fun path => (files.lookup path).getD (.error "not read")
    transport := fun _ => .silent
    operationId := id
    clock := .ofNanos (← IO.monoNanosNow) }
  let output := Command.run world () args
  for line in output.lines do
    IO.println line
  unless output.errors.isEmpty do
    IO.eprintln output.errors
  return output.exitCode.toUInt32
