import ReviewGate.CommandLine.Run
import Std.Time.DateTime.Timestamp

/-!
# The program

Reads the environment and the files that the arguments name, runs the command and prints its report.
-/

namespace ReviewGate.CommandLine

/-- Why the system could not read a file. -/
private def fileError : IO.Error → FileError
  | .noFileOrDirectory .. => .missing
  | .inappropriateType _ code _ => if code = 20 then .notDirectory else .directory
  | error => .other (toString error)

private def readTextFile (path : String) : IO (Except FileError String) := do
  try
    let bytes ← IO.FS.readBinFile path
    return match String.fromUTF8? bytes with
      | some text => .ok text
      | none => .error .notText
  catch error => return .error (fileError error)

private def currentInstant : IO Instant := do
  let now ← Std.Time.Timestamp.now
  let nanos := now.toNanosecondsSinceUnixEpoch.val
  return ⟨nanos / 1000000000, (nanos % 1000000000).toNat⟩

private def seed : IO String := do
  let bytes ← IO.getRandomBytes 16
  return String.join (bytes.toList.map fun byte => toString byte.toNat ++ ".")

/-- The surroundings of a call. -/
private def surroundings (arguments : List String) : IO Surroundings := do
  let names := [configVariable, modeVariable, authorVariable]
  let values ← names.mapM fun name => do return (name, ← IO.getEnv name)
  let environment : Environment := fun name =>
    (values.find? fun value => value.1 == name).bind Prod.snd
  let paths := (Request.ofArguments environment arguments).files
  let contents ← paths.mapM fun path => do return (path, ← readTextFile path)
  let drawn ← seed
  return {
    environment
    fileText := fun path =>
      ((contents.find? fun content => content.1 == path).map Prod.snd).getD (.error .missing)
    now := ← currentInstant
    ids := .ofSeed drawn
    keys := .start fun identity number =>
      Digest.ofText (identity ++ ":" ++ drawn ++ toString number) }

end ReviewGate.CommandLine

def main (arguments : List String) : IO UInt32 := do
  let report := ReviewGate.CommandLine.run
    (← ReviewGate.CommandLine.surroundings arguments) arguments
  for line in report.lines do
    IO.println line
  match report.error with
  | some message => IO.eprintln ("Error: " ++ message)
  | none => pure ()
  return report.status.toUInt32
