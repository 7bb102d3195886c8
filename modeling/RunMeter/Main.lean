import RunMeter.Host
import RunMeter.Program
import RunMeter.Report.Identifier
import RunMeter.Report.Instant
import Std.Time.DateTime.Timestamp

/-!
# The command line

The outermost layer: it fetches the arguments, the clock, a few variables and the files that the
arguments name, lets `Program.run` do everything, and writes what has come of it. Measured commands
run on a modelled host, so nothing that they do reaches the disk.
-/

set_option autoImplicit false

namespace RunMeter

/-- The names that arguments may give to files. -/
def namedFiles (args : List String) : List String :=
  ({} : ProgramFlags).settingsFile :: args.flatMap fun arg => [arg, ((arg.splitOn "=").drop 1).headD ""]

/-- The files of a name, if it can be read. Scripts count as executable. -/
def fetchFile (files : Files) (name : String) : IO Files := do
  if name.isEmpty then return files
  try
    let content ← IO.FS.readBinFile name
    let isScript := content.toList.take 2 == [35, 33]
    return files.place name (.ofContent content isScript)
  catch _ => return files

/-- The host with a variable of the surroundings. -/
def fetchVariable (host : Host) (name : String) : IO Host := do
  match ← IO.getEnv name with
  | some value => return host.withVariable name value
  | none => return host

/-- The identifier and the time of a run that begins now. -/
def fetchStamp : IO RunStamp := do
  let bytes ← IO.getRandomBytes 16
  let now ← Std.Time.Timestamp.now
  let nanos := now.toNanosecondsSinceUnixEpoch.val
  let instant : Instant :=
    { seconds := nanos.fdiv 1000000000, nanos := (nanos.fmod 1000000000).toNat }
  return { runId := Identifier.ofBytes bytes.toList, startedAt := instant.render }

/-- One line of the log. -/
def logText (line : LogLine) : String :=
  (match line.level with
    | .warning => "WARN "
    | .info => "INFO ") ++ line.text

end RunMeter

/-- Runs the program. -/
def main (args : List String) : IO UInt32 := do
  let host ← [RunMeter.repsVariable, "HOME", "PATH"].foldlM RunMeter.fetchVariable
    RunMeter.Host.standard
  let files ← (RunMeter.namedFiles args).foldlM RunMeter.fetchFile {}
  let place : RunMeter.Place :=
    { occasion := { stamp := ← RunMeter.fetchStamp, hostPlatform := some .linux }
      reps := host.value? RunMeter.repsVariable
      outputIsTerminal := ← (← IO.getStdout).isTty
      errorIsTerminal := ← (← IO.getStderr).isTty }
  let outcome := RunMeter.Program.run args host.runner place files ()
  for line in outcome.log do
    IO.eprintln (RunMeter.logText line)
  IO.eprint outcome.streams.stderr
  IO.print outcome.streams.stdout
  return UInt32.ofNat outcome.status
