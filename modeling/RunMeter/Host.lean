import RunMeter.Runner
import RunMeter.Shell.Interpreter

/-!
# The host

The machine on which measured programs run, as far as a measurement can see it: its files, its
environment, a shell and a few tools. `Host.runner` is the runner that starts a command there. A
command that cannot be started, is still running at its limit, or leaves someone behind who keeps its
output open until then yields a sample that did not succeed.
-/

set_option autoImplicit false

namespace RunMeter

/-- What programs inherit from the host. -/
structure Host where
  environment : List (String × String)
deriving DecidableEq, Repr

/-- Why a command cannot be started at all. -/
inductive StartFault
  | missing (fault : FileFault)
  | notPermitted
  | notExecutable
  | zeroCharacter
deriving DecidableEq, Repr

/-- The wording of a fault. -/
def StartFault.message : StartFault → String
  | .missing fault => fault.message
  | .notPermitted => "Permission denied (os error 13)"
  | .notExecutable => "Exec format error (os error 8)"
  | .zeroCharacter => "nul byte found in provided data"

/-- The fault of a start that comes from the program's name. -/
def StartFault.ofLaunch : Shell.LaunchFault → StartFault
  | .missing fault => .missing fault
  | .notPermitted => .notPermitted

namespace Host

open Shell

/-- A host with nothing of note in its environment. -/
def standard : Host :=
  { environment :=
      [("HOME", "/root"),
        ("PATH", shellDirectories)] }

/-- The host with one more variable in its environment. -/
def withVariable (host : Host) (name value : String) : Host :=
  { environment := host.environment.filter (fun (k, _) => k != name) ++ [(name, value)] }

/-- The value of a variable of the environment. -/
def value? (host : Host) (name : String) : Option String := host.environment.lookup name

/-- The environment with the changes of a command. With any change it is put in order. -/
def changed (environment : List (String × String)) (changes : Overlay) :
    List (String × String) :=
  if changes.isEmpty then environment
  else
    let kept := environment.filter fun (name, _) => (changes.change? name).isNone
    let added := changes.filterMap fun (name, change) => change.map fun value => (name, value)
    (kept ++ added).mergeSort fun a b => a.1 ≤ b.1

/-- How deep a run may go. -/
def depth : Nat := 200000

/-- The number of the sink of the standard output. -/
def outputSink : Nat := 1

/-- The number of the sink of the standard error output. -/
def errorSink : Nat := 2

/-- The number of the first process. -/
def firstNumber : Nat := 1000

/-- A limit in milliseconds, rounded up. -/
def limitMillis (limit : Duration) : Nat :=
  limit.seconds.toNat * 1000 + (limit.nanos + 999999) / 1000000

/-- Whether a text has a character that no argument and no variable can have. -/
def hasZero (text : String) : Bool := text.toList.contains (Char.ofNat 0)

/-- Whether a command has such a character anywhere. -/
def commandHasZero (command : Command) : Bool :=
  command.words.any hasZero ||
    command.environment.any fun (name, change) => hasZero name || change.any hasZero

/-- A variable as a program sees it: its name ends before the first equals sign after its first
character. -/
def entry (name value : String) : String × String :=
  match name.toList with
  | [] => (name, value)
  | c :: rest =>
    let shorter := c :: rest.takeWhile (· != '=')
    if shorter.length = name.length then (name, value)
    else (String.ofList shorter, String.ofList (name.toList.drop (shorter.length + 1)) ++ "=" ++ value)

/-- The run from which a command is started. -/
def beginning (host : Host) (command : Command) (limit : Option Duration) (files : Files) : Run :=
  let environment := changed host.environment command.environment
  let output (sink : Nat) : Channel := if command.discardsOutput then .nothing else .sink sink
  { machine :=
      { files := System.withFiles files
        limit := limit.map limitMillis
        nextNumber := firstNumber }
    process :=
      { name := ""
        number := 0
        bindings := environment.map fun (name, value) =>
          let (name, value) := entry name value
          (Text.octets name, { value := some (Text.octets value), isExported := true })
        descriptors := [(0, .nothing), (1, output outputSink), (2, output errorSink)] } }

/-- What a command starts, unless it cannot be started. A script that names no interpreter is only
run if the search path was changed along with the command. -/
def startable (command : Command) (run : Run) : Except StartFault Located :=
  if commandHasZero command then .error .zeroCharacter
  else
    match run.locateProgram standardDirectories (Text.octets command.program) with
    | .error fault => .error (.ofLaunch fault)
    | .ok (_, .tool tool) => .ok (.tool tool)
    | .ok (_, .script path text) =>
      match interpreter? text with
      | some (program :: _) =>
        match run.programAt program with
        | .ok _ => .ok (.script path text)
        | .error fault => .error (.ofLaunch fault)
      | _ =>
        if (command.environment.change? "PATH").isSome then .ok (.script path text)
        else .error .notExecutable

/-- The sample of a run that has ended, or has been stopped. -/
def sampleOf (command : Command) (run : Run) : Sample :=
  let exitCode : Option Int := match run.control with
    | .stopped | .exhausted | .killed _ _ => none
    | _ => some (run.process.status % 256 : Nat)
  let stoppedAt (exitCode : Option Int) : Sample :=
    { exitCode
      timedOut := true
      elapsed := Duration.ofMillis (UInt64.ofNat (run.machine.limit.getD run.machine.clock)) }
  if run.isEndless then stoppedAt none
  else
    let closing :=
      if command.discardsOutput then some run.machine.clock
      else run.machine.closingTime? [outputSink, errorSink] run.machine.clock
    match closing with
    | none => stoppedAt exitCode
    | some time =>
      if run.machine.allows time then
        { stdout := Text.octetText (run.machine.collected outputSink)
          stderr := Text.octetText (run.machine.collected errorSink)
          succeeded := exitCode == some 0
          elapsed := Duration.ofMillis (UInt64.ofNat time)
          exitCode }
      else stoppedAt exitCode

/-- Runs a command within a limit. -/
def run (host : Host) (command : Command) (limit : Option Duration) (files : Files) :
    Sample × Files :=
  let run := host.beginning command limit files
  match startable command run with
  | .error fault => ({ startError := some fault.message }, files)
  | .ok located =>
    if run.machine.allows 0 then
      let run := run.enter depth located (Text.octets command.program) (command.args.map Text.octets)
      (sampleOf command run, run.machine.files)
    else (sampleOf command run.stopping, files)

/-- The runner that starts commands on a host. -/
def runner (host : Host) : Runner Unit where
  run command limit files _ :=
    let (sample, files) := host.run command limit files
    (sample, files, ())

end Host

end RunMeter
