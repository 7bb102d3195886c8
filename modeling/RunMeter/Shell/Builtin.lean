import RunMeter.Shell.Builtin.Extended
import RunMeter.Shell.Builtin.Jobs
import RunMeter.Shell.Builtin.Lookup
import RunMeter.Shell.Builtin.Places
import RunMeter.Shell.Builtin.Variables
import RunMeter.Shell.Condition
import RunMeter.Shell.Print
import RunMeter.Shell.Tool.Judge

/-!
# Commands of the shell itself

The commands that a shell carries out without starting a program and that run no further commands, by
name. A command that could not write all it had to say complains about that last.
-/

set_option autoImplicit false

namespace RunMeter.Shell.Builtin

/-- Ends the script. -/
def leaveScript (args : List String) (run : Run) : Run :=
  match args with
  | [] => run.leaving run.process.status
  | arg :: _ => withNumber run arg fun n => run.leaving n

/-- Ends a function. -/
def leaveFunction (args : List String) (run : Run) : Run :=
  match args with
  | [] => { run with control := .returned }
  | arg :: _ => withNumber run arg fun n => { run.ended n with control := .returned }

/-- Leaves loops, or goes on with their next rounds. There are never more than those around. -/
def leaveLoops (control : Nat → Control) (args : List String) (run : Run) : Run :=
  let leave (count : Nat) : Run :=
    match min count run.process.loops with
    | 0 => run.ended 0
    | loops => { run.ended 0 with control := control loops }
  match args with
  | [] => leave 1
  | arg :: _ =>
    withNumber run arg fun n =>
      if n = 0 then refuse run ("Illegal number: " ++ arg) else leave n

/-- Decides a condition. -/
def test (args : List String) (run : Run) : Run :=
  match Condition.evaluate (Tool.questions run) args with
  | .ok outcome => run.ended (if outcome then 0 else 1)
  | .error fault => refuse run fault.message

/-- Prints words by a format. -/
def print (args : List String) (run : Run) : Run :=
  withOptions "" args run fun _ operands run =>
    match operands with
    | [] => refuse run "usage: printf format [arg ...]"
    | format :: words =>
      let printed := Print.formatted (.shell .plain) format words
      let faults := printed.faults.filter fun fault =>
        match fault with
        | .excess _ => false
        | _ => true
      faults.foldl
        (fun run fault => run.failing (if printed.isBroken then 2 else 1) fault.shellMessage)
        ((run.print printed.text).ended 0)

/-- The command with a name, if it is one that runs no others. -/
def command? (name : String) : Option (List String → Run → Run) :=
  match name with
  | ":" | "true" => some fun _ run => run.ended 0
  | "false" => some fun _ run => run.ended 1
  | "echo" => some fun args run => (run.print (Print.echoLine args)).ended 0
  | "printf" => some print
  | "test" => some test
  | "[" =>
    some fun args run =>
      if args.getLast? == some "]" then test args.dropLast run
      else refuse run Condition.Fault.missingBracket.message
  | "exit" => some leaveScript
  | "return" => some leaveFunction
  | "break" => some (leaveLoops .breakOut)
  | "continue" => some (leaveLoops .nextRound)
  | "shift" => some shift
  | "set" => some set
  | "export" =>
    some (declare (fun entry => { entry with isExported := true }) (·.isExported))
  | "readonly" =>
    some (declare (fun entry => { entry with isConstant := true }) (·.isConstant))
  | "local" => some hide
  | "unset" => some unset
  | "cd" | "chdir" => some cd
  | "pwd" => some pwd
  | "umask" => some umask
  | "ulimit" => some ulimit
  | "read" => some read
  | "getopts" => some getopts
  | "alias" => some aliases
  | "unalias" => some unalias
  | "type" => some (describe true)
  | "hash" => some hash
  | "kill" => some kill
  | "wait" => some wait
  | "jobs" => some jobs
  | "fg" => some continueJob
  | "bg" => some continueJob
  | "trap" => some trap
  | "times" =>
    some fun _ run => (run.print "0m0.000000s 0m0.000000s\n0m0.000000s 0m0.000000s\n").ended 0
  | _ => none

/-- Complains if the command could not write. -/
def closed (run : Run) : Run :=
  match run.unwritten with
  | some fault =>
    if run.goesOn then
      let text := if run.process.isExtended then "write error: " ++ Tool.faultText fault
        else run.process.command ++ ": I/O error"
      { run with unwritten := none }.failing (run.process.status ||| 1) text
    else run
  | none => run

/-- Carries out the command with a name, if it is one that runs no others. -/
def run? (name : String) (args : List String) (run : Run) : Option Run :=
  let found := if run.process.isExtended then Extended.command? name else command? name
  found.map fun command =>
    let before := run.process.command
    let run := { run with unwritten := none }.onProcess fun process => { process with command := name }
    (closed (command args run)).onProcess fun process => { process with command := before }

end RunMeter.Shell.Builtin
