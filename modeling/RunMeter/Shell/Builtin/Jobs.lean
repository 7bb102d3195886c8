import RunMeter.Shell.Builtin.Basic

/-!
# Commands on signals and jobs

What a script does with processes other than the one that it runs in: it sends signals, waits for
jobs, and says what is to happen when a signal arrives.
-/

set_option autoImplicit false

namespace RunMeter.Shell.Builtin

/-- The text that explains how `kill` is called. -/
def killUsage : String :=
  "Usage: kill [-s sigspec | -signum | -sigspec] [pid | job]... or\nkill -l [exitstatus]"

/-- The job that a text beginning with a percent sign means, or the current one. -/
def findJob (run : Run) (text : Option String) : Except String Job :=
  let ordered := run.machine.jobs
  let known (job? : Option Job) : Except String Job :=
    match job? with
    | some job => .ok job
    | none =>
      match text with
      | some text => .error ("No such job: " ++ text)
      | none => .error "No current job"
  match text.map String.toList with
  | none | some ['%'] | some ['%', '+'] | some ['%', '%'] =>
    match ordered.head? with
    | some job => .ok job
    | none => .error "No current job"
  | some ['%', '-'] =>
    match ordered[1]? with
    | some job => .ok job
    | none => .error "No previous job"
  | some ('%' :: rest) =>
    match (String.ofList rest).toNat? with
    | some (n + 1) => known (ordered.reverse[n]?)
    | _ => known none
  | some _ => known none

/-- Sends a signal to a process. -/
def signalProcess (signal : Nat) (run : Run) (number : Nat) : Run :=
  if number = run.process.number then
    if signal = 0 || Signal.harmless.contains signal then run
    else if Signal.holding.contains signal then run.stopping
    else { run with control := .killed signal number }
  else
    match run.machine.jobs.find? fun job => job.number == number with
    | some job =>
      if job.finish.any (· ≤ run.machine.clock) then run.failing 1 "No such process\n"
      else if signal = 0 || Signal.harmless.contains signal then run
      else run.onMachine fun machine => machine.endJob number signal
    | none => run.failing 1 "No such process\n"

/-- Sends a signal to a process or to the group of a job. Only a terminal gives jobs groups. -/
def signalTarget (signal : Nat) (run : Run) (target : String) : Run :=
  if target.startsWith "%" then
    match findJob run (some target) with
    | .error text => refuse run text
    | .ok _ => run.failing 1 "No such process\n"
  else if target.startsWith "-" then
    withNumber run (target.drop 1).toString fun _ => run.failing 1 "No such process\n"
  else withNumber run target (signalProcess signal run)

/-- Lists the names of signals, or the one that a status stands for. -/
def listSignals (args : List String) (run : Run) : Run :=
  match args with
  | [] =>
    (run.print
      ("0\n" ++ String.join ((List.range' 1 Signal.last).map fun n => Signal.name n ++ "\n"))).ended 0
  | text :: _ =>
    withNumber run text fun n =>
      let signal := if n > 128 then n - 128 else n
      if 0 < signal && signal ≤ Signal.last then (run.print (Signal.name signal ++ "\n")).ended 0
      else refuse run ("invalid signal number or exit status: " ++ text)

/-- Sends signals. -/
def kill (args : List String) (run : Run) : Run :=
  let usage : Run := refuse run killUsage
  let send (signal : Nat) (targets : List String) : Run :=
    if targets.isEmpty then usage
    else
      targets.foldl
        (fun run target =>
          if run.goesOn && run.process.status != 2 then signalTarget signal run target else run)
        (run.ended 0)
  match args with
  | [] => usage
  | first :: rest =>
    match first.toList with
    | '-' :: letters =>
      match Signal.ofText? 1 (String.ofList letters) with
      | some signal => send signal rest
      | none =>
        withOptions "ls:" args run fun given targets run =>
          match given.find? fun (letter, value) =>
            letter == 's' && (Signal.ofText? 1 value).isNone with
          | some (_, value) => refuse run ("invalid signal number or name: " ++ value)
          | none =>
            let signal? := (given.reverse.lookup 's').bind (Signal.ofText? 1)
            if given.any fun (letter, _) => letter == 'l' then
              if signal?.isSome then usage else listSignals targets run
            else send (signal?.getD 15) targets
    | _ => send 15 args

/-- Waits until a job has ended. -/
def await (run : Run) (job : Job) : Run :=
  match job.finish with
  | some time => run.waitUntil time
  | none => run.stopping

/-- Waits until a job has ended, and takes over its status. -/
def awaitStatus (run : Run) (job : Job) : Run :=
  let run := (await run job).ended job.status
  if job.isAnnounced then run
  else (run.announce (job.status - 128)).onMachine (·.announced job.number)

/-- Waits for jobs. -/
def wait (args : List String) (run : Run) : Run :=
  withOptions "" args run fun _ operands run =>
    if operands.isEmpty then (run.machine.jobs.reverse.foldl await run).ended 0
    else
      operands.foldl
        (fun run target =>
          if !run.goesOn || run.process.status = 2 then run
          else if target.startsWith "%" then
            match findJob run (some target) with
            | .ok job => awaitStatus run job
            | .error text => refuse run text
          else
            withNumber run target fun number =>
              match run.machine.jobs.find? fun job => job.number == number with
              | some job => awaitStatus run job
              | none => run.ended 127)
        (run.ended 0)

/-- Shows the state of jobs. -/
def jobs (args : List String) (run : Run) : Run :=
  withOptions "lp" args run fun given operands run =>
    let ordered := run.machine.jobs.reverse
    let line (index : Nat) (job : Job) : String :=
      if given.any fun (letter, _) => letter == 'p' then toString job.number ++ "\n"
      else
        let mark := if index + 1 = ordered.length then "+"
          else if index + 2 = ordered.length then "-" else " "
        let state :=
          if job.finish.all (run.machine.clock < ·) then "Running"
          else if job.status = 0 then "Done"
          else if job.status > 128 then (Signal.announcement? (job.status - 128)).getD ""
          else "Done(" ++ toString job.status ++ ")"
        "[" ++ toString (index + 1) ++ "] " ++ mark ++ " " ++ state ++
          String.ofList (List.replicate (27 - state.length) ' ') ++ "\n"
    match operands with
    | [] =>
      (run.print (String.join (ordered.mapIdx line))).ended 0
    | target :: _ =>
      match findJob run (some target) with
      | .error text => refuse run text
      | .ok job => (run.print (line (ordered.findIdx fun other => other.number == job.number) job)).ended 0

/-- Continues a job, which takes a terminal. -/
def continueJob (args : List String) (run : Run) : Run :=
  withOptions "" args run fun _ operands run =>
    match findJob run operands.head? with
    | .error text => refuse run text
    | .ok _ =>
      refuse run ("job " ++ operands.headD "(null)" ++ " not created under job control")

/-- The commands that signals set off, without those for some signals. -/
def withoutTraps (traps : List (Nat × String)) (signals : List Nat) : List (Nat × String) :=
  traps.filter fun (signal, _) => !signals.contains signal

/-- Sets commands for signals and for the end of the script. -/
def trap (args : List String) (run : Run) : Run :=
  withOptions "" args run fun _ operands run =>
    match operands with
    | [] =>
      let ordered := run.process.traps.mergeSort fun a b => a.1 ≤ b.1
      (run.print (String.join (ordered.map fun (signal, action) =>
        "trap -- " ++ quoted action ++ " " ++ Signal.name signal ++ "\n"))).ended 0
    | first :: others =>
      let isNumber := !first.isEmpty && first.toList.all Char.isDigit
      let (action, conditions) : Option String × List String :=
        if others.isEmpty || (isNumber && (Signal.ofText? 0 first).isSome) then (none, operands)
        else (if first == "-" then none else some first, others)
      conditions.foldl
        (fun run condition =>
          if run.process.status != 0 then run
          else
            match Signal.ofText? 0 condition with
            | none => (run.write 2 ("trap: " ++ condition ++ ": bad trap\n")).ended 1
            | some signal =>
              run.onProcess fun process =>
                let traps := withoutTraps process.traps [signal]
                { process with traps := traps ++ action.toList.map fun action => (signal, action) })
        (run.ended 0)

end RunMeter.Shell.Builtin
