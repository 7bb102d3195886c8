import RunMeter.Shell.Process

/-!
# Starting programs

Which program a name leads to, and the process that it runs in. A program is a tool, or a script in a
file that may be run.
-/

set_option autoImplicit false

namespace RunMeter.Shell

/-- What a name of a program leads to. -/
inductive Located
  | tool (name : String)
  /-- A script, the name by which it was found, and its text. -/
  | script (name : String) (text : String)

/-- Why no program can be started. -/
inductive LaunchFault
  | missing (fault : FileFault)
  | notPermitted
deriving DecidableEq, Repr

/-- The status that a shell gives to a program that cannot be started. -/
def LaunchFault.status : LaunchFault → Nat
  | .missing _ => 127
  | .notPermitted => 126

/-- The system's wording for it. -/
def LaunchFault.reason : LaunchFault → String
  | .missing fault => (fault.reason?.map (·.1)).getD "Invalid argument"
  | .notPermitted => "Permission denied"

/-- The wording that a shell uses for it. -/
def LaunchFault.message : LaunchFault → String
  | .missing .notFound => "not found"
  | .missing .notADirectory => "not found"
  | fault => fault.reason

/-- The words by which a script is run that names its own interpreter in its first line. -/
def interpreter? (text : String) : Option (List String) :=
  match text.toList with
  | '#' :: '!' :: rest =>
    let line := (rest.takeWhile (· != '\n')).dropWhile isBlank
    let line := (line.reverse.dropWhile isBlank).reverse
    let program := line.takeWhile fun c => !isBlank c
    let argument := (line.drop program.length).dropWhile isBlank
    if program.isEmpty then none
    else some (String.ofList program :: if argument.isEmpty then [] else [String.ofList argument])
  | _ => none

/-- Starts a program by its name with arguments, and gives the run of its process at its end. -/
abbrev Launcher := (name : String) → (args : List String) → Run → Except LaunchFault Run

namespace Run

/-- The program behind a name that is not searched for. -/
def programAt (run : Run) (name : String) : Except LaunchFault Located :=
  match run.locate name with
  | .error fault => .error (.missing fault)
  | .ok path =>
    match System.tool? path with
    | some tool => .ok (.tool tool)
    | none =>
      match run.machine.files.nodeAt path with
      | .ok (.file content permissions) =>
        if permissions &&& 0o111 != 0 then .ok (.script name (Text.octetsOfBytes content))
        else .error .notPermitted
      | .ok _ => .error .notPermitted
      | .error fault => .error (.missing fault)

/-- The name of a program in a directory of the search path. -/
def nameIn (directory name : String) : String :=
  if directory.isEmpty then name else directory ++ "/" ++ name

/-- The program that a name without slashes leads to along the search path, and the name by which it
is found. A file that must not be run is only reported if nothing better follows. -/
def search (run : Run) (name : String) (directories : List String) :
    Except LaunchFault (String × Located) :=
  directories.foldr
    (fun directory later =>
      match run.programAt (nameIn directory name) with
      | .ok located => .ok (nameIn directory name, located)
      | .error (.missing _) => later
      | .error .notPermitted =>
        match later with
        | .ok located => .ok located
        | .error _ => .error .notPermitted)
    (.error (.missing .notFound))

/-- The program that a name leads to, and the name by which it is found. `directories` are searched if
the environment names none. -/
def locateProgram (run : Run) (directories name : String) : Except LaunchFault (String × Located) :=
  if name.isEmpty then .error (.missing .notFound)
  else if name.contains '/' then (run.programAt name).map fun located => (name, located)
  else run.search name (((run.process.value? "PATH").getD directories).splitOn ":")

/-- Where a variable stands in the environment that a shell of the extended dialect gives to a program:
what the program is called comes last. -/
def inheritedPlace (name : String) : Nat := if name == "_" then 1024 else tablePlace name

/-- The process that a program becomes: it has the environment and the descriptors, and nothing else
of the shell. -/
def asProgram (run : Run) (name : String) (arguments : List String) : Run :=
  let (number, machine) := run.machine.fresh
  let before := run.process
  let ignored := before.traps.filter fun (_, action) => action.isEmpty
  let inherited := before.bindings.filter fun (_, v) => v.isExported && v.value.isSome
  let ordered := if before.isExtended then
      inherited.reverse.mergeSort fun a b => inheritedPlace a.1 ≤ inheritedPlace b.1
    else inherited
  { machine
    process :=
      { name
        number
        arguments
        job := before.job
        bindings := ordered
        descriptors := before.descriptors
        directory := before.directory
        place := before.place
        mask := before.mask
        traps := ignored } }

/-- The process of a part of the script that runs by itself. -/
def asPart (run : Run) : Run :=
  { run with
    control := .proceed
    process :=
      { run.process with
        traps := run.process.traps.filter fun (_, action) => action.isEmpty
        depth := run.process.depth + 1
        isLast := false } }

/-- The run after a process of its own has ended as `child`. Jobs that have ended by then are
forgotten without a word. -/
def after (run child : Run) : Run :=
  let run := { run with machine := child.machine.announcedBy child.machine.clock }
  match child.control with
  | .stopped => run.stopping
  | .exhausted => run.exhausting
  | .killed signal target =>
    if target = child.process.number && target != run.process.number then
      (run.announce signal).ended (128 + signal)
    else { run with control := .killed signal target }
  | _ => run.ended (child.process.status % 256)

/-- The run of a process that has become another program, which has ended as `child`. -/
def replacedBy (run child : Run) : Run :=
  let run := { run with machine := child.machine }
  match child.control with
  | .stopped => run.stopping
  | .exhausted => run.exhausting
  | .killed signal target =>
    { run with
      control := .killed signal
        (if target = child.process.number then run.process.number else target) }
  | _ => run.ended (child.process.status % 256)

end Run

end RunMeter.Shell
