import RunMeter.Number.Power
import RunMeter.Shell.Cursor
import RunMeter.Shell.Machine
import RunMeter.Shell.Script
import RunMeter.Shell.Signal
import RunMeter.Shell.System

/-!
# Processes

A `Process` is what one shell keeps to itself; a `Run` is a process on a machine together with the way
it goes on. Everything that a command does to its surroundings is one of the operations on runs in
this module.
-/

set_option autoImplicit false

namespace RunMeter.Shell

/-- The value of a variable if it has one, whether programs inherit it, and whether it must not
change. -/
structure Variable where
  value : Option String
  isExported : Bool := false
  isConstant : Bool := false
  /-- The elements of a list with their subscripts. The value is then that of the element zero. -/
  items : Option (List (String × String)) := none
  /-- Whether the subscripts are texts and not numbers. -/
  isKeyed : Bool := false
  /-- Whether values are expressions, of which the results are kept. -/
  isNumeric : Bool := false
  /-- Whether letters become capitals, or the other way round. -/
  raises : Option Bool := none
  /-- Whether the value is the name of another variable that is meant. -/
  isReference : Bool := false
deriving DecidableEq, Repr

/-- Where a text stands among others that are kept in a table of places. -/
def tablePlace (text : String) : Nat :=
  (text.foldl (fun n c => (n * 16777619) % 2 ^ 32 ^^^ c.toNat) 2166136261) % 1024

namespace Variable

/-- Puts an element among others: texts by their places, numbers in their own order. -/
def insert (isKeyed : Bool) (key value : String) (items : List (String × String)) :
    List (String × String) :=
  if items.any fun (other, _) => other == key then
    items.map fun (other, old) => (other, if other == key then value else old)
  else
    let isBefore (other : String) : Bool :=
      if isKeyed then tablePlace other < tablePlace key
      else other.toNat?.getD 0 < key.toNat?.getD 0
    items.takeWhile (fun (other, _) => isBefore other) ++
      (key, value) :: items.dropWhile fun (other, _) => isBefore other

/-- The elements of a variable; one that is no list has a single one. -/
def elements (entry : Variable) : List (String × String) :=
  entry.items.getD ((entry.value.map fun value => [("0", value)]).getD [])

/-- A variable with another list. -/
def withItems (entry : Variable) (items : List (String × String)) : Variable :=
  { entry with items := some items, value := items.lookup "0" }

/-- A variable with one element set. -/
def setItem (entry : Variable) (key value : String) : Variable :=
  entry.withItems (insert entry.isKeyed key value entry.elements)

end Variable

/-- The state of one shell. -/
structure Process where
  /-- The name by which it was started. -/
  name : String
  /-- How its scripts are written. -/
  dialect : Dialect := .plain
  /-- How complaints about the writing of a script name it. -/
  label : String := ""
  /-- The file that the current command comes from, if it was not given in an argument. -/
  origin : String := ""
  /-- The options without letters that are on. -/
  switches : List String := []
  /-- How many parts of the script that run by themselves the current command stands in. -/
  depth : Nat := 0
  /-- How many scripts whose output is taken, or that were given as words, the current command stands
  in. -/
  nesting : Nat := 0
  /-- The names of the functions that the current command stands in, the innermost first. -/
  callers : List String := []
  /-- The files that the functions come from. -/
  homes : List (String × String) := []
  /-- How many scripts that were sourced the current command stands in. -/
  sourced : Nat := 0
  /-- The directories that were left to be come back to, the last one first. -/
  visited : List String := []
  /-- Whether nothing follows the current command in the script. -/
  isLast : Bool := false
  number : Nat
  /-- The job that it belongs to, or zero. -/
  job : Nat := 0
  bindings : List (String × Variable) := []
  arguments : List String := []
  functions : List (String × Statement) := []
  /-- The outcome of the last command. -/
  status : Nat := 0
  /-- The outcomes of the members of the last pipeline. -/
  outcomes : List Nat := [0]
  /-- The outcome of the last script whose output the current command has taken. -/
  captured : Nat := 0
  lastJob : Option Nat := none
  descriptors : List (Nat × Channel)
  directory : Path := []
  /-- The way to the directory as it was named, which may lead over links. -/
  place : Path := []
  /-- The commands that signals, or the end of the script as signal zero, set off. -/
  traps : List (Nat × String) := []
  /-- The variables that the current function hides. -/
  hidden : List (String × Option Variable) := []
  /-- The letters of the options that are on. -/
  options : List Char := []
  /-- The words that stand for the beginnings of commands. -/
  aliases : List (String × String) := []
  /-- The permissions that new files do not get. -/
  mask : Nat := 0o022
  /-- The argument that `getopts` goes on with. -/
  optionIndex : Nat := 1
  /-- How far the options in the argument before that have been taken apart. -/
  optionOffset : Option Nat := none
  /-- The paths of the programs that have been looked for. -/
  found : List (String × String) := []
  /-- The command of the shell that is being carried out, or nothing. -/
  command : String := ""
  /-- How many functions the current command stands in. -/
  calls : Nat := 0
  /-- How many conditions the current command stands in. -/
  tests : Nat := 0
  /-- How many loops the current command stands in. -/
  loops : Nat := 0
  line : Nat := 1

/-- How a run goes on. -/
inductive Control
  | proceed
  /-- The process is at its end. -/
  | leave
  /-- A fault ends the script. -/
  | aborted
  /-- A fault ends the line of the script. -/
  | discarded
  /-- The script cannot be read any further. -/
  | unread
  /-- A signal ends the process with a number. -/
  | killed (signal target : Nat)
  | breakOut (loops : Nat)
  | nextRound (loops : Nat)
  | returned
  /-- The limit has been reached. -/
  | stopped
  /-- The run has gone on for so long that it counts as endless. -/
  | exhausted
deriving DecidableEq, Repr

/-- A process on a machine. -/
structure Run where
  process : Process
  machine : Machine
  control : Control := .proceed
  /-- Why the standard output could not be written since the current command began. -/
  unwritten : Option FileFault := none

namespace Process

/-- Whether scripts are written in the extended dialect. -/
def isExtended (process : Process) : Bool := process.dialect == .extended

/-- Whether an option without a letter is on. -/
def isOn (process : Process) (name : String) : Bool := process.switches.contains name

/-- Turns an option without a letter on or off. -/
def setSwitch (process : Process) (isOn : Bool) (name : String) : Process :=
  let others := process.switches.filter (· != name)
  { process with switches := if isOn then name :: others else others }

/-- The name that complaints begin with. -/
def speaker (process : Process) : String :=
  if process.origin.isEmpty then process.name else process.origin

/-- Whether the option with a letter is on. -/
def isSet (process : Process) (letter : Char) : Bool := process.options.contains letter

/-- Turns the option with a letter on or off. -/
def setOption (process : Process) (isOn : Bool) (letter : Char) : Process :=
  let others := process.options.filter (· != letter)
  { process with options := if isOn then letter :: others else others }

/-- The value of a variable. -/
def value? (process : Process) (name : String) : Option String :=
  (process.bindings.lookup name).bind (·.value)

/-- Replaces the entry of a key, or adds one. -/
def replaced {α : Type} (key : String) (item : α) : List (String × α) → List (String × α)
  | [] => [(key, item)]
  | (k, other) :: rest =>
    if k == key then (key, item) :: rest else (k, other) :: replaced key item rest

/-- Sets a variable. Whether it is exported stays as it was, unless all variables are to be. -/
def assign (process : Process) (name value : String) : Process :=
  let before : Variable := (process.bindings.lookup name).getD { value := none }
  let kept : Variable :=
    { before with value := some value, isExported := before.isExported || process.isSet 'a' }
  let entry := match before.items with
    | some items => { kept with items := some items }.setItem "0" value
    | none => kept
  let process :=
    if name == "OPTIND" then
      { process with optionIndex := max 1 (value.toNat?.getD 1), optionOffset := none }
    else if name == "PATH" then { process with found := [] }
    else process
  { process with bindings := replaced name entry process.bindings }

/-- Sets a variable that programs inherit. -/
def setExported (process : Process) (name value : String) : Process :=
  { process with
    bindings := replaced name { value := some value, isExported := true } process.bindings }

/-- Removes a variable. -/
def unset (process : Process) (name : String) : Process :=
  { process with bindings := process.bindings.filter fun (k, _) => k != name }

/-- Puts back a variable as it was. -/
def restore (process : Process) (name : String) : Option Variable → Process
  | some entry => { process with bindings := replaced name entry process.bindings }
  | none => process.unset name

/-- The variables that programs inherit. -/
def environment (process : Process) : List (String × String) :=
  process.bindings.filterMap fun (name, v) =>
    if v.isExported then v.value.map fun value => (name, value) else none

/-- What a descriptor leads to. -/
def channel? (process : Process) (descriptor : Nat) : Option Channel :=
  process.descriptors.lookup descriptor

/-- Makes a descriptor lead somewhere. -/
def setChannel (process : Process) (descriptor : Nat) (channel : Channel) : Process :=
  { process with
    descriptors := (descriptor, channel) ::
      process.descriptors.filter fun (d, _) => d != descriptor }

/-- Closes a descriptor. -/
def close (process : Process) (descriptor : Nat) : Process :=
  { process with descriptors := process.descriptors.filter fun (d, _) => d != descriptor }

/-- The sinks that the process keeps open. -/
def sinks (process : Process) : List Nat :=
  process.descriptors.filterMap fun (_, channel) =>
    match channel with
    | .sink number => some number
    | _ => none

end Process

namespace Run

/-- Whether the run goes on with the next command. -/
def goesOn (run : Run) : Bool := run.control == .proceed

/-- Changes the process. -/
def onProcess (f : Process → Process) (run : Run) : Run := { run with process := f run.process }

/-- Changes the machine. -/
def onMachine (f : Machine → Machine) (run : Run) : Run := { run with machine := f run.machine }

/-- Sets the outcome of the last command. -/
def ended (run : Run) (status : Nat) : Run :=
  { run with process := { run.process with status } }

/-- Ends the process with a status. -/
def leaving (run : Run) (status : Nat) : Run := { run.ended status with control := .leave }

/-- Stops the run at the limit. -/
def stopping (run : Run) : Run := { run with control := .stopped }

/-- Gives up a run that does not come to an end. -/
def exhausting (run : Run) : Run := { run with control := .exhausted }

/-- Whether the run has been given up or stopped at the limit. -/
def isEndless (run : Run) : Bool := run.control == .stopped || run.control == .exhausted

/-- Appends octets to the file that a descriptor leads to. -/
def appendFile (run : Run) (descriptor : Nat) (path : Path) (text : String) : Run :=
  let before := ((run.machine.files.readAt path).toOption).getD ByteArray.empty
  match run.machine.files.writeAt path (before ++ Text.octetBytes text) FileNode.plainPermissions with
  | .ok files => run.onMachine fun machine => { machine with files }
  | .error fault => if descriptor = 1 then { run with unwritten := some fault } else run

/-- Writes to a descriptor. -/
def write (run : Run) (descriptor : Nat) (text : String) : Run :=
  if text.isEmpty then run
  else
    match run.process.channel? descriptor with
    | some (.sink sink) =>
      run.onMachine fun machine =>
        { machine with
          writings :=
            { time := machine.clock, sink, writer := run.process.job, text } :: machine.writings }
    | some (.file path) => run.appendFile descriptor path text
    | some .nothing => run
    | some (.source _) | none =>
      if descriptor = 1 then { run with unwritten := some .badDescriptor } else run

/-- Writes to the standard output. -/
def print (run : Run) (text : String) : Run := run.write 1 text

/-- Complains in the name of the shell and of the command that it carries out. -/
def complain (run : Run) (text : String) : Run :=
  let command := if run.process.command.isEmpty then "" else run.process.command ++ ": "
  let line := (if run.process.isExtended then "line " else "") ++ toString run.process.line
  run.write 2 (run.process.speaker ++ ": " ++ line ++ ": " ++ command ++ text ++ "\n")

/-- Complains and ends the script. -/
def fatal (run : Run) (text : String) : Run :=
  { (run.complain text).ended 2 with control := .aborted }

/-- Complains and gives up what a fault makes senseless: the line of a script in the extended dialect,
and the script otherwise. -/
def giveUp (run : Run) (text : String) : Run :=
  if run.process.isExtended then { (run.complain text).ended 1 with control := .discarded }
  else run.fatal text

/-- Complains and ends the script because a parameter has no value. -/
def miss (run : Run) (text : String) : Run :=
  if run.process.isExtended then
    { (run.complain text).ended (if run.process.depth = 0 then 127 else 1) with control := .aborted }
  else run.fatal text

/-- Complains and fails. -/
def failing (run : Run) (status : Nat) (text : String) : Run := (run.complain text).ended status

/-- Says by which signal a process was ended, unless that is no news. -/
def announce (run : Run) (signal : Nat) : Run :=
  match Signal.announcement? signal with
  | some text => run.write 2 (text ++ "\n")
  | none => run

/-- Moves the clock to a time. Reaching the limit stops the run. -/
def waitUntil (run : Run) (time : Nat) : Run :=
  let clock := max run.machine.clock time
  if run.machine.allows clock then run.onMachine fun machine => { machine with clock }
  else run.stopping

/-- What is left of the input behind a descriptor. -/
def ahead (run : Run) (descriptor : Nat) : Source :=
  match run.process.channel? descriptor with
  | some (.source number) => run.machine.source number
  | some (.file path) =>
    { rest := (((run.machine.files.readAt path).toOption).map fun content =>
        (Text.octetsOfBytes content).toList).getD [] }
  | _ => { rest := [] }

/-- Why nothing can be read from a descriptor. -/
def readFault? (run : Run) (descriptor : Nat) : Option FileFault :=
  match run.process.channel? descriptor with
  | none | some (.sink _) => some .badDescriptor
  | some (.file path) =>
    match run.machine.files.nodeAt path with
    | .ok (.directory _) => some .isADirectory
    | _ => none
  | _ => none

/-- Leaves `rest` of the input behind a descriptor. The run waits until the input is complete; an
endless input never is. -/
def leave (run : Run) (descriptor : Nat) (rest : List Char) : Run :=
  match run.process.channel? descriptor with
  | some (.source number) =>
    let source := run.machine.source number
    let run := (run.onMachine fun machine => machine.setRest number rest).waitUntil source.closesAt
    if source.isEndless && rest.isEmpty then { run with control := .exhausted } else run
  | _ => run

/-- Takes all that is left of the input behind a descriptor. -/
def readAll (run : Run) (descriptor : Nat) : String × Run :=
  (String.ofList (run.ahead descriptor).rest, run.leave descriptor [])

/-- The next line of the input behind a descriptor without its end, and whether it had one. -/
def readLine (run : Run) (descriptor : Nat) : String × Bool × Run :=
  let ahead := (run.ahead descriptor).rest
  let line := ahead.takeWhile (· != '\n')
  let rest := ahead.drop line.length
  (String.ofList line, !rest.isEmpty, run.leave descriptor (rest.drop 1))

/-- Makes a descriptor lead to an input with the given octets. -/
def feed (run : Run) (descriptor : Nat) (source : Source) : Run :=
  let (number, machine) := run.machine.openSource source
  { run with machine, process := run.process.setChannel descriptor (.source number) }

end Run

/-! ## Files -/

/-- The directories that programs are looked for in if nothing names any. -/
def standardDirectories : String := "/bin:/usr/bin"

/-- The directories that a shell looks for programs in if it was told none. -/
def shellDirectories : String := "/usr/local/sbin:/usr/local/bin:/usr/sbin:/usr/bin:/sbin:/bin"

namespace Run

/-- The path of a name that is used in the working directory. -/
def locate (run : Run) (name : String) : Except FileFault Path :=
  run.machine.files.locate true run.process.directory (Text.octetText name)

/-- The path of a name, a link at the end of which stands for itself. -/
def locateItself (run : Run) (name : String) : Except FileFault Path :=
  run.machine.files.locate false run.process.directory (Text.octetText name)

/-- What a path leads to. The descriptors of a process are reached by paths too. -/
def nodeAt (run : Run) (path : Path) : Except FileFault FileNode :=
  match System.descriptor? path with
  | some number =>
    if (run.process.channel? number).isSome then .ok (.device .null) else .error .notFound
  | none => run.machine.files.nodeAt path

/-- What a name leads to. -/
def node (run : Run) (name : String) : Except FileFault FileNode :=
  match run.locate name with
  | .ok path => run.nodeAt path
  | .error fault => .error fault

/-- What a name stands for, be it a link. -/
def nodeItself (run : Run) (name : String) : Except FileFault FileNode :=
  match run.locateItself name with
  | .ok path => run.nodeAt path
  | .error fault => .error fault

/-- Replaces the files of the machine. -/
def withFiles (run : Run) (files : Files) : Run :=
  run.onMachine fun machine => { machine with files }

/-- The permissions that new files get. -/
def newPermissions (run : Run) : Nat := 0o666 &&& (0o777 ^^^ (run.process.mask &&& 0o777))

/-- The permissions that new directories get. -/
def newDirectoryPermissions (run : Run) : Nat := 0o777 &&& (0o777 ^^^ (run.process.mask &&& 0o777))

/-- Writes octets to the file of a name, which is created if it is missing. -/
def writeFile (run : Run) (name text : String) (appends : Bool) : Except FileFault Run :=
  match run.machine.files.locateForWriting run.process.directory (Text.octetText name) with
  | .error fault => .error fault
  | .ok path =>
    let before := if appends then ((run.machine.files.readAt path).toOption).getD ByteArray.empty
      else ByteArray.empty
    match run.machine.files.writeAt path (before ++ Text.octetBytes text) run.newPermissions with
    | .ok files => .ok (run.withFiles files)
    | .error fault => .error fault

/-- How many octets an endless device is taken to give before anybody stops reading. -/
def endlessLength : Nat := 1200000

/-- Octets without any order to speak of. -/
def scattered : (count : Nat) → (state : Nat) → List Char
  | 0, _ => []
  | count + 1, state =>
    let next := (state * 1103515245 + 12345) % 2147483648
    Char.ofNat (next / 65536 % 256) :: scattered count next

/-- What there is to be read from a device. -/
def deviceSource : Device → Source
  | .null | .terminal => { rest := [] }
  | .zero | .full => { rest := List.replicate endlessLength (Char.ofNat 0), isEndless := true }
  | .random => { rest := scattered endlessLength 1, isEndless := true }

/-- What there is to be read behind a name. -/
def sourceOf (run : Run) (name : String) : Except FileFault Source :=
  match run.locate name with
  | .error fault => .error fault
  | .ok path =>
    match System.descriptor? path with
    | some number =>
      match run.process.channel? number with
      | some (.source number) => .ok (run.machine.source number)
      | some _ => .ok { rest := [] }
      | none => .error .notFound
    | none =>
      match run.machine.files.nodeAt path with
      | .error fault => .error fault
      | .ok (.directory _) => .error .isADirectory
      | .ok (.link _) => .error .tooManyLinks
      | .ok (.device device) => .ok (deviceSource device)
      | .ok (.file content _) =>
        .ok { rest := (Text.octetsOfBytes content).toList, isFile := true }

/-- Whether two names lead to the same file. -/
def isSameFile (run : Run) (first second : String) : Bool :=
  match run.locate first, run.locate second with
  | .ok a, .ok b => a == b && (run.nodeAt a).toOption.isSome
  | _, _ => false

/-- Whether what the first name leads to was changed after what the second one does. A missing file
is older than any other. -/
def isNewer (run : Run) (first second : String) : Bool :=
  let age (name : String) : Option Nat :=
    match run.locate name with
    | .ok path =>
      if (run.nodeAt path).toOption.isSome then
        some (((run.machine.files.entries.map (·.1)).idxOf? path).getD 0)
      else none
    | .error _ => none
  match age first, age second with
  | some a, some b => b < a
  | some _, none => true
  | none, _ => false

/-- The outcome of a question about what a name leads to. -/
def asksFile (run : Run) (operator name : String) : Bool :=
  if operator == "-L" || operator == "-h" then
    match run.nodeItself name with
    | .ok (.link _) => true
    | _ => false
  else
    match run.node name with
    | .error _ => false
    | .ok node =>
      match operator, node with
      | "-e", _ | "-r", _ | "-w", _ | "-O", _ | "-G", _ | "-N", _ => true
      | "-d", .directory _ | "-x", .directory _ | "-s", .directory _ => true
      | "-f", .file _ _ => true
      | "-c", .device _ => true
      | "-x", .file _ permissions => permissions &&& 0o111 != 0
      | "-s", .file content _ => content.size > 0
      | "-u", .file _ permissions | "-u", .directory permissions => permissions &&& 0o4000 != 0
      | "-g", .file _ permissions | "-g", .directory permissions => permissions &&& 0o2000 != 0
      | "-k", .file _ permissions | "-k", .directory permissions => permissions &&& 0o1000 != 0
      | _, _ => false

/-- The outcome of a question about two names. -/
def asksFiles (run : Run) (first operator second : String) : Bool :=
  match operator with
  | "-nt" => run.isNewer first second
  | "-ot" => run.isNewer second first
  | "-ef" => run.isSameFile first second
  | _ => false

end Run

end RunMeter.Shell
