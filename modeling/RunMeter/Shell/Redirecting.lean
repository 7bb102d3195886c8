import RunMeter.Shell.Process
import RunMeter.Shell.Script

/-!
# Redirections

Making a descriptor of a process lead to a file or to where another one leads. A redirection that
fails complains.
-/

set_option autoImplicit false

namespace RunMeter.Shell.Run

/-- Complains about a redirection, which fails. -/
def refuse (run : Run) (text : String) : Bool × Run :=
  (false, run.failing (if run.process.isExtended then 1 else 2) text)

/-- The wording for a file that cannot be opened. -/
def openingFault (run : Run) (opening : Opening) (name : String) (fault : FileFault) : String :=
  if run.process.isExtended then
    name ++ ": " ++
      (if fault == .alreadyThere then "cannot overwrite existing file"
        else (fault.reason?.map (·.1)).getD "Invalid argument")
  else
  let lead := if opening == .read then "cannot open " else "cannot create "
  let reason := match fault with
    | .notFound | .notADirectory =>
      if opening == .read then "No such file" else "Directory nonexistent"
    | fault => (fault.reason?.map (·.1)).getD "Invalid argument"
  lead ++ name ++ ": " ++ reason

/-- Makes a descriptor lead somewhere. -/
def lead (run : Run) (descriptor : Nat) (channel : Channel) : Bool × Run :=
  (true, run.onProcess fun process => process.setChannel descriptor channel)

/-- Opens the file of a name for writing, which empties it or keeps its content. -/
def openForWriting (run : Run) (descriptor : Nat) (opening : Opening) (empties : Bool)
    (name : String) (path : Path) : Bool × Run :=
  let fails (fault : FileFault) : Bool × Run := run.refuse (run.openingFault opening name fault)
  match run.machine.files.nodeAt path with
  | .ok (.device .full) => run.lead descriptor (.file path)
  | .ok (.device _) => run.lead descriptor .nothing
  | .ok (.directory _) => fails .isADirectory
  | .ok (.link _) => fails .tooManyLinks
  | .ok (.file _ _) =>
    if opening == .write && run.process.isSet 'C' then fails .alreadyThere
    else if empties then
      match run.machine.files.writeAt path ByteArray.empty run.newPermissions with
      | .ok files => (run.withFiles files).lead descriptor (.file path)
      | .error fault => fails fault
    else run.lead descriptor (.file path)
  | .error _ =>
    match run.machine.files.writeAt path ByteArray.empty run.newPermissions with
    | .ok files => (run.withFiles files).lead descriptor (.file path)
    | .error fault => fails fault

/-- Opens a file for a descriptor. -/
def openFile (run : Run) (descriptor : Nat) (opening : Opening) (name : String) : Bool × Run :=
  let isRead := opening == .read
  let path? := if isRead then run.locate name
    else run.machine.files.locateForWriting run.process.directory (Text.octetText name)
  match path? with
  | .error fault => run.refuse (run.openingFault opening name fault)
  | .ok path =>
    match System.descriptor? path with
    | some other =>
      match run.process.channel? other with
      | some channel => run.lead descriptor channel
      | none => run.refuse (run.openingFault opening name .notFound)
    | none =>
      match opening with
      | .read =>
        match run.machine.files.nodeAt path with
        | .error fault => run.refuse (run.openingFault opening name fault)
        | .ok (.directory _) => run.lead descriptor (.file path)
        | .ok (.device .null) | .ok (.device .terminal) => run.lead descriptor .nothing
        | .ok _ =>
          match run.sourceOf name with
          | .ok source => (true, run.feed descriptor source)
          | .error fault => run.refuse (run.openingFault opening name fault)
      | .append | .readWrite => run.openForWriting descriptor opening false name path
      | opening => run.openForWriting descriptor opening true name path

/-- Makes a descriptor lead where another one does, or closes it. -/
def duplicate (run : Run) (descriptor : Nat) (target : String) : Bool × Run :=
  match target.toList with
  | ['-'] => (true, run.onProcess fun process => process.close descriptor)
  | digits =>
    let isNumber := !digits.isEmpty && digits.all Char.isDigit
    if isNumber && (digits.length = 1 || run.process.isExtended) then
      match run.process.channel? (target.toNat?.getD 0) with
      | some channel => run.lead descriptor channel
      | none => run.refuse (target ++ ": Bad file descriptor")
    else if run.process.isExtended then run.refuse (target ++ ": ambiguous redirect")
    else (false, run.fatal "Syntax error: Bad fd number")

end RunMeter.Shell.Run
