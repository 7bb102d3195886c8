import RunMeter.Shell.Builtin.Variables
import RunMeter.Shell.Field
import RunMeter.Shell.Quoting
import RunMeter.Shell.Tool.Clock

/-!
# What parameters stand for

The values of parameters, and the pieces that all arguments together yield.
-/

set_option autoImplicit false

namespace RunMeter.Shell.Run

/-- The parameters by which the extended dialect tells about the shell and the time. -/
def ownParameter? (run : Run) (name : String) : Option String :=
  let process := run.process
  match name with
  | "LINENO" => some (toString process.line)
  | "SECONDS" => some (toString (run.machine.clock / 1000))
  | "EPOCHSECONDS" => some (toString (Tool.epoch + (run.machine.clock / 1000 : Nat)))
  | "RANDOM" => some (toString ((run.machine.nextNumber * 1103515245 + 12345) / 65536 % 32768))
  | "BASHPID" => some (toString process.number)
  | "BASH_SUBSHELL" => some (toString process.depth)
  | "SHELLOPTS" => some (":".intercalate (Builtin.optionNames process))
  | _ => none

/-- The value of a parameter that is not all arguments. -/
def parameter? (run : Run) (name : String) : Option String :=
  let process := run.process
  match name with
  | "#" => some (toString process.arguments.length)
  | "?" => some (toString process.status)
  | "$" => some (toString process.number)
  | "!" => process.lastJob.map toString
  | "-" => some (Builtin.optionLetters process)
  | "0" => some process.name
  | _ =>
    if !name.isEmpty && name.toList.all Char.isDigit then
      name.toNat?.bind fun n => if n = 0 then some process.name else process.arguments[n - 1]?
    else
      match process.isExtended, run.ownParameter? name with
      | true, some value => some value
      | _, _ => process.value? name

/-- The characters that separate fields. -/
def separators (run : Run) : List Char := ((run.process.value? "IFS").getD " \t\n").toList

/-- The pieces of several texts, which make one between quotes if they are joined. -/
def severalPieces (run : Run) (texts : List String) (isJoined isQuoted : Bool) : List Piece :=
  if isJoined && isQuoted then
    let separator := (run.separators.head?.map fun c => String.ofList [c]).getD ""
    Piece.quoted (separator.intercalate texts)
  else if texts.isEmpty then (if isQuoted then [.absence] else [])
  else [Piece.edge].intercalate (texts.map (Piece.ofText isQuoted))

/-- The pieces of all arguments. -/
def allArguments (run : Run) (name : String) (isQuoted : Bool) : List Piece :=
  run.severalPieces run.process.arguments (name == "*") isQuoted

/-- The home directory of a user, or one's own if no user is named. -/
def home? (run : Run) (user : String) : Option String :=
  if user.isEmpty then run.process.value? "HOME"
  else if user == "+" && run.process.isExtended then run.process.value? "PWD"
  else if user == "-" && run.process.isExtended then run.process.value? "OLDPWD"
  else System.homeOf? user

/-- The pieces of a home directory. -/
def homePieces (run : Run) (user : String) : List Piece :=
  match run.home? user with
  | some home => home.toList.map fun c => .mark c true false
  | none => (("~" ++ user).toList).map fun c => .mark c false false

/-- What stands before a command that is shown. The extended dialect repeats its first character for
every script that the command stands in. -/
def traceLead (run : Run) : String :=
  let lead := (run.process.value? "PS4").getD ""
  if run.process.isExtended then
    String.ofList (List.replicate run.process.nesting (lead.toList.headD ' ')) ++ lead
  else lead

/-- The lines that show a command before it is carried out. -/
def traceLine (run : Run) (assignments : List (String × String)) (fields : List String) : String :=
  if run.process.isExtended then
    let line (text : String) : String := run.traceLead ++ text ++ "\n"
    String.join (assignments.map fun (name, value) => line (name ++ "=" ++ Quoting.value value)) ++
      if fields.isEmpty then "" else line (" ".intercalate (fields.map Quoting.traced))
  else
    let words := assignments.map (fun (name, value) => name ++ "=" ++ value) ++ fields
    run.traceLead ++ " ".intercalate words ++ "\n"

end RunMeter.Shell.Run
