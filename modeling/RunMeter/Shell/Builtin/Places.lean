import RunMeter.Shell.Builtin.Basic
import RunMeter.Shell.Tool.Names
import RunMeter.Shell.Tool.Place

/-!
# Commands on the surroundings of a shell

The working directory, and the permissions that new files do not get. A shell remembers the way by
which it came to its directory: a step back leads along that way, not out of the directory that a link
has led to.
-/

set_option autoImplicit false

namespace RunMeter.Shell.Builtin

/-- The way that a name describes, taken from a place. -/
def placeOf (place : Path) (name : String) : Path :=
  let (start, steps) := Files.stepsFrom place (Text.octetText name)
  steps.foldl
    (fun done step =>
      if step = "" ∨ step = "." then done
      else if step = ".." then done.above
      else done ++ [step])
    start

/-- The names to try for a directory, and whether the way there is shown. -/
def directoryCandidates (run : Run) (target : String) : List (String × Bool) :=
  let first := (target.splitOn "/").headD ""
  let searched :=
    if target.startsWith "/" || first == "." || first == ".." then []
    else
      (((run.process.value? "CDPATH").map fun value => value.splitOn ":").getD []).map fun directory =>
        if directory.isEmpty then (target, false)
        else (directory ++ (if directory.endsWith "/" then "" else "/") ++ target, true)
  searched ++ [(target, false)]

/-- The path that a name of a directory leads to, and the way by which it leads there. -/
def reached (run : Run) (isPhysical : Bool) (name : String) : Except FileFault (Path × Path) :=
  let place := placeOf run.process.place name
  let wanted := if isPhysical then name else Tool.pathText place
  let path? : Except FileFault Path :=
    if isPhysical then run.locate wanted
    else
      match Files.stepsFrom [] (Text.octetText name) with
      | (["/"], _) => run.locate wanted
      | _ => if place.head? == some "/" then run.locate wanted
        else run.machine.files.locate true [] ("/".intercalate ("." :: place))
  match path? with
  | .error fault => .error fault
  | .ok path =>
    match run.machine.files.lookup? path with
    | none => .error .notFound
    | some node =>
      if node.isDirectory then .ok (path, if isPhysical then path else place)
      else .error .notADirectory

/-- Makes a directory the working one; why it cannot be otherwise. Also says whether the way there is
shown. -/
def entered (run : Run) (isPhysical : Bool) (target : String) : Except FileFault (Bool × Run) :=
  let found := (directoryCandidates run target).findSome? fun (name, isSearched) =>
    ((reached run isPhysical name).toOption).map fun found => (found, isSearched)
  match found with
  | none => (reached run isPhysical target).map fun _ => (false, run)
  | some ((path, place), isSearched) =>
    .ok (isSearched, run.onProcess fun process =>
      (({ process with directory := path, place }.setExported "OLDPWD"
        (Tool.pathText process.place)).setExported "PWD" (Tool.pathText place)))

/-- Shows the way to the working directory. -/
def showPlace (run : Run) : Run := run.print (Tool.pathText run.process.place ++ "\n")

/-- Changes the working directory. -/
def cd (args : List String) (run : Run) : Run :=
  withOptions "LP" args run fun given operands run =>
    let isPhysical := (given.getLast?.map (·.1)) == some 'P'
    let (target, shows) := match operands with
      | [] => ((run.process.value? "HOME").getD "", false)
      | "-" :: _ => ((run.process.value? "OLDPWD").getD "", true)
      | name :: _ => (name, false)
    if target.isEmpty then run.ended 0
    else
      match entered run isPhysical target with
      | .error _ => refuse run ("can't cd to " ++ target)
      | .ok (isSearched, run) => (if shows || isSearched then showPlace run else run).ended 0

/-- Shows the working directory. -/
def pwd (args : List String) (run : Run) : Run :=
  withOptions "LP" args run fun given _ run =>
    let isPhysical := (given.getLast?.map (·.1)) == some 'P'
    let path := if isPhysical then run.process.directory else run.process.place
    (run.print (Tool.pathText path ++ "\n")).ended 0

/-- Four octal digits. -/
def octalText (n : Nat) : String :=
  let digits := Nat.toDigits 8 n
  String.ofList (List.replicate (4 - digits.length) '0' ++ digits)

/-- The permissions that a mask leaves, by who gets them. -/
def symbolicMask (mask : Nat) : String :=
  let letters (shift : Nat) : String :=
    let bits := (0o777 ^^^ (mask &&& 0o777)) >>> shift
    String.ofList (([('r', 4), ('w', 2), ('x', 1)].filter fun (_, bit) => bits &&& bit != 0).map (·.1))
  "u=" ++ letters 6 ++ ",g=" ++ letters 3 ++ ",o=" ++ letters 0

/-- Shows or sets the permissions that new files do not get. -/
def umask (args : List String) (run : Run) : Run :=
  withOptions "S" args run fun given operands run =>
    match operands with
    | [] =>
      let mask := run.process.mask
      (run.print ((if given.isEmpty then octalText mask else symbolicMask mask) ++ "\n")).ended 0
    | text :: _ =>
      let set (mask : Nat) : Run := (run.onProcess fun process => { process with mask }).ended 0
      match text.toList with
      | c :: rest =>
        if c.isDigit then
          if (c :: rest).all fun c => '0' ≤ c && c ≤ '7' then
            set ((c :: rest).foldl (fun n c => n * 8 + (c.toNat - 48)) 0 &&& 0o777)
          else refuse run ("Illegal number: " ++ text)
        else
          match Tool.newMode? 0 true (0o777 ^^^ (run.process.mask &&& 0o777)) text with
          | some mode => set (0o777 ^^^ (mode &&& 0o777))
          | none => refuse run ("Illegal mode: " ++ text)
      | [] => set run.process.mask

/-- Shows the limits of a process, of which there are none. -/
def ulimit (args : List String) (run : Run) : Run :=
  withOptions "HSatfdscmlpnvwr" args run fun _ operands run =>
    if operands.isEmpty then (run.print "unlimited\n").ended 0 else run.ended 0

end RunMeter.Shell.Builtin
