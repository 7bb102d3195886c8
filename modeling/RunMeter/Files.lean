/-!
# Files

The files that a program leaves and finds: a finite map from paths to what lies there. A path is the
list of its steps from the working directory; the step `/` leads to the root of the system.

A name is resolved into a path one step at a time (`Files.locate`): whatever is stepped out of has to
be a directory, and links are followed where they are met. Operations fail for the reasons for which
the system would refuse them to a privileged user of a system that can be written: nothing is
refused for its permissions. They are kept because they decide what can be executed, and because
they are shown.
-/

set_option autoImplicit false

namespace RunMeter

/-- The steps to a file. -/
abbrev Path := List String

/-- The path one step back. Nothing lies above the root. -/
def Path.above (path : Path) : Path := if path = ["/"] then path else path.dropLast

/-- Something that is read and written like a file and keeps nothing. -/
inductive Device
  | null
  | zero
  | full
  | random
  | terminal
deriving DecidableEq, Repr

/-- Contents are compared as the core library compares bytes. -/
instance decEqContent : DecidableEq ByteArray := ByteArray.instDecidableEq

/-- What a path leads to. Permissions are those of the system: three bits each for the owner, the
group and all others. -/
inductive FileNode
  | file (content : ByteArray) (permissions : Nat)
  | directory (permissions : Nat)
  /-- A name that stands in for this one. -/
  | link (target : String)
  | device (device : Device)
deriving DecidableEq

namespace FileNode

/-- The permissions of a file that nobody has set. -/
def plainPermissions : Nat := 0o644

/-- The permissions of a program. -/
def programPermissions : Nat := 0o755

/-- A file with the usual permissions of a text or of a program. -/
def ofContent (content : ByteArray) (isExecutable : Bool) : FileNode :=
  .file content (if isExecutable then programPermissions else plainPermissions)

/-- A directory with the usual permissions. -/
def plainDirectory : FileNode := .directory programPermissions

/-- Whether something is a directory. -/
def isDirectory : FileNode → Bool
  | .directory _ => true
  | _ => false

end FileNode

/-- Why an operation on a file is refused. -/
inductive FileFault
  | notFound
  | notADirectory
  | isADirectory
  | alreadyThere
  | notEmpty
  | nameTooLong
  | tooManyLinks
  | noSpace
  | badDescriptor
  /-- The name holds the character that ends names. -/
  | zeroCharacter
  | notText
deriving DecidableEq, Repr

/-- What the system calls a refusal, if it is the system that refuses. -/
def FileFault.reason? : FileFault → Option (String × Nat)
  | .notFound => some ("No such file or directory", 2)
  | .badDescriptor => some ("Bad file descriptor", 9)
  | .alreadyThere => some ("File exists", 17)
  | .notADirectory => some ("Not a directory", 20)
  | .isADirectory => some ("Is a directory", 21)
  | .noSpace => some ("No space left on device", 28)
  | .nameTooLong => some ("File name too long", 36)
  | .notEmpty => some ("Directory not empty", 39)
  | .tooManyLinks => some ("Too many levels of symbolic links", 40)
  | .zeroCharacter => none
  | .notText => none

/-- The wording of a refusal. -/
def FileFault.message (fault : FileFault) : String :=
  match fault.reason? with
  | some (text, number) => text ++ " (os error " ++ toString number ++ ")"
  | none =>
    if fault = .zeroCharacter then "file name contained an unexpected NUL byte"
    else "stream did not contain valid UTF-8"

/-- All files and directories, one entry per path; what was changed last comes last. -/
structure Files where
  entries : List (Path × FileNode) := []
deriving DecidableEq

/-- How far the steps of a name can be followed without meeting a link. -/
inductive Walk
  | arrived (path : Path)
  /-- A link below a directory, its target, and the steps that are left after it. -/
  | link (directory : Path) (target : String) (rest : List String)
deriving DecidableEq, Repr

namespace Files

/-- What a path leads to, whatever lies above it. -/
def lookup? (files : Files) (path : Path) : Option FileNode :=
  if path = [] ∨ path = ["/"] then some .plainDirectory else files.entries.lookup path

/-- The longest step of a name, in octets. -/
def maxStep : Nat := 255

/-- The longest name, in octets, plus one. -/
def maxName : Nat := 4096

/-- Follows steps from `done` up to the first link. The last step may lead to nothing, and with
`followsLast` unset to a link. An empty step does not move, but like any step it leads out of
directories only. -/
def walk (files : Files) (followsLast : Bool) (done : Path) : List String → Except FileFault Walk
  | [] => .ok (.arrived done)
  | step :: rest =>
    match files.lookup? done with
    | none => .error .notFound
    | some (.directory _) =>
      if step = "" ∨ step = "." then walk files followsLast done rest
      else if step = ".." then walk files followsLast done.above rest
      else if maxStep < step.utf8ByteSize then .error .nameTooLong
      else
        match files.lookup? (done ++ [step]) with
        | some (.link target) =>
          if rest.isEmpty && !followsLast then .ok (.arrived (done ++ [step]))
          else .ok (.link done target rest)
        | _ => walk files followsLast (done ++ [step]) rest
    | some _ => .error .notADirectory

/-- Where the steps of a name begin that is used in a directory, and the steps. -/
def stepsFrom (directory : Path) (name : String) : Path × List String :=
  let steps := name.splitOn "/"
  if name.startsWith "/" then (["/"], steps.drop 1) else (directory, steps)

/-- Follows steps from `done` through at most `links - 1` links. -/
def follow (files : Files) (followsLast : Bool) :
    (links : Nat) → (done : Path) → List String → Except FileFault Path
  | 0, _, _ => .error .tooManyLinks
  | links + 1, done, steps =>
    match files.walk followsLast done steps with
    | .error fault => .error fault
    | .ok (.arrived path) => .ok path
    | .ok (.link directory target rest) =>
      let (start, steps) := stepsFrom directory target
      follow files followsLast links start (steps ++ rest)

/-- The most links that lead from one name to a file, plus one. -/
def maxLinks : Nat := 41

/-- The path of a name that is used in a directory. It may lead to nothing, but all that comes before
its last step is there. With `followsLast` unset a link at the end stands for itself. -/
def locate (files : Files) (followsLast : Bool) (directory : Path) (name : String) :
    Except FileFault Path :=
  if name.isEmpty then .error .notFound
  else if name.contains (Char.ofNat 0) then .error .zeroCharacter
  else if maxName ≤ name.utf8ByteSize then .error .nameTooLong
  else
    let (start, steps) := stepsFrom directory name
    files.follow followsLast maxLinks start steps

/-- What a path leads to. -/
def nodeAt (files : Files) (path : Path) : Except FileFault FileNode :=
  match files.lookup? path with
  | some node => .ok node
  | none => .error .notFound

/-- What a name leads to, which is used in the working directory. -/
def node (files : Files) (name : String) : Except FileFault FileNode :=
  match files.locate true [] name with
  | .ok path => files.nodeAt path
  | .error fault => .error fault

/-- The octets at a path. -/
def readAt (files : Files) (path : Path) : Except FileFault ByteArray :=
  match files.nodeAt path with
  | .ok (.file content _) => .ok content
  | .ok (.device _) => .ok ByteArray.empty
  | .ok (.directory _) => .error .isADirectory
  | .ok (.link _) => .error .tooManyLinks
  | .error fault => .error fault

/-- The text behind a name. -/
def readText (files : Files) (name : String) : Except FileFault String :=
  match files.locate true [] name with
  | .error fault => .error fault
  | .ok path =>
    match files.readAt path with
    | .error fault => .error fault
    | .ok content =>
      match String.fromUTF8? content with
      | some text => .ok text
      | none => .error .notText

/-- Whether a name leads to anything. -/
def hasNode (files : Files) (name : String) : Bool := (files.node name).toOption.isSome

/-- Forgets the entry of a path. -/
def erase (files : Files) (path : Path) : Files :=
  { entries := files.entries.filter fun (p, _) => p != path }

/-- Sets the entry of a path, which counts as its last change. -/
def put (files : Files) (path : Path) (node : FileNode) : Files :=
  { entries := (files.erase path).entries ++ [(path, node)] }

/-- Sets the entry of a path without touching its content. -/
def mark (files : Files) (path : Path) (node : FileNode) : Files :=
  { entries := files.entries.map fun (p, before) => if p = path then (p, node) else (p, before) }

/-- Removes what lies at a path, unless it is a directory. -/
def removeAt (files : Files) (path : Path) : Except FileFault Files :=
  match files.nodeAt path with
  | .ok (.directory _) => .error .isADirectory
  | .ok _ => .ok (files.erase path)
  | .error fault => .error fault

/-- Removes what a name stands for, unless it is a directory. -/
def remove (files : Files) (name : String) : Except FileFault Files :=
  match files.locate false [] name with
  | .ok path => files.removeAt path
  | .error fault => .error fault

/-- Writes a file, which keeps its permissions if it is there. -/
def writeAt (files : Files) (path : Path) (content : ByteArray) (permissions : Nat) :
    Except FileFault Files :=
  match files.lookup? path with
  | some (.file _ before) => .ok (files.put path (.file content before))
  | some (.directory _) => .error .isADirectory
  | some (.link _) => .error .tooManyLinks
  | some (.device .full) => if content.isEmpty then .ok files else .error .noSpace
  | some (.device _) => .ok files
  | none => .ok (files.put path (.file content permissions))

/-- The path of a name at which a file can be created or written. -/
def locateForWriting (files : Files) (directory : Path) (name : String) : Except FileFault Path :=
  let trimmed := name.dropEndWhile '/'
  if trimmed.isEmpty then files.locate true directory name
  else
    match files.locate true directory trimmed.toString with
    | .ok path => if trimmed.utf8ByteSize = name.utf8ByteSize then .ok path else .error .isADirectory
    | .error fault => .error fault

/-- Whether a path leads into a directory, at whatever depth. -/
def isBelow (directory path : Path) : Bool :=
  directory.length < path.length && directory.isPrefixOf path &&
    (!directory.isEmpty || path.head? != some "/")

/-- All that lies in a directory, at whatever depth. -/
def below (files : Files) (directory : Path) : List (Path × FileNode) :=
  files.entries.filter fun (path, _) => isBelow directory path

/-- Makes the directories that are missing along steps from `done`. -/
def makeDirectories (files : Files) (done : Path) : List String → Files
  | [] => files
  | step :: rest =>
    match files.locate true done (if step.isEmpty then "." else step) with
    | .error _ => files
    | .ok path =>
      match files.lookup? path with
      | none => makeDirectories (files.put path .plainDirectory) path rest
      | some _ => makeDirectories files path rest

/-- Puts a file or directory where its name says, with the directories that lead there. A name that
stands for a directory receives no file. -/
def place (files : Files) (name : String) (node : FileNode) : Files :=
  let (start, steps) := stepsFrom [] name
  let isIdle (step : String) : Bool := step == "" || step == "."
  let leading := (steps.reverse.dropWhile isIdle).reverse
  if node.isDirectory then files.makeDirectories start leading
  else
    let files := files.makeDirectories start leading.dropLast
    match files.locateForWriting [] name with
    | .error _ => files
    | .ok path =>
      match files.lookup? path with
      | none => files.put path node
      | some (.file _ _) => files.put path node
      | some _ => files

end Files

end RunMeter
