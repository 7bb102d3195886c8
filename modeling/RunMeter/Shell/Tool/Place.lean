import RunMeter.Shell.Tool.Clock
import RunMeter.Shell.Tool.Names

/-!
# Tools that change what lies where

Creating, removing, copying, moving and linking files and directories, and setting their permissions.
-/

set_option autoImplicit false

namespace RunMeter.Shell.Tool

/-! ## Permissions -/

/-- The permissions that a change in letters gives: who, how, and which, several times. `fuel` is more
than its length. -/
def symbolicMode? (mask : Nat) (isDirectory : Bool) : (fuel : Nat) → (before : Nat) → List Char →
    Option Nat
  | 0, _, _ => none
  | fuel + 1, before, text =>
    let who := text.takeWhile fun c => "ugoa".contains c
    let rest := text.drop who.length
    match rest with
    | operator :: more =>
      if operator == '+' || operator == '-' || operator == '=' then
        let which := more.takeWhile fun c => "rwxXstugo".contains c
        let after := more.drop which.length
        let everyone := who.isEmpty || who.contains 'a'
        let classes : List (Nat × Nat) :=
          (if everyone || who.contains 'u' then [(6, 0o4000)] else []) ++
            (if everyone || who.contains 'g' then [(3, 0o2000)] else []) ++
            (if everyone || who.contains 'o' then [(0, 0)] else [])
        let copied (shift : Nat) : Nat := (before >>> shift) &&& 7
        let isRunnable := isDirectory || before &&& 0o111 != 0
        let three := which.foldl
          (fun n c =>
            n ||| match c with
              | 'r' => 4
              | 'w' => 2
              | 'x' => 1
              | 'X' => if isRunnable then 1 else 0
              | 'u' => copied 6
              | 'g' => copied 3
              | 'o' => copied 0
              | _ => 0)
          0
        let bits := classes.foldl
          (fun n (shift, special) =>
            n ||| (three <<< shift) ||| (if which.contains 's' then special else 0))
          0
        let bits := if which.contains 't' && (everyone || who.contains 'o') then bits ||| 0o1000 else bits
        let bits := if who.isEmpty then bits &&& (0o7777 ^^^ mask) else bits
        let cleared := classes.foldl (fun n (shift, special) => n ||| (7 <<< shift) ||| special) 0
        let now := match operator with
          | '+' => before ||| bits
          | '-' => before &&& (0o7777 ^^^ bits)
          | _ => (before &&& (0o7777 ^^^ cleared)) ||| bits
        match after with
        | [] => some now
        | ',' :: [] => none
        | ',' :: next => symbolicMode? mask isDirectory fuel now next
        | next =>
          -- another operator for the same classes
          symbolicMode? mask isDirectory fuel now (who ++ next)
      else none
    | [] => none

/-- The permissions that a change, in octal digits or in letters, makes of others. -/
def newMode? (mask : Nat) (isDirectory : Bool) (before : Nat) (text : String) : Option Nat :=
  let characters := text.toList
  if !characters.isEmpty && characters.all fun c => '0' ≤ c && c ≤ '7' then
    let n := characters.foldl (fun n c => n * 8 + (c.toNat - 48)) 0
    if n ≤ 0o7777 then some n else none
  else symbolicMode? mask isDirectory (characters.length + 2) before characters

/-- Whether anything lies in a directory. -/
def hasMembers (files : Files) (path : Path) : Bool := !(files.below path).isEmpty

/-- Sets the permissions of what lies at a path. -/
def withMode (files : Files) (path : Path) (mode : Nat) : Files :=
  match files.lookup? path with
  | some (.file content _) => files.mark path (.file content mode)
  | some (.directory _) => files.mark path (.directory mode)
  | _ => files

/-- The permissions of a node. -/
def modeOf : FileNode → Nat
  | .file _ mode => mode
  | .directory mode => mode
  | .link _ => 0o777
  | .device _ => 0o666

/-- The letters for three bits of permissions. `special` is the letter that stands for a bit beside the
last of them. -/
def modeTriple (bits : Nat) (special : Option Char) : List Char :=
  let mayRun := bits % 2 = 1
  [if bits / 4 % 2 = 1 then 'r' else '-', if bits / 2 % 2 = 1 then 'w' else '-',
    match special with
    | some c => if mayRun then c else c.toUpper
    | none => if mayRun then 'x' else '-']

/-- Permissions written with letters. -/
def modeText (mode : Nat) : String :=
  let special (bit : Nat) (c : Char) : Option Char := if mode &&& bit != 0 then some c else none
  String.ofList (modeTriple (mode / 64 % 8) (special 0o4000 's') ++
    modeTriple (mode / 8 % 8) (special 0o2000 's') ++ modeTriple (mode % 8) (special 0o1000 't'))

/-- Permissions written with four digits. -/
def modeDigits (mode : Nat) : String :=
  let digits := Nat.toDigits 8 mode
  String.ofList (List.replicate (4 - digits.length) '0' ++ digits)

/-- What `chmod` reports about a file. -/
def modeReport (given : Given) (name : String) (before after : Nat) : String :=
  if before = after then
    if given.has 'v' then
      "mode of '" ++ name ++ "' retained as " ++ modeDigits before ++ " (" ++ modeText before ++ ")\n"
    else ""
  else if given.hasAny ['v', 'c'] then
    "mode of '" ++ name ++ "' changed from " ++ modeDigits before ++ " (" ++ modeText before ++
      ") to " ++ modeDigits after ++ " (" ++ modeText after ++ ")\n"
  else ""

/-- Sets permissions. -/
def chmod (args : List String) (run : Run) : Run :=
  -- a change may begin with a hyphen and looks like an option then
  let isChange (arg : String) : Bool :=
    match arg.toList with
    | '-' :: c :: rest => (c :: rest).all fun c => "rwxXstugoa,+=-".contains c
    | _ => false
  let (leading, args) := match args.find? isChange with
    | some change => ([change], args.erase change)
    | none => ([], args)
  let table : OptionTable :=
    { short := "Rcfv"
      long := [("recursive", .nothing, 'R'), ("changes", .nothing, 'c'), ("quiet", .nothing, 'f'),
        ("silent", .nothing, 'f'), ("verbose", .nothing, 'v'), ("reference", .required, 'r')] }
  withOptions table 1 args run fun given run =>
    match leading ++ given.operands with
    | [] => misuse run "missing operand"
    | [mode] => misuse run ("missing operand after '" ++ mode ++ "'")
    | mode :: names =>
      if (newMode? 0 false 0 mode).isNone then
        misuse run ("invalid mode: '" ++ mode ++ "'")
      else
        names.foldl
          (fun run name =>
            match run.locate name with
            | .error fault =>
              if given.has 'f' then run.ended 1
              else fail run ("cannot access '" ++ name ++ "': " ++ faultText fault)
            | .ok path =>
              match run.nodeAt path with
              | .error fault =>
                if given.has 'f' then run.ended 1
                else fail run ("cannot access '" ++ name ++ "': " ++ faultText fault)
              | .ok node =>
                let members := if given.has 'R' then run.machine.files.below path else []
                ((path, node) :: members).foldl
                  (fun run (place, node) =>
                    let before := modeOf node
                    let after := (newMode? run.process.mask node.isDirectory before mode).getD 0
                    let steps := (place.drop path.length).map fun step => "/" ++ step
                    let run := run.withFiles (withMode run.machine.files place after)
                    match node with
                    | .link _ => run
                    | _ => run.print (modeReport given (name ++ Text.octets (String.join steps)) before after))
                  run)
          (run.ended 0)

/-! ## Creating -/

/-- Creates files that are missing, and marks the others as changed now. -/
def touch (args : List String) (run : Run) : Run :=
  let table : OptionTable :=
    { short := "acd:fhmr:t:"
      long := [("no-create", .nothing, 'c'), ("date", .required, 'd'), ("reference", .required, 'r'),
        ("time", .required, 'x')] }
  withOptions table 1 args run fun given run =>
    let now := (epoch + (run.machine.clock / 1000 : Nat), run.machine.clock % 1000 * 1000000)
    if given.operands.isEmpty then misuse run "missing file operand"
    else if (given.value? 'd').any fun text => (dateOf? now text).isNone then
      fail run ("invalid date format '" ++ (given.value? 'd').getD "" ++ "'")
    else
      given.operands.foldl
        (fun run name =>
          match run.node name with
          | .ok node =>
            match run.locate name, node with
            | .ok path, .file _ _ => run.withFiles (run.machine.files.put path node)
            | _, _ => run
          | .error .notFound =>
            if given.has 'c' then run
            else
              match run.writeFile name "" false with
              | .ok run => run
              | .error .isADirectory =>
                fail run ("setting times of '" ++ name ++ "': No such file or directory")
              | .error fault => fail run ("cannot touch '" ++ name ++ "': " ++ faultText fault)
          | .error fault => fail run ("cannot touch '" ++ name ++ "': " ++ faultText fault))
        (run.ended 0)

/-- The names that lead to a directory, the directory itself first. -/
def ancestors : (fuel : Nat) → String → List String
  | 0, name => [name]
  | fuel + 1, name =>
    if name.contains '/' then
      let above := leadingSteps name
      if above == "/" || above == "." then [name] else name :: ancestors fuel above
    else [name]

/-- Makes the directory of a name, with those that lead there if `makesParents`. -/
def makeDirectory (makesParents : Bool) (mode : Option Nat) (run : Run) (name : String) : Run :=
  let refuse (fault : FileFault) : Run :=
    fail run ("cannot create directory '" ++ name ++ "': " ++ faultText fault)
  let trimmed := String.ofList (withoutEndSlashes name.toList)
  let trimmed := if trimmed.isEmpty then name else trimmed
  match run.node trimmed with
  | .ok (.directory _) => if makesParents then run else refuse .alreadyThere
  | .ok _ => refuse .alreadyThere
  | .error .notFound =>
    let permissions := mode.getD run.newDirectoryPermissions
    if makesParents then
      let (start, steps) := Files.stepsFrom run.process.directory (Text.octetText trimmed)
      let files := run.machine.files.makeDirectories start steps
      match files.locate true run.process.directory (Text.octetText trimmed) with
      | .ok path => run.withFiles (files.mark path (.directory permissions))
      | .error fault => refuse fault
    else
      match run.locateItself trimmed with
      | .error fault => refuse fault
      | .ok path =>
        match run.machine.files.lookup? path with
        | some _ => refuse .alreadyThere
        | none => run.withFiles (run.machine.files.put path (.directory permissions))
  | .error fault => refuse fault

/-- Makes directories. -/
def mkdir (args : List String) (run : Run) : Run :=
  let table : OptionTable :=
    { short := "m:pvZ"
      long := [("mode", .required, 'm'), ("parents", .nothing, 'p'), ("verbose", .nothing, 'v')] }
  withOptions table 1 args run fun given run =>
    match (given.value? 'm').map fun text => (text, newMode? run.process.mask true 0o777 text) with
    | some (text, none) => fail run ("invalid mode '" ++ text ++ "'")
    | mode =>
      if given.operands.isEmpty then misuse run "missing operand"
      else
        given.operands.foldl
          (fun run name =>
            let before := run.process.status
            let names := if given.has 'v' && given.has 'p' then
                (ancestors name.length name).reverse.filter fun name => (run.node name).toOption.isNone
              else [name]
            let run := makeDirectory (given.has 'p') (mode.bind (·.2)) (run.ended 0) name
            let run := if given.has 'v' && run.process.status = 0 then
                names.foldl
                  (fun run name =>
                    run.print (run.process.name ++ ": created directory '" ++ name ++ "'\n"))
                  run
              else run
            run.ended (max before run.process.status))
          (run.ended 0)

/-- How a size is given: as it is, or from the size before. -/
inductive SizeRule
  | exactly | more | less | atMost | atLeast | roundedDown | roundedUp
deriving DecidableEq, Repr

/-- The size that a rule makes of another. -/
def SizeRule.apply (rule : SizeRule) (before n : Nat) : Nat :=
  match rule with
  | .exactly => n
  | .more => before + n
  | .less => before - n
  | .atMost => min before n
  | .atLeast => max before n
  | .roundedDown => before / n * n
  | .roundedUp => (before + n - 1) / n * n

/-- Reads a rule for a size and its number. -/
def sizeRule? (text : String) : Option (SizeRule × Nat) :=
  let (rule, digits) : SizeRule × List Char := match text.toList with
    | '+' :: rest => (.more, rest)
    | '-' :: rest => (.less, rest)
    | '<' :: rest => (.atMost, rest)
    | '>' :: rest => (.atLeast, rest)
    | '/' :: rest => (.roundedDown, rest)
    | '%' :: rest => (.roundedUp, rest)
    | rest => (.exactly, rest)
  (count? (String.ofList digits)).map fun n => (rule, n)

/-- Sets the sizes of files. `goal` gives the new size for the one before. -/
def resize (given : Given) (goal : Nat → Nat) (run : Run) : Run :=
  if given.operands.isEmpty then misuse run "missing file operand"
  else
    given.operands.foldl
      (fun run name =>
        let before := match run.sourceOf name with
          | .ok source => source.rest
          | .error _ => []
        if before.isEmpty && given.has 'c' && (run.node name).toOption.isNone then run
        else
          let size := goal before.length
          let content := before.take size ++ List.replicate (size - before.length) (Char.ofNat 0)
          match run.writeFile name (String.ofList content) false with
          | .ok run => run
          | .error fault =>
            fail run ("cannot open '" ++ name ++ "' for writing: " ++ faultText fault))
      (run.ended 0)

/-- Sets the size of a file. -/
def truncate (args : List String) (run : Run) : Run :=
  let table : OptionTable :=
    { short := "cor:s:"
      long := [("no-create", .nothing, 'c'), ("reference", .required, 'r'), ("size", .required, 's')] }
  withOptions table 1 args run fun given run =>
    let reference : Except FileFault Nat := match given.value? 'r' with
      | none => .ok 0
      | some name => (run.sourceOf name).map fun source => source.rest.length
    match given.value? 's', given.value? 'r', reference with
    | none, none, _ => misuse run "you must specify either '--size' or '--reference'"
    | _, some name, .error fault => fail run ("cannot stat '" ++ name ++ "': " ++ faultText fault)
    | none, _, .ok size => resize given (fun _ => size) run
    | some text, _, _ =>
      match sizeRule? text with
      | none => fail run ("Invalid number: '" ++ text ++ "'")
      | some (rule, n) =>
        if n = 0 && (rule == .roundedDown || rule == .roundedUp) then fail run "division by zero"
        else
          let base := reference.toOption.getD 0
          let goal (before : Nat) : Nat :=
            if (given.value? 'r').isSome then rule.apply base n else rule.apply before n
          resize given goal run

/-! ## Removing -/

/-- The files without a path and what lies below it. -/
def withoutTree (files : Files) (path : Path) : Files :=
  { entries := files.entries.filter fun (p, _) => !path.isPrefixOf p }

/-- Removes files, and directories if asked for. -/
def rm (args : List String) (run : Run) : Run :=
  let table : OptionTable :=
    { short := "dfiIrRv"
      long := [("dir", .nothing, 'd'), ("force", .nothing, 'f'), ("recursive", .nothing, 'r'),
        ("verbose", .nothing, 'v'), ("interactive", .optional, 'i'),
        ("one-file-system", .nothing, 'x'), ("no-preserve-root", .nothing, 'y'),
        ("preserve-root", .optional, 'y')] }
  withOptions table 1 args run fun given run =>
    if given.operands.isEmpty && !given.has 'f' then misuse run "missing operand"
    else
      given.operands.foldl
        (fun run name =>
          let refuse (text : String) : Run := fail run ("cannot remove '" ++ name ++ "': " ++ text)
          let noting (line : String) (run : Run) : Run := if given.has 'v' then run.print line else run
          let last := lastStep name ""
          if given.hasAny ['r', 'R'] && (last == "." || last == "..") then
            fail run ("refusing to remove '.' or '..' directory: skipping '" ++ name ++ "'")
          else
            match run.locateItself name with
            | .error .notFound =>
              if given.has 'f' then run else refuse (faultText .notFound)
            | .error .notADirectory =>
              if given.has 'f' && !name.endsWith "/" then run else refuse (faultText .notADirectory)
            | .error fault => refuse (faultText fault)
            | .ok path =>
              match run.machine.files.nodeAt path with
              | .error fault => if given.has 'f' then run else refuse (faultText fault)
              | .ok (.directory _) =>
                if given.hasAny ['r', 'R'] then
                  if path = ["/"] then
                    fail (fail run "it is dangerous to operate recursively on '/'")
                      "use --no-preserve-root to override this failsafe"
                  else
                    let members := (run.machine.files.below path).mergeSort fun a b => !a.1.lex b.1
                    let run := members.foldl
                      (fun run (place, node) =>
                        let steps := (place.drop path.length).map fun step => "/" ++ step
                        noting ("removed " ++ (if node.isDirectory then "directory " else "") ++ "'" ++
                          name ++ Text.octets (String.join steps) ++ "'\n") run)
                      run
                    noting ("removed directory '" ++ name ++ "'\n")
                      (run.withFiles (withoutTree run.machine.files path))
                else if given.has 'd' then
                  if hasMembers run.machine.files path then refuse "Directory not empty"
                  else run.withFiles (run.machine.files.erase path)
                else refuse "Is a directory"
              | .ok _ =>
                noting ("removed '" ++ name ++ "'\n") (run.withFiles (run.machine.files.erase path)))
        (run.ended 0)

/-- Removes one file. -/
def unlink (args : List String) (run : Run) : Run :=
  withOptions { short := "" } 1 args run fun given run =>
    match given.operands with
    | [] => misuse run "missing operand"
    | [name] =>
      match run.locateItself name with
      | .error fault => fail run ("cannot unlink '" ++ name ++ "': " ++ faultText fault)
      | .ok path =>
        match run.machine.files.removeAt path with
        | .ok files => (run.withFiles files).ended 0
        | .error fault => fail run ("cannot unlink '" ++ name ++ "': " ++ faultText fault)
    | _ :: second :: _ => extraOperand run second

/-- Removes directories that are empty. -/
def rmdir (args : List String) (run : Run) : Run :=
  let table : OptionTable :=
    { short := "pv"
      long := [("parents", .nothing, 'p'), ("verbose", .nothing, 'v'),
        ("ignore-fail-on-non-empty", .nothing, 'i')] }
  withOptions table 1 args run fun given run =>
    if given.operands.isEmpty then misuse run "missing operand"
    else
      let remove (run : Run) (name : String) : Bool × Run :=
        let refuse (text : String) : Bool × Run :=
          (false, fail run ("failed to remove '" ++ name ++ "': " ++ text))
        match run.locateItself name with
        | .error fault => refuse (faultText fault)
        | .ok path =>
          match run.machine.files.nodeAt path with
          | .error fault => refuse (faultText fault)
          | .ok (.directory _) =>
            if lastStep name "" == "." then refuse "Invalid argument"
            else if hasMembers run.machine.files path then
              if given.has 'i' then (false, run) else refuse "Directory not empty"
            else (true, run.withFiles (run.machine.files.erase path))
          | .ok _ => refuse "Not a directory"
      let remove (run : Run) (name : String) : Bool × Run :=
        remove (if given.has 'v' then
          run.print (run.process.name ++ ": removing directory, '" ++ name ++ "'\n") else run) name
      given.operands.foldl
        (fun run name =>
          let names := if given.has 'p' then ancestors name.length name else [name]
          (names.foldl
            (fun ((goes, run) : Bool × Run) name => if goes then remove run name else (false, run))
            (true, run)).2)
        (run.ended 0)

/-! ## Copying and moving -/

/-- The operands of a tool that takes sources and a goal, which may be a directory. -/
inductive Transfer
  | onto (source target : String)
  | into (sources : List String) (directory : String)
  | faulty (run : Run)

/-- Sorts out the operands of a tool that takes sources and a goal. -/
def transferOf (given : Given) (run : Run) : Transfer :=
  let isDirectory (name : String) : Bool := match run.node name with
    | .ok node => node.isDirectory
    | .error _ => false
  match given.value? 't', given.operands with
  | some _, [] => .faulty (misuse run "missing file operand")
  | some directory, sources =>
    if isDirectory directory then .into sources directory
    else
      match run.node directory with
      | .error fault => .faulty (fail run ("target directory '" ++ directory ++ "': " ++ faultText fault))
      | .ok _ => .faulty (fail run ("target directory '" ++ directory ++ "': Not a directory"))
  | none, [] => .faulty (misuse run "missing file operand")
  | none, [one] => .faulty (misuse run ("missing destination file operand after '" ++ one ++ "'"))
  | none, [source, target] =>
    if isDirectory target && !given.has 'T' then .into [source] target else .onto source target
  | none, operands =>
    let target := operands.getLast?.getD ""
    if given.has 'T' then .faulty (extraOperand run (operands.getD 2 ""))
    else if isDirectory target then .into operands.dropLast target
    else
      match run.node target with
      | .error fault => .faulty (fail run ("target '" ++ target ++ "': " ++ faultText fault))
      | .ok _ => .faulty (fail run ("target '" ++ target ++ "': Not a directory"))

/-- The pairs of a source and its goal. -/
def Transfer.pairs : Transfer → List (String × String)
  | .onto source target => [(source, target)]
  | .into sources directory =>
    let lead := String.ofList (withoutEndSlashes directory.toList)
    let lead := if lead.isEmpty && directory.startsWith "/" then "" else lead
    sources.map fun source => (source, lead ++ "/" ++ lastStep source "")
  | .faulty _ => []

/-- Copies one file or directory. -/
def copyOne (given : Given) (run : Run) (source target : String) : Run :=
  let copiesTrees := given.hasAny ['r', 'R', 'a']
  let keepsLinks := given.hasAny ['a', 'd', 'P'] || (copiesTrees && !given.has 'L')
  let origin? := if keepsLinks then run.locateItself source else run.locate source
  match origin?.bind fun path => (run.machine.files.nodeAt path).map fun node => (path, node) with
  | .error fault => fail run ("cannot stat '" ++ source ++ "': " ++ faultText fault)
  | .ok (_, .directory _) =>
    if !copiesTrees then fail run ("-r not specified; omitting directory '" ++ source ++ "'")
    else
      match run.locate source,
          run.machine.files.locateForWriting run.process.directory
            (Text.octetText (String.ofList (withoutEndSlashes target.toList))) with
      | .ok origin, .ok goal =>
        match run.machine.files.lookup? goal with
        | some (.file _ _) =>
          fail run ("cannot overwrite non-directory '" ++ target ++ "' with directory '" ++ source ++ "'")
        | _ =>
          if origin.isPrefixOf goal then
            fail run ("cannot copy a directory, '" ++ source ++ "', into itself, '" ++ target ++ "'")
          else
            let copied := (run.machine.files.below origin).map fun (path, node) =>
              (goal ++ path.drop origin.length, node)
            let files := match run.machine.files.lookup? goal with
              | some _ => run.machine.files
              | none => run.machine.files.put goal .plainDirectory
            run.withFiles (copied.foldl (fun files (path, node) => files.put path node) files)
      | .error fault, _ | _, .error fault =>
        fail run ("cannot create directory '" ++ target ++ "': " ++ faultText fault)
  | .ok (_, .link linkTarget) =>
    match run.locateItself target with
    | .ok goal => run.withFiles (run.machine.files.put goal (.link linkTarget))
    | .error fault => fail run ("cannot create symbolic link '" ++ target ++ "': " ++ faultText fault)
  | .ok (origin, node) =>
    let goal? := run.machine.files.locateForWriting run.process.directory (Text.octetText target)
    match goal? with
    | .error .isADirectory =>
      fail run ("cannot create regular file '" ++ target ++ "': Not a directory")
    | .error fault => fail run ("cannot create regular file '" ++ target ++ "': " ++ faultText fault)
    | .ok goal =>
      if goal = origin then fail run ("'" ++ source ++ "' and '" ++ target ++ "' are the same file")
      else
        let content := match run.machine.files.readAt origin with
          | .ok content => content
          | .error _ => ByteArray.empty
        match run.machine.files.lookup? goal with
        | some (.directory _) =>
          fail run ("cannot overwrite directory '" ++ target ++ "' with non-directory")
        | some (.link _) =>
          fail run ("not writing through dangling symlink '" ++ target ++ "'")
        | before =>
          if before.isSome && given.has 'n' then run
          else
            let keepsMode := given.hasAny ['p', 'a']
            let mode := if keepsMode then modeOf node
              else modeOf node &&& (0o777 ^^^ (run.process.mask &&& 0o777))
            match run.machine.files.writeAt goal content mode with
            | .error fault =>
              fail run ("cannot create regular file '" ++ target ++ "': " ++ faultText fault)
            | .ok files => run.withFiles files

/-- The options of `cp` and `mv`. -/
def transferTable : OptionTable :=
  { short := "abdfiHlLnpPrRsS:t:Tuvx"
    long :=
      [("archive", .nothing, 'a'), ("force", .nothing, 'f'), ("interactive", .nothing, 'i'),
        ("no-clobber", .nothing, 'n'), ("no-dereference", .nothing, 'P'),
        ("dereference", .nothing, 'L'), ("recursive", .nothing, 'r'),
        ("target-directory", .required, 't'), ("no-target-directory", .nothing, 'T'),
        ("update", .optional, 'u'), ("verbose", .nothing, 'v'), ("preserve", .optional, 'p')] }

/-- Copies files and directories. -/
def cp (args : List String) (run : Run) : Run :=
  withOptions transferTable 1 args run fun given run =>
    match transferOf given run with
    | .faulty run => run
    | transfer =>
      transfer.pairs.foldl
        (fun run (source, target) =>
          let before := run.process.status
          let run := copyOne given (run.ended 0) source target
          let run := if given.has 'v' && run.process.status = 0 then
              run.print ("'" ++ source ++ "' -> '" ++ target ++ "'\n")
            else run
          run.ended (max before run.process.status))
        (run.ended 0)

/-- Moves one file or directory. -/
def moveOne (given : Given) (run : Run) (source target : String) : Run :=
  match run.locateItself source with
  | .error fault => fail run ("cannot stat '" ++ source ++ "': " ++ faultText fault)
  | .ok origin =>
    match run.machine.files.nodeAt origin with
    | .error fault => fail run ("cannot stat '" ++ source ++ "': " ++ faultText fault)
    | .ok node =>
      let isDirectory := node.isDirectory
      let trimmed := if isDirectory then String.ofList (withoutEndSlashes target.toList) else target
      match run.locateItself trimmed with
      | .error fault =>
        fail run ("cannot move '" ++ source ++ "' to '" ++ target ++ "': " ++ faultText fault)
      | .ok goal =>
        let existing := run.machine.files.lookup? goal
        if goal = origin then
          fail run ("'" ++ source ++ "' and '" ++ target ++ "' are the same file")
        else if isDirectory && origin.isPrefixOf goal then
          fail run ("cannot move '" ++ source ++ "' to a subdirectory of itself, '" ++ target ++ "'")
        else if isDirectory && existing.any fun node => !node.isDirectory then
          fail run ("cannot overwrite non-directory '" ++ target ++ "' with directory '" ++ source ++ "'")
        else if !isDirectory && existing.any FileNode.isDirectory then
          fail run ("cannot overwrite directory '" ++ target ++ "' with non-directory")
        else if !isDirectory && target.endsWith "/" then
          fail run ("cannot move '" ++ source ++ "' to '" ++ target ++ "': Not a directory")
        else if existing.isSome && given.has 'n' then run
        else if isDirectory && hasMembers run.machine.files goal then
          fail run ("cannot overwrite '" ++ target ++ "': Directory not empty")
        else
          let cleared := run.machine.files.erase goal
          run.withFiles
            { entries := cleared.entries.map fun (path, node) =>
                if origin.isPrefixOf path then (goal ++ path.drop origin.length, node)
                else (path, node) }

/-- Moves files and directories. -/
def mv (args : List String) (run : Run) : Run :=
  withOptions transferTable 1 args run fun given run =>
    match transferOf given run with
    | .faulty run => run
    | transfer =>
      transfer.pairs.foldl
        (fun run (source, target) =>
          let before := run.process.status
          let run := moveOne given (run.ended 0) source target
          let run := if given.has 'v' && run.process.status = 0 then
              run.print ("renamed '" ++ source ++ "' -> '" ++ target ++ "'\n")
            else run
          run.ended (max before run.process.status))
        (run.ended 0)

/-- Makes one link. A link of the hard kind is a copy. -/
def linkOne (given : Given) (run : Run) (source target : String) : Run :=
  let isSoft := given.has 's'
  let kind := if isSoft then "symbolic" else "hard"
  let refuse (text : String) : Run :=
    fail run ("failed to create " ++ kind ++ " link '" ++ target ++ "'" ++
      (if isSoft then "" else " => '" ++ source ++ "'") ++ ": " ++ text)
  let node? : Except String FileNode :=
    if isSoft then .ok (.link (Text.octetText source))
    else
      match run.nodeItself source with
      | .ok (.directory _) => .error (source ++ ": hard link not allowed for directory")
      | .ok node => .ok node
      | .error fault => .error ("failed to access '" ++ source ++ "': " ++ faultText fault)
  match node? with
  | .error text => fail run text
  | .ok node =>
    match run.locateItself target with
    | .error fault => refuse (faultText fault)
    | .ok path =>
      match run.machine.files.lookup? path with
      | some (.directory _) => fail run (target ++ ": cannot overwrite directory")
      | some _ => if given.has 'f' then run.withFiles (run.machine.files.put path node) else
          fail run ("failed to create " ++ kind ++ " link '" ++ target ++ "': File exists")
      | none => run.withFiles (run.machine.files.put path node)

/-- Makes links. -/
def ln (args : List String) (run : Run) : Run :=
  let table : OptionTable :=
    { short := "bdfFiLnPrsS:t:Tv"
      long := [("symbolic", .nothing, 's'), ("force", .nothing, 'f'),
        ("no-dereference", .nothing, 'n'), ("target-directory", .required, 't'),
        ("no-target-directory", .nothing, 'T'), ("verbose", .nothing, 'v'),
        ("relative", .nothing, 'r')] }
  withOptions table 1 args run fun given run =>
    let transfer := match given.value? 't', given.operands with
      | none, [one] => Transfer.onto one ("./" ++ lastStep one "")
      | _, _ =>
        let isLink := match given.operands.getLast? with
          | some name => match run.nodeItself name with
            | .ok (.link _) => true
            | _ => false
          | none => false
        match given.operands with
        | [source, target] =>
          if given.has 'n' && isLink then .onto source target else transferOf given run
        | _ => transferOf given run
    match transfer with
    | .faulty run => run
    | transfer =>
      transfer.pairs.foldl
        (fun run (source, target) =>
          let before := run.process.status
          let run := linkOne given (run.ended 0) source target
          let run := if given.has 'v' && run.process.status = 0 then
              run.print ("'" ++ target ++ (if given.has 's' then "' -> '" else "' => '") ++ source ++ "'\n")
            else run
          run.ended (max before run.process.status))
        (run.ended 0)

end RunMeter.Shell.Tool
