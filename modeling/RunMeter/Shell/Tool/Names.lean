import RunMeter.Shell.Tool.Basic

/-!
# Tools on names of files

The parts of a name, the target of a link, and the path that a name leads to.
-/

set_option autoImplicit false

namespace RunMeter.Shell.Tool

/-- The working directory as text. -/
def directoryText (run : Run) : String :=
  match run.process.directory with
  | "/" :: steps => Text.octets ("/" ++ "/".intercalate steps)
  | steps => Text.octets ("/" ++ "/".intercalate steps)

/-- A path as text. -/
def pathText (path : Path) : String :=
  match path with
  | "/" :: steps => Text.octets ("/" ++ "/".intercalate steps)
  | steps => Text.octets ("/" ++ "/".intercalate steps)

/-- A name without the slashes at its end. -/
def withoutEndSlashes (name : List Char) : List Char :=
  (name.reverse.dropWhile (· == '/')).reverse

/-- The last step of a name, without an ending. -/
def lastStep (name ending : String) : String :=
  let characters := name.toList
  if characters.isEmpty then ""
  else
    let trimmed := withoutEndSlashes characters
    if trimmed.isEmpty then "/"
    else
      let base := (trimmed.reverse.takeWhile (· != '/')).reverse
      let suffix := ending.toList
      if base != suffix && !suffix.isEmpty && suffix.isSuffixOf base then
        String.ofList (base.take (base.length - suffix.length))
      else String.ofList base

/-- A name without its last step. -/
def leadingSteps (name : String) : String :=
  let trimmed := withoutEndSlashes name.toList
  let before := (trimmed.reverse.dropWhile (· != '/')).reverse
  let above := withoutEndSlashes before
  if !above.isEmpty then String.ofList above
  else if name.startsWith "/" then "/"
  else "."

/-- Prints the last steps of names. -/
def basename (args : List String) (run : Run) : Run :=
  let table : OptionTable :=
    { short := "as:z"
      long := [("multiple", .nothing, 'a'), ("suffix", .required, 's'), ("zero", .nothing, 'z')]
      stopsEarly := true }
  withOptions table 1 args run fun given run =>
    let close := if given.has 'z' then String.ofList [Char.ofNat 0] else "\n"
    match given.operands with
    | [] => misuse run "missing operand"
    | operands =>
      if given.hasAny ['a', 's'] then
        let ending := (given.value? 's').getD ""
        (run.print (String.join (operands.map fun name => lastStep name ending ++ close))).ended 0
      else
        match operands with
        | _ :: _ :: third :: _ => extraOperand run third
        | name :: rest => (run.print (lastStep name (rest.headD "") ++ close)).ended 0
        | [] => run

/-- Prints names without their last steps. -/
def dirname (args : List String) (run : Run) : Run :=
  let table : OptionTable := { short := "z", long := [("zero", .nothing, 'z')], stopsEarly := true }
  withOptions table 1 args run fun given run =>
    let close := if given.has 'z' then String.ofList [Char.ofNat 0] else "\n"
    if given.operands.isEmpty then misuse run "missing operand"
    else (run.print (String.join (given.operands.map fun name => leadingSteps name ++ close))).ended 0

/-- The path that a name leads to with all links followed. -/
def wholePath (run : Run) (name : String) : Except FileFault (Path × Bool) :=
  match run.locate name with
  | .error fault => .error fault
  | .ok path => .ok (path, (run.nodeAt path).toOption.isSome)

/-- Shows the targets of links, or where names lead. -/
def readlink (args : List String) (run : Run) : Run :=
  let table : OptionTable :=
    { short := "femnqsvz"
      long :=
        [("canonicalize", .nothing, 'f'), ("canonicalize-existing", .nothing, 'e'),
          ("canonicalize-missing", .nothing, 'm'), ("no-newline", .nothing, 'n'),
          ("quiet", .nothing, 'q'), ("silent", .nothing, 's'), ("verbose", .nothing, 'v'),
          ("zero", .nothing, 'z')] }
  withOptions table 1 args run fun given run =>
    if given.operands.isEmpty then misuse run "missing operand"
    else
      let close := if given.has 'n' && given.operands.length = 1 then "" else "\n"
      given.operands.foldl
        (fun run name =>
          let refuse (text : String) : Run :=
            if given.has 'v' then fail run (name ++ ": " ++ text) else run.ended 1
          if given.hasAny ['f', 'e', 'm'] then
            match wholePath run name with
            | .ok (path, isThere) =>
              if given.has 'e' && !isThere then refuse "No such file or directory"
              else run.print (pathText path ++ close)
            | .error fault => refuse (faultText fault)
          else
            match run.nodeItself name with
            | .ok (.link target) => run.print (Text.octets target ++ close)
            | .ok _ => refuse "Invalid argument"
            | .error fault => refuse (faultText fault))
        (run.ended 0)

/-- Shows where names lead. -/
def realpath (args : List String) (run : Run) : Run :=
  let table : OptionTable :=
    { short := "eLmPqsz"
      long :=
        [("canonicalize-existing", .nothing, 'e'), ("canonicalize-missing", .nothing, 'm'),
          ("no-symlinks", .nothing, 's'), ("strip", .nothing, 's'), ("quiet", .nothing, 'q'),
          ("zero", .nothing, 'z'), ("relative-to", .required, 'R')] }
  withOptions table 1 args run fun given run =>
    if given.operands.isEmpty then misuse run "missing operand"
    else
      given.operands.foldl
        (fun run name =>
          match wholePath run name with
          | .ok (path, isThere) =>
            if given.has 'e' && !isThere then
              if given.has 'q' then run.ended 1
              else fail run (shown name ++ ": No such file or directory")
            else
              match (given.value? 'R').map fun start => wholePath run start with
              | some (.ok (start, _)) =>
                let common := ((path.zip start).takeWhile fun (a, b) => a == b).length
                let steps := List.replicate (start.length - common) ".." ++ path.drop common
                run.print (Text.octets (if steps.isEmpty then "." else "/".intercalate steps) ++ "\n")
              | _ => run.print (pathText path ++ "\n")
          | .error fault =>
            if given.has 'q' then run.ended 1 else fail run (shown name ++ ": " ++ faultText fault))
        (run.ended 0)

/-- Prints the working directory. -/
def pwd (args : List String) (run : Run) : Run :=
  withOptions { short := "LP" } 1 args run fun _ run =>
    (run.print (directoryText run ++ "\n")).ended 0

end RunMeter.Shell.Tool
