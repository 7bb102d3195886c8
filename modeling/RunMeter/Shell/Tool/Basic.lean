import RunMeter.Number.Decimal
import RunMeter.Shell.Process
import RunMeter.Shell.Tool.Options

/-!
# What tools have in common

A tool takes its arguments and the run of the process that it is, reads and writes through that
process's descriptors, and leaves a status. Here is how tools complain, how they read their options
and how they go through the files that they are given.
-/

set_option autoImplicit false

namespace RunMeter.Shell.Tool

/-- The wording that tools use for a refused operation on a file. -/
def faultText (fault : FileFault) : String :=
  match fault.reason? with
  | some (text, _) => text
  | none => "Invalid argument"

/-- Complains in the name of the tool and fails. -/
def failWith (status : Nat) (run : Run) (text : String) : Run :=
  (run.write 2 (run.process.name ++ ": " ++ text ++ "\n")).ended status

/-- Complains in the name of the tool and fails. -/
def fail (run : Run) (text : String) : Run := failWith 1 run text

/-- Complains about the arguments of the tool and points to its manual. -/
def misuseWith (status : Nat) (run : Run) (text : String) : Run :=
  failWith status run (text ++ "\nTry '" ++ run.process.name ++ " --help' for more information.")

/-- Complains about the arguments of the tool and points to its manual. -/
def misuse (run : Run) (text : String) : Run := misuseWith 1 run text

/-- Complains about operands that are too many. -/
def extraOperand (run : Run) (operand : String) : Run :=
  misuse run ("extra operand '" ++ operand ++ "'")

/-- Reads the options of a tool and goes on with them, unless they are wrong. -/
def withOptions (table : OptionTable) (status : Nat) (args : List String) (run : Run)
    (use : Given → Run → Run) : Run :=
  match table.read args with
  | .ok given => use given run
  | .error fault => misuseWith status run fault.message

/-- Whether a name has to be quoted in a complaint. -/
def needsQuotes (name : String) : Bool :=
  name.isEmpty || name.any fun c =>
    !(c.isAlphanum || c == '/' || c == '.' || c == '_' || c == '-' || c == '+' || c == ',' ||
      c == ':' || c == '%' || c == '@' || c == '=' || c.toNat ≥ 128) ||
      (c == '=' && name.startsWith "=")

/-- A name as it is shown in a complaint. -/
def shown (name : String) : String :=
  if needsQuotes name then
    if name.contains '\'' && !name.contains '"' then "\"" ++ name ++ "\""
    else "'" ++ name ++ "'"
  else name

/-- A name between quotes. -/
def quoted (name : String) : String := "'" ++ name ++ "'"

/-- The octets of a file, or of the standard input where that is what is named. -/
def contents (run : Run) (name : String) : Except FileFault String × Run :=
  if name == "-" then
    match run.readFault? 0 with
    | some fault => (.error fault, run)
    | none =>
      let (text, run) := run.readAll 0
      (.ok text, run)
  else
    match run.locate name with
    | .error fault => (.error fault, run)
    | .ok path =>
      match System.descriptor? path with
      | some descriptor =>
        match run.readFault? descriptor with
        | some fault => (.error fault, run)
        | none =>
          let (text, run) := run.readAll descriptor
          (.ok text, run)
      | none =>
        match run.sourceOf name with
        | .error fault => (.error fault, run)
        | .ok source =>
          (.ok (String.ofList source.rest),
            if source.isEndless then { run with control := .exhausted } else run)

/-- Does something for every file in turn, or for the standard input if there is none. One that
cannot be read is complained about, in words that begin as `complaint` says. -/
def forFiles (complaint : String → String) (use : Run → String → String → Run)
    (names : List String) (run : Run) : Run :=
  let names := if names.isEmpty then ["-"] else names
  names.foldl
    (fun run name =>
      if run.goesOn then
        match contents run name with
        | (.ok text, run) => if run.control != .stopped then use run name text else run
        | (.error fault, run) => fail run (complaint name ++ ": " ++ faultText fault)
      else run)
    (run.ended 0)

/-- The contents of all files that can be read. -/
def gatheredApart (complaint : String → String) (names : List String) (run : Run) :
    List String × Run :=
  let names := if names.isEmpty then ["-"] else names
  let (texts, run) := names.foldl
    (fun ((texts, run) : List String × Run) name =>
      if run.goesOn then
        match contents run name with
        | (.ok text, run) => (text :: texts, run)
        | (.error fault, run) => (texts, fail run (complaint name ++ ": " ++ faultText fault))
      else (texts, run))
    ([], run.ended 0)
  (texts.reverse, run)

/-- The contents of all files that can be read, one after another. -/
def gathered (complaint : String → String) (names : List String) (run : Run) : String × Run :=
  let (texts, run) := gatheredApart complaint names run
  (String.join texts, run)

/-- The lines of a text, each with its end. -/
def linesOf (text : String) : List String :=
  let pieces := text.splitOn "\n"
  let whole := pieces.dropLast.map (· ++ "\n")
  match pieces.getLast? with
  | some "" => whole
  | some last => whole ++ [last]
  | none => whole

/-- The pieces of a text that end in a character, without their ends. -/
def recordsOf (stop : Char) (text : String) : List String :=
  let pieces := text.splitOn (String.ofList [stop])
  if pieces.getLast? == some "" then pieces.dropLast else pieces

/-- A text filled with blanks at its front up to a width. -/
def leftPadded (width : Nat) (text : String) : String :=
  String.ofList (List.replicate (width - text.length) ' ') ++ text

/-- A text filled with blanks at its end up to a width. -/
def rightPadded (width : Nat) (text : String) : String :=
  text ++ String.ofList (List.replicate (width - text.length) ' ')

/-- The factors that letters behind a count stand for. -/
def suffixFactor? (suffix : String) : Option Nat :=
  match suffix with
  | "" => some 1
  | "b" => some 512
  | "kB" | "KB" => some 1000
  | "k" | "K" | "KiB" => some 1024
  | "MB" => some 1000000
  | "M" | "MiB" => some 1048576
  | "GB" => some 1000000000
  | "G" | "GiB" => some 1073741824
  | "TB" => some 1000000000000
  | "T" | "TiB" => some 1099511627776
  | _ => none

/-- A count with a suffix. -/
def count? (text : String) : Option Nat :=
  let characters := text.toList
  let digits := characters.takeWhile Char.isDigit
  if digits.isEmpty then none
  else
    (suffixFactor? (String.ofList (characters.drop digits.length))).map fun factor =>
      Decimal.value digits * factor

end RunMeter.Shell.Tool
