import RunMeter.Shell.Scan.Machine
import RunMeter.Shell.Scan.Reader

/-!
# Scanning files by programs

`awk`: where its program, its variables and its records come from.
-/

set_option autoImplicit false

namespace RunMeter.Shell.Tool

/-- The arguments of `awk`: options up to the first operand. -/
structure ScanOptions where
  separator : Option String := none
  /-- The variables that are set before the start. -/
  values : List (String × String) := []
  /-- The files that the program is read from. -/
  files : List String := []
  operands : List String := []

/-- Reads the arguments of `awk`, or gives the complaint about them. -/
def scanOptions (options : ScanOptions) : List String → Except String ScanOptions
  | [] => .ok options
  | "--" :: rest => .ok { options with operands := rest }
  | arg :: rest =>
    match arg.toList with
    | '-' :: letter :: attached =>
      let use (value : String) : Except String ScanOptions :=
        match letter with
        | 'F' => .ok { options with separator := some value }
        | 'f' => .ok { options with files := options.files ++ [value] }
        | _ =>
          match Scan.State.assignment? value with
          | some entry => .ok { options with values := options.values ++ [entry] }
          | none => .error ("improper assignment: -v " ++ value)
      if letter == 'F' || letter == 'f' || letter == 'v' then
        if attached.isEmpty then
          match rest with
          | value :: more => do scanOptions (← use value) more
          | [] => .error ("option -" ++ String.ofList [letter] ++ " lacks argument")
        else do scanOptions (← use (String.ofList attached)) rest
      else if letter == 'W' then
        match attached, rest with
        | [], _ :: more => scanOptions options more
        | _, more => scanOptions options more
      else .error ("not an option: " ++ arg)
    | _ => .ok { options with operands := arg :: rest }

/-- The separator of fields that an option means. -/
def scanSeparator (text : String) : String :=
  if text == "t" then "t" else (Print.unescape .tool text).1

/-- The state in which a program starts. -/
def scanState (options : ScanOptions) (operands : List String) (run : Run) : Scan.State :=
  let state : Scan.State := { run }
  let numbers (state : Scan.State) (names : List String) : Scan.State :=
    names.foldl (fun state name => state.setGlobal name (.number 0.0)) state
  let texts (state : Scan.State) (entries : List (String × String)) : Scan.State :=
    entries.foldl (fun state (name, value) => state.setGlobal name (.text value)) state
  let state := numbers state ["NR", "FNR", "RSTART"]
  let state := texts state
    [("FS", (options.separator.map scanSeparator).getD " "), ("OFS", " "), ("RS", "\n"),
      ("ORS", "\n"), ("SUBSEP", "\x1c"), ("OFMT", "%.6g"), ("CONVFMT", "%.6g"), ("FILENAME", "")]
  let state := state.setGlobal "RLENGTH" (.number (-1.0))
  let words := run.process.name :: operands
  let state := state.setGlobal "ARGC" (.ofNat words.length)
  let filled (state : Scan.State) (name : String) (entries : List (String × Scan.Value)) : Scan.State :=
    let (number, state) := state.arrayOf name
    state.setTable number (entries.foldl
      (fun (table : Scan.Table) (key, value) => table.set key value) {})
  let state := filled state "ARGV"
    (words.zipIdx.map fun (word, i) => (toString i, .ofInput word))
  let state := filled state "ENVIRON"
    (run.process.environment.map fun (name, value) => (name, .ofInput value))
  options.values.foldl (fun state (name, value) => state.assign name (.ofInput value)) state

/-- How `awk` is used. -/
def scanUsage : String :=
  "Usage: mawk [Options] [Program] [file ...]\n\nProgram:\n" ++
  "    The -f option value is the name of a file containing program text.\n" ++
  "    If no -f option is given, a \"--\" ends option processing; the following\n" ++
  "    parameters are the program text.\n\nOptions:\n" ++
  "    -f program-file  Program  text is read from file instead of from the\n" ++
  "                     command-line.  Multiple -f options are accepted.\n" ++
  "    -F value         sets the field separator, FS, to value.\n" ++
  "    -v var=value     assigns value to program variable var.\n" ++
  "    --               unambiguous end of options.\n\n" ++
  "    Implementation-specific options are prefixed with \"-W\".  They can be\n    abbreviated:\n\n" ++
  "    -W version       show version information and exit.\n" ++
  "    -W compat        pre-POSIX 2001.\n" ++
  "    -W dump          show assembler-like listing of program and exit.\n" ++
  "    -W help          show this message and exit.\n" ++
  "    -W interactive   set unbuffered output, line-buffered input.\n" ++
  "    -W exec file     use file as program as well as last option.\n" ++
  "    -W posix         stricter POSIX checking.\n" ++
  "    -W random=number set initial random seed.\n" ++
  "    -W sprintf=number adjust size of sprintf buffer.\n" ++
  "    -W usage         show this message and exit.\n"

/-- Carries out a program on records. -/
def awk (launch : Launcher) (args : List String) (run : Run) : Run :=
  match scanOptions {} args with
  | .error text => failWith 2 run text
  | .ok options =>
    let source : Except (String × FileFault) (Option (String × List String)) × Run :=
      match options.files, options.operands with
      | [], [] => (.ok none, run)
      | [], text :: operands => (.ok (some (text, operands)), run)
      | files, operands =>
        let start : Except (String × FileFault) (List String) := .ok []
        let (texts, run) := files.foldl
          (fun (texts, run) file =>
            match texts with
            | .error fault => (.error fault, run)
            | .ok texts =>
              match contents run file with
              | (.ok text, run) => (.ok (text :: texts), run)
              | (.error fault, run) => (.error (file, fault), run))
          (start, run)
        (texts.map fun texts => some ("\n".intercalate texts.reverse, operands), run)
    match source with
    | (.error (file, fault), run) =>
      failWith 2 run ("cannot open \"" ++ file ++ "\" (" ++ faultText fault ++ ")")
    | (.ok none, run) => (run.write 2 scanUsage).ended 0
    | (.ok (some (text, operands)), run) =>
      match Scan.readProgram text with
      | .error complaints =>
        complaints.foldl (fun run (fault, line) => failWith 2 run (fault.message line)) run
      | .ok program =>
        let before := run.process.channel? 0
        let state := program.perform launch (scanState options operands run)
        let run := match before with
          | some channel => state.run.onProcess fun process => process.setChannel 0 channel
          | none => state.run
        if !run.goesOn then run
        else
          match state.flow with
          | .endless => run.exhausting
          | _ => run.ended state.status

end RunMeter.Shell.Tool
