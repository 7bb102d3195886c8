import RunMeter.Shell.Builtin
import RunMeter.Shell.Element

/-!
# Starting a shell

The variables that every shell begins with, and what its arguments ask for: options, and a script that
is given as an argument, in a file or as the standard input.
-/

set_option autoImplicit false

namespace RunMeter.Shell.Run

/-- Gives a variable a value unless it has one. -/
def preset (name value : String) (run : Run) : Run :=
  if (run.process.value? name).isSome then run
  else run.onProcess fun process => process.assign name value

/-- Gives the variables their values that every shell begins with. What is no name of a variable is
forgotten. -/
def begun (run : Run) : Run :=
  let run := run.onProcess fun process =>
    { process with bindings := process.bindings.filter fun (name, _) => isName name }
  let run := run.onProcess fun process =>
    ((process.assign "IFS" " \t\n").assign "OPTIND" "1").assign "PPID" "1"
  let place? := (run.process.value? "PWD").bind fun name =>
    if name.startsWith "/" && run.isSameFile name "." then
      some (Builtin.placeOf [] name) else none
  let run := run.onProcess fun process => { process with place := place?.getD process.directory }
  let run := run.onProcess fun process => process.setExported "PWD" (Tool.pathText process.place)
  (((run.preset "PATH" shellDirectories).preset "PS1" "# ").preset "PS2" "> ").preset "PS4" "+ "

/-- Complains about the arguments of a shell. -/
def misuse (run : Run) (text : String) : Run :=
  (run.write 2 (run.process.name ++ ": 0: " ++ text ++ "\n")).ended 2

/-- What the arguments of a shell ask for. -/
structure ShellRequest where
  takesScript : Bool := false
  words : List String

/-- Takes the letters of one argument of a shell. -/
def shellLetters (isOn : Bool) : List Char → List String → Run →
    Except String (Bool × List String × Run)
  | [], words, run => .ok (false, words, run)
  | 'c' :: letters, words, run => do
    let (_, words, run) ← shellLetters isOn letters words run
    .ok (true, words, run)
  | 'l' :: letters, words, run => shellLetters isOn letters words run
  | letter :: letters, words, run => do
    let (words, run) ← Builtin.takeLetters isOn [letter] words run
    shellLetters isOn letters words run

/-- Takes the options of a shell. `fuel` is more than the number of words. -/
def shellOptions : (fuel : Nat) → (takesScript : Bool) → List String → Run →
    Except String (ShellRequest × Run)
  | 0, takesScript, words, run => .ok ({ takesScript, words }, run)
  | _, takesScript, [], run => .ok ({ takesScript, words := [] }, run)
  | fuel + 1, takesScript, word :: rest, run => do
    match word.toList with
    | ['-'] | ['-', '-'] => .ok ({ takesScript, words := rest }, run)
    | '-' :: letters =>
      let (found, rest, run) ← shellLetters true letters rest run
      shellOptions fuel (takesScript || found) rest run
    | '+' :: letters =>
      let (found, rest, run) ← shellLetters false letters rest run
      shellOptions fuel (takesScript || found) rest run
    | _ => .ok ({ takesScript, words := word :: rest }, run)

/-! ## The extended dialect -/

/-- The version of the dialect. -/
def versionParts : List String := ["5", "2", "21", "1", "release", "x86_64-pc-linux-gnu"]

/-- Gives the variables their values that every shell of the extended dialect begins with. -/
def begunExtended (run : Run) : Run :=
  let level := ((run.process.value? "SHLVL").bind String.toNat?).getD 0 + 1
  let program := if run.process.name.contains '/' then run.process.name else "/usr/bin/bash"
  let run := run.onProcess fun process =>
    { process with
      dialect := .extended
      options := ['h', 'B'] ++ process.options
      switches := ["interactive-comments"] }
  let run := run.begun
  let run := run.onProcess fun process =>
    let process := process.unset "PS1"
    let process := process.unset "PS2"
    let process := process.setExported "SHLVL" (toString level)
    let process := if (process.bindings.lookup "OLDPWD").isSome then process
      else process.restore "OLDPWD" (some { value := none, isExported := true })
    let fixed (name value : String) (process : Process) : Process :=
      process.restore name (some { value := some value, isConstant := true, isNumeric := true })
    let process := fixed "UID" "0" (fixed "EUID" "0" process)
    let process := process.restore "OPTIND" (some { value := some "1", isNumeric := true })
    let process := process.restore "BASH_VERSINFO"
      (some { listOf versionParts with isConstant := true })
    process
  ([("BASH", program), ("BASH_VERSION", "5.2.21(1)-release"), ("OPTERR", "1"), ("_", program),
    ("HOSTTYPE", "x86_64"), ("MACHTYPE", "x86_64-pc-linux-gnu"), ("OSTYPE", "linux-gnu"),
    ("SHELL", "/bin/bash"), ("TERM", "dumb"), ("HOSTNAME", "localhost")].foldl
      (fun run (name, value) =>
        if name == "SHELL" || name == "TERM" then run.preset name value
        else run.onProcess fun process => process.assign name value)
      run)

/-- The text that explains how a shell of the extended dialect is called. -/
def callUsage : String :=
  "Usage:\tbash [GNU long option] [option] ...\n" ++
  "\tbash [GNU long option] [option] script-file ...\n" ++
  "GNU long options:\n" ++
  String.join ((["debug", "debugger", "dump-po-strings", "dump-strings", "help", "init-file", "login",
    "noediting", "noprofile", "norc", "posix", "pretty-print", "rcfile", "restricted", "verbose",
    "version"]).map fun name => "\t--" ++ name ++ "\n") ++
  "Shell options:\n" ++
  "\t-ilrsD or -c command or -O shopt_option\t\t(invocation only)\n" ++
  "\t-abefhkmnptuvxBCEHPT or -o option\n"

/-- Takes the letters of one argument of a shell of the extended dialect. -/
def extendedLetters (isOn : Bool) : List Char → List String → Run →
    Except String (Bool × List String × Run)
  | [], words, run => .ok (false, words, run)
  | letter :: letters, words, run =>
    match letter, words with
    | 'c', words => do
      let (_, words, run) ← extendedLetters isOn letters words run
      .ok (true, words, run)
    | 's', words =>
      extendedLetters isOn letters words (run.onProcess fun process => process.setOption isOn 's')
    | 'O', name :: words =>
      extendedLetters isOn letters words (run.onProcess (Builtin.Extended.setFurther isOn name))
    | 'o', name :: words =>
      match Builtin.setNamed isOn name run with
      | .ok run => extendedLetters isOn letters words run
      | .error _ => .error ("line 0: " ++ run.process.name ++ ": " ++ name ++ ": invalid option name\n")
    | letter, words =>
      if "ilrD".toList.contains letter then extendedLetters isOn letters words run
      else
        match Builtin.setLetter isOn letter run with
        | .ok run => extendedLetters isOn letters words run
        | .error _ => .error ("-" ++ String.ofList [letter] ++ ": invalid option\n" ++ callUsage)

/-- Takes the options of a shell of the extended dialect. `fuel` is more than the number of words. -/
def extendedOptions : (fuel : Nat) → (takesScript : Bool) → List String → Run →
    Except String (ShellRequest × Run)
  | 0, takesScript, words, run => .ok ({ takesScript, words }, run)
  | _, takesScript, [], run => .ok ({ takesScript, words := [] }, run)
  | fuel + 1, takesScript, word :: rest, run => do
    match word with
    | "-" | "--" => .ok ({ takesScript, words := rest }, run)
    | "--norc" | "--noprofile" | "--login" | "--noediting" | "--restricted" | "--debugger" =>
      extendedOptions fuel takesScript rest run
    | "--verbose" => extendedOptions fuel takesScript rest (run.onProcess (·.setOption true 'v'))
    | "--posix" => extendedOptions fuel takesScript rest (run.onProcess (·.setSwitch true "posix"))
    | "--rcfile" | "--init-file" => extendedOptions fuel takesScript (rest.drop 1) run
    | word =>
      match word.toList with
      | '-' :: '-' :: _ => .error (word ++ ": invalid option\n" ++ callUsage)
      | '-' :: letters =>
        let (found, rest, run) ← extendedLetters true letters rest run
        extendedOptions fuel (takesScript || found) rest run
      | '+' :: letters =>
        let (found, rest, run) ← extendedLetters false letters rest run
        extendedOptions fuel (takesScript || found) rest run
      | _ => .ok ({ takesScript, words := word :: rest }, run)

end RunMeter.Shell.Run
