import RunMeter.Shell.Builtin.Declaring
import RunMeter.Shell.Builtin.Jobs
import RunMeter.Shell.Builtin.Lookup
import RunMeter.Shell.Builtin.Places
import RunMeter.Shell.Builtin.Taking
import RunMeter.Shell.Print
import RunMeter.Shell.Verdict

/-!
# Commands of a shell that reads the extended dialect

None of them ends the script because it fails. What they have in common with the commands of the plain
dialect is their effects; their options and their complaints are their own.
-/

set_option autoImplicit false

namespace RunMeter.Shell.Builtin.Extended

/-- A whole number of 64 bits with blanks around it. -/
def integer? (text : String) : Option Int :=
  match Verdict.integer text with
  | .ok n => if -(2 ^ 63) ≤ n && n < 2 ^ 63 then some n else none
  | .error _ => none

/-- The last eight bits of a number. -/
def statusOf (n : Int) : Nat := (n.emod 256).toNat

/-- The complaint about what is no number. -/
def notNumeric (text : String) : String := text ++ ": numeric argument required"

/-! ## Flow -/

/-- Complains and gives up the line with a status. -/
def discard (status : Nat) (run : Run) (text : String) : Run :=
  { run.failing status text with control := .discarded }

/-- Ends the script. -/
def leaveScript (args : List String) (run : Run) : Run :=
  match args with
  | [] => run.leaving run.process.status
  | text :: rest =>
    match integer? text, rest with
    | none, _ => (run.complain (notNumeric text)).leaving 2
    | some n, [] => run.leaving (statusOf n)
    | some _, _ => discard 1 run "too many arguments"

/-- Ends a function, or a script that was sourced. -/
def leaveFunction (args : List String) (run : Run) : Run :=
  let leave (status : Nat) : Run := { run.ended status with control := .returned }
  if run.process.calls = 0 && run.process.sourced = 0 then
    run.failing 2 "can only \x60return' from a function or sourced script"
  else
    match args with
    | [] => leave run.process.status
    | text :: rest =>
      match integer? text, rest with
      | none, _ =>
        { run.failing 2 (notNumeric text) with control := .returned }
      | some n, [] => leave (statusOf n)
      | some _, _ => discard 1 run "too many arguments"

/-- Leaves loops, or goes on with their next rounds. -/
def leaveLoops (control : Nat → Control) (args : List String) (run : Run) : Run :=
  let around := run.process.loops
  if around = 0 then
    run.failing 0 "only meaningful in a \x60for', \x60while', or \x60until' loop"
  else
    match args with
    | [] => { run.ended 0 with control := control 1 }
    | text :: rest =>
      match integer? text, rest with
      | none, _ => (run.complain (notNumeric text)).leaving 128
      | some n, [] =>
        if n ≤ 0 then { run.failing 1 (text ++ ": loop count out of range") with control := .breakOut around }
        else { run.ended 0 with control := control (min n.toNat around) }
      | some _, _ => discard 1 run "too many arguments"

/-- Drops arguments. -/
def shift (args : List String) (run : Run) : Run :=
  let drop (n : Nat) : Run :=
    if n > run.process.arguments.length then run.ended 1
    else
      (run.onProcess fun process => { process with arguments := process.arguments.drop n }).ended 0
  match args with
  | [] => drop 1
  | text :: rest =>
    match integer? text, rest with
    | none, _ => run.failing 1 (notNumeric text)
    | some n, [] =>
      if n < 0 then run.failing 1 (text ++ ": shift count out of range") else drop n.toNat
    | some _, _ => discard 1 run "too many arguments"

/-! ## Output -/

/-- Prints words. -/
def echo (args : List String) (run : Run) : Run := (run.print (Print.echoExtendedLine args)).ended 0

/-- Prints words by a format, perhaps into a variable. -/
def printf (args : List String) (run : Run) : Run :=
  let usage := "[-v var] format [arguments]"
  withUsage "v:" usage args run fun given operands run =>
    match operands, given.reverse.lookup 'v' with
    | [], _ => showUsage usage run
    | format :: words, target =>
      let printed := Print.formatted (.shell .extended) format words
      let isFatal (fault : Print.PrintFault) : Bool :=
        match fault with
        | .outOfRange _ | .excess _ | .surplus _ => false
        | _ => true
      let isExcess (fault : Print.PrintFault) : Bool :=
        match fault with
        | .excess _ | .surplus _ => true
        | _ => false
      let complain (run : Run) (fault : Print.PrintFault) : Run :=
        if isExcess fault then run
        else
          let run := run.complain fault.extendedMessage
          if isFatal fault then run.ended 1 else run
      match target with
      | none => printed.faults.foldl complain ((run.print printed.text).ended 0)
      | some name =>
        if !isName (Run.splitSubscript name).1 then
          run.failing 2 ("\x60" ++ name ++ "': not a valid identifier")
        else
          match run.putText name false printed.text with
          | .error text => plainly (fun run => run.failing 1 text) run
          | .ok run => printed.faults.foldl complain (run.ended 0)

/-! ## Conditions -/

/-- Decides a condition. -/
def test (args : List String) (run : Run) : Run :=
  match Verdict.evaluate run args with
  | .ok outcome => run.ended (if outcome then 0 else 1)
  | .error text => run.failing 2 text

/-- Decides a condition between brackets. -/
def bracket (args : List String) (run : Run) : Run :=
  if args.getLast? == some "]" then test args.dropLast run else run.failing 2 "missing \x60]'"

/-! ## Options -/

/-- Sets options and arguments. -/
def set (args : List String) (run : Run) : Run :=
  if args.isEmpty then showVariables run
  else
    match takeOptions (args.length + 1) args (run.ended 0) with
    | .error text => run.failing 2 text
    | .ok (words, replaces, run) =>
      if words.isEmpty && !replaces then run
      else run.onProcess fun process => { process with arguments := words }

/-- The further options of a shell and whether they are on from the start. -/
def furtherOptions : List (String × Bool) :=
  [("autocd", false), ("assoc_expand_once", false), ("cdable_vars", false), ("cdspell", false),
    ("checkhash", false), ("checkjobs", false), ("checkwinsize", true), ("cmdhist", true),
    ("compat31", false), ("compat32", false), ("compat40", false), ("compat41", false),
    ("compat42", false), ("compat43", false), ("compat44", false), ("complete_fullquote", true),
    ("direxpand", false), ("dirspell", false), ("dotglob", false), ("execfail", false),
    ("expand_aliases", false), ("extdebug", false), ("extglob", false), ("extquote", true),
    ("failglob", false), ("force_fignore", true), ("globasciiranges", true), ("globskipdots", true),
    ("globstar", false), ("gnu_errfmt", false), ("histappend", false), ("histreedit", false),
    ("histverify", false), ("hostcomplete", true), ("huponexit", false), ("inherit_errexit", false),
    ("interactive_comments", true), ("lastpipe", false), ("lithist", false),
    ("localvar_inherit", false), ("localvar_unset", false), ("login_shell", false),
    ("mailwarn", false), ("no_empty_cmd_completion", false), ("nocaseglob", false),
    ("nocasematch", false), ("noexpand_translation", false), ("nullglob", false),
    ("patsub_replacement", true), ("progcomp", true), ("progcomp_alias", false),
    ("promptvars", true), ("restricted_shell", false), ("shift_verbose", false),
    ("sourcepath", true), ("varredir_close", false), ("xpg_echo", false)]

/-- Whether a further option is on. Those that are on from the start are noted when they are turned
off. -/
def isFurtherOn (process : Process) (name : String) : Bool :=
  if (furtherOptions.lookup name).getD false then !process.isOn ("no " ++ name) else process.isOn name

/-- Turns a further option on or off. -/
def setFurther (isOn : Bool) (name : String) (process : Process) : Process :=
  if (furtherOptions.lookup name).getD false then process.setSwitch (!isOn) ("no " ++ name)
  else process.setSwitch isOn name

/-- Shows or sets the further options. -/
def shopt (args : List String) (run : Run) : Run :=
  withUsage "opqsu" "[-pqsu] [-o] [optname ...]" args run fun given names run =>
    let isOfSet := isGiven given 'o'
    let known : List String :=
      if isOfSet then (optionTable .extended).map (·.2) else furtherOptions.map (·.1)
    let isOn (run : Run) (name : String) : Bool :=
      if isOfSet then (optionNames run.process).contains name else isFurtherOn run.process name
    let show' (name : String) : String :=
      let state := isOn run name
      if isGiven given 'p' then
        (if isOfSet then (if state then "set -o " else "set +o ")
          else if state then "shopt -s " else "shopt -u ") ++ name ++ "\n"
      else
        name ++ String.ofList (List.replicate (15 - name.length) ' ') ++ "\t" ++
          (if state then "on" else "off") ++ "\n"
    let change := if isGiven given 's' then some true else if isGiven given 'u' then some false else none
    let unknown (run : Run) (name : String) : Run :=
      run.failing 1 (name ++
        (if isOfSet then ": invalid option name" else ": invalid shell option name"))
    if names.isEmpty then
      let listed := match change with
        | some state => known.filter fun name => isOn run name == state
        | none => known
      (if isGiven given 'q' then run else run.print (String.join (listed.map show'))).ended 0
    else
      names.foldl
        (fun run name =>
          if !known.contains name then unknown run name
          else
            match change with
            | some state =>
              if isOfSet then ((setNamed state name run).toOption).getD run
              else run.onProcess (setFurther state name)
            | none =>
              let run := if isGiven given 'q' then run else run.print (show' name)
              if isOn run name then run else run.ended 1)
        (run.ended 0)

/-! ## Places -/

/-- The wording for a directory that cannot be entered. -/
def placeFault (name : String) (fault : FileFault) : String := name ++ ": " ++ Tool.faultText fault

/-- Changes the working directory. -/
def cd (args : List String) (run : Run) : Run :=
  withUsage "LPe@" "[-L|[-P [-e]] [-@]] [dir]" args run fun given operands run =>
    let isPhysical :=
      ((given.filter fun (letter, _) => letter == 'L' || letter == 'P').getLast?.map (·.1)) == some 'P'
    let go (target : String) (shows : Bool) : Run :=
      if target.isEmpty then run.ended 0
      else
        match entered run isPhysical target with
        | .error fault => run.failing 1 (placeFault target fault)
        | .ok (isSearched, run) => (if shows || isSearched then showPlace run else run).ended 0
    match operands with
    | [] =>
      match run.process.value? "HOME" with
      | some home => go home false
      | none => run.failing 1 "HOME not set"
    | ["-"] =>
      match run.process.value? "OLDPWD" with
      | some before => go before true
      | none => run.failing 1 "OLDPWD not set"
    | [name] => go name false
    | _ => run.failing 1 "too many arguments"

/-- Shows the working directory. -/
def pwd (args : List String) (run : Run) : Run :=
  withUsage "LP" "[-LP]" args run fun given _ run =>
    let isPhysical := (given.getLast?.map (·.1)) == some 'P'
    let path := if isPhysical then run.process.directory else run.process.place
    (run.print (Tool.pathText path ++ "\n")).ended 0

/-- The working directory and the ones that were left to be come back to. -/
def places (run : Run) : List String := Tool.pathText run.process.place :: run.process.visited

/-- A path with the home directory shown by its sign. -/
def shortened (run : Run) (path : String) : String :=
  match run.process.value? "HOME" with
  | some home =>
    if home.length > 1 && (path == home || path.startsWith (home ++ "/")) then
      "~" ++ (path.drop home.length).toString
    else path
  | none => path

/-- Shows the directories to be come back to. -/
def dirs (args : List String) (run : Run) : Run :=
  withUsage "clpv" "[-clpv] [+N] [-N]" args run fun given _ run =>
    let shown := (places run).map fun path =>
      if isGiven given 'l' then path else shortened run path
    if isGiven given 'c' then (run.onProcess fun process => { process with visited := [] }).ended 0
    else if isGiven given 'v' then
      (run.print (String.join (shown.mapIdx fun i path =>
        Tool.leftPadded 2 (toString i) ++ "  " ++ path ++ "\n"))).ended 0
    else if isGiven given 'p' then (run.print (String.join (shown.map (· ++ "\n")))).ended 0
    else (run.print (" ".intercalate shown ++ "\n")).ended 0

/-- Enters a directory and keeps the one before, or changes places with that. -/
def pushd (args : List String) (run : Run) : Run :=
  let before := Tool.pathText run.process.place
  let keep (paths : List String) (run : Run) : Run :=
    run.onProcess fun process => { process with visited := paths }
  let go (name : String) (paths : List String) : Run :=
    match entered run false name with
    | .error fault => run.failing 1 (placeFault name fault)
    | .ok (_, run) => dirs [] (keep paths run)
  match args.filter (· != "--") with
  | [] =>
    match run.process.visited with
    | [] => run.failing 1 "no other directory"
    | name :: rest => go name (before :: rest)
  | "-n" :: name :: _ => dirs [] (keep (name :: run.process.visited) run)
  | [name] =>
    match name.toList with
    | '+' :: digits =>
      let n := Decimal.value digits
      let all := places run
      if !digits.all Char.isDigit || digits.isEmpty then
        showUsage "[-n] [+N | -N | dir]" (run.complain (name ++ ": invalid number"))
      else if run.process.visited.isEmpty then run.failing 1 "directory stack empty"
      else if n ≥ all.length then run.failing 1 (name ++ ": directory stack index out of range")
      else
        let turned := all.drop n ++ all.take n
        go (turned.headD "") (turned.drop 1)
    | _ => go name (before :: run.process.visited)
  | _ => run.failing 1 "too many arguments"

/-- Goes back to the directory that was left last. -/
def popd (args : List String) (run : Run) : Run :=
  match run.process.visited with
  | [] => run.failing 1 "directory stack empty"
  | name :: rest =>
    if args.contains "-n" then dirs [] (run.onProcess fun process => { process with visited := rest })
    else
      match entered run false name with
      | .error fault => run.failing 1 (placeFault name fault)
      | .ok (_, run) => dirs [] (run.onProcess fun process => { process with visited := rest })

/-- Shows or sets the permissions that new files do not get. -/
def umask (args : List String) (run : Run) : Run :=
  withUsage "pS" "[-p] [-S] [mode]" args run fun given operands run =>
    match operands with
    | [] =>
      let mask := run.process.mask
      let isSymbolic := isGiven given 'S'
      let lead := if isGiven given 'p' then "umask " ++ (if isSymbolic then "-S " else "") else ""
      (run.print (lead ++ (if isSymbolic then symbolicMask mask else octalText mask) ++ "\n")).ended 0
    | text :: _ =>
      let set (mask : Nat) : Run := (run.onProcess fun process => { process with mask }).ended 0
      if text.toList.headD 'x' |>.isDigit then
        if text.toList.all fun c => '0' ≤ c && c ≤ '7' then
          set (text.toList.foldl (fun n c => n * 8 + (c.toNat - 48)) 0 &&& 0o777)
        else run.failing 1 (text ++ ": octal number out of range")
      else
        match Tool.newMode? 0 true (0o777 ^^^ (run.process.mask &&& 0o777)) text with
        | some mode => set (0o777 ^^^ (mode &&& 0o777))
        | none =>
          let place := text.toList.find? fun c => !"ugoa".toList.contains c
          run.failing 1 ("\x60" ++ String.ofList place.toList ++ "': invalid symbolic mode operator")

/-- Shows the limits of a process. -/
def ulimit (args : List String) (run : Run) : Run :=
  withUsage "SHabcdefiklmnpqrstuvxPRT" "[-SHabcdefiklmnpqrstuvxPRT] [limit]" args run
    fun given operands run =>
      match operands with
      | [] =>
        let text := match (given.filter fun (letter, _) => letter != 'S' && letter != 'H').getLast? with
          | some ('c', _) => "0"
          | some ('n', _) => "1048576"
          | some ('s', _) => "8192"
          | some ('p', _) => "8"
          | _ => "unlimited"
        (run.print (text ++ "\n")).ended 0
      | text :: _ =>
        if text == "unlimited" || text == "hard" || text == "soft" || (integer? text).isSome then run.ended 0
        else run.failing 1 (text ++ ": invalid number")

/-! ## Names of commands -/

/-- What a name means, given as a kind, a phrase for it, and what a script would write. -/
def meanings (run : Run) (name : String) : List (String × String × String) :=
  let process := run.process
  let words := ["if", "then", "else", "elif", "fi", "case", "esac", "for", "select", "while", "until",
    "do", "done", "in", "function", "time", "\x7b", "\x7d", "!", "[[", "]]", "coproc"]
  let ofAlias := match process.aliases.lookup name with
    | some text =>
      if process.isOn "expand_aliases" then
        [("alias", " is aliased to \x60" ++ text ++ "'", "alias " ++ name ++ "=" ++ Quoting.single text)]
      else []
    | none => []
  let ofPath : List (String × String × String) :=
    if name.contains '/' then
      if run.asksFile "-x" name && !run.asksFile "-d" name then [("file", " is " ++ name, name)] else []
    else
      match process.found.lookup name with
      | some found => [("file", " is hashed (" ++ found ++ ")", found)]
      | none =>
        (((process.value? "PATH").getD "").splitOn ":").filterMap fun directory =>
          let found := Run.nameIn directory name
          if (run.programAt found).toOption.isSome then some ("file", " is " ++ found, found) else none
  ofAlias ++
    (if words.contains name then [("keyword", " is a shell keyword", name)] else []) ++
    (if (process.functions.lookup name).isSome then [("function", " is a function", name)] else []) ++
    (if extendedNames.contains name then [("builtin", " is a shell builtin", name)] else []) ++
    ofPath

/-- Says what names mean. -/
def type (args : List String) (run : Run) : Run :=
  withUsage "afptP" "[-afptP] name [name ...]" args run fun given names run =>
    let isSilent := isGiven given 't' || isGiven given 'p' || isGiven given 'P'
    names.foldl
      (fun run name =>
        let found := meanings run name
        let found := if isGiven given 'P' then found.filter fun (kind, _, _) => kind == "file" else found
        let found := if isGiven given 'a' then found else found.take 1
        if found.isEmpty then
          if isSilent then run.ended 1 else run.failing 1 (name ++ ": not found")
        else
          run.print (String.join (found.map fun (kind, phrase, plain) =>
            if isGiven given 't' then kind ++ "\n"
            else if isSilent then if kind == "file" then plain ++ "\n" else ""
            else name ++ phrase ++ "\n")))
      (run.ended 0)

/-- Says what the words of a command would mean. -/
def describe (isVerbose : Bool) (names : List String) (run : Run) : Run :=
  let run := names.foldl
    (fun ((run, isAny) : Run × Bool) name =>
      match meanings run name with
      | (_, phrase, plain) :: _ =>
        (run.print ((if isVerbose then name ++ phrase else plain) ++ "\n"), true)
      | [] => (if isVerbose then run.complain (name ++ ": not found") else run, isAny))
    (run, false)
  run.1.ended (if run.2 then 0 else 1)

/-- Shows, looks for or forgets the programs that were found. -/
def hash (args : List String) (run : Run) : Run :=
  withUsage "dlp:rt" "[-lr] [-p pathname] [-dt] [name ...]" args run fun given names run =>
    if isGiven given 'r' then (run.onProcess fun process => { process with found := [] }).ended 0
    else if names.isEmpty then
      if run.process.found.isEmpty then (run.print "hash: hash table empty\n").ended 0
      else
        let ordered := run.process.found.mergeSort fun a b =>
          tablePlace a.1 % 256 ≤ tablePlace b.1 % 256
        (run.print ("hits\tcommand\n" ++ String.join (ordered.map fun (_, found) =>
          "   1\t" ++ found ++ "\n"))).ended 0
    else
      names.foldl
        (fun run name =>
          match run.process.found.lookup name, isGiven given 't' with
          | some found, true => run.print (found ++ "\n")
          | none, true => run.failing 1 (name ++ ": not found")
          | _, false =>
            if extendedNames.contains name || (run.process.functions.lookup name).isSome then run
            else
              match run.locateProgram "" name with
              | .ok (found, _) => remember name found run
              | .error _ => run.failing 1 (name ++ ": not found"))
        (run.ended 0)

/-- Sets or shows short names. -/
def aliases (args : List String) (run : Run) : Run :=
  withUsage "p" "[-p] [name[=value] ... ]" args run fun given words run =>
    let line (entry : String × String) : String :=
      "alias " ++ entry.1 ++ "=" ++ Quoting.single entry.2 ++ "\n"
    let run := if words.isEmpty || !given.isEmpty then
        run.print (String.join ((run.process.aliases.mergeSort fun a b => a.1 ≤ b.1).map line))
      else run
    words.foldl
      (fun run word =>
        match assignment word with
        | (name, some value) =>
          run.onProcess fun process =>
            { process with aliases := Process.replaced name value process.aliases }
        | (name, none) =>
          match run.process.aliases.lookup name with
          | some value => run.print (line (name, value))
          | none => run.failing 1 (name ++ ": not found"))
      (run.ended 0)

/-- Removes short names. -/
def unalias (args : List String) (run : Run) : Run :=
  let usage := "[-a] name [name ...]"
  withUsage "a" usage args run fun given names run =>
    if !given.isEmpty then (run.onProcess fun process => { process with aliases := [] }).ended 0
    else if names.isEmpty then showUsage usage run
    else
      names.foldl
        (fun run name =>
          if (run.process.aliases.lookup name).isSome then
            run.onProcess fun process =>
              { process with aliases := process.aliases.filter fun (k, _) => k != name }
          else run.failing 1 (name ++ ": not found"))
        (run.ended 0)

/-- Lists the commands of the shell. -/
def enable (args : List String) (run : Run) : Run :=
  withUsage "adf:nps" "[-a] [-dnps] [-f filename] [name ...]" args run fun given names run =>
    if names.isEmpty then
      (if isGiven given 'n' then run
        else run.print (String.join (extendedNames.map fun name => "enable " ++ name ++ "\n"))).ended 0
    else
      names.foldl
        (fun run name =>
          if extendedNames.contains name then run else run.failing 1 (name ++ ": not a shell builtin"))
        (run.ended 0)

/-! ## Signals and jobs -/

/-- The numbers under which the occasions are kept that are no signals. -/
def occasions : List (String × Nat) := [("DEBUG", 65), ("ERR", 66), ("RETURN", 67)]

/-- The number of a signal or of another occasion. -/
def signalNumber? (least : Nat) (text : String) : Option Nat :=
  let raised := text.map Char.toUpper
  match occasions.lookup raised with
  | some n => if least = 0 then some n else none
  | none =>
    let bare := if raised.startsWith "SIG" then (raised.drop 3).toString else raised
    Signal.ofText? least bare

/-- The name of a signal or of another occasion as it is shown. -/
def occasionName (number : Nat) : String :=
  match occasions.find? fun (_, n) => n == number with
  | some (name, _) => name
  | none => if number = 0 then "EXIT" else "SIG" ++ Signal.name number

/-- The text that explains how `kill` is called. -/
def killUsage : String :=
  "[-s sigspec | -n signum | -sigspec] pid | jobspec ... or kill -l [sigspec]"

/-- Names the signals that numbers mean, or numbers those that names mean. -/
def listSignals (args : List String) (run : Run) : Run :=
  if args.isEmpty then
    let cell (n : Nat) : String :=
      Tool.leftPadded 2 (toString n) ++ ") SIG" ++ Signal.name n ++
        (if n % 5 = 0 || n = Signal.last then "\n" else "\t")
    (run.print (String.join (((List.range' 1 Signal.last).filter fun n => n != 32 && n != 33).map
      cell))).ended 0
  else
    args.foldl
      (fun run text =>
        if !text.isEmpty && text.toList.all Char.isDigit then
          let n := Decimal.value text.toList
          let n := if n > 128 then n - 128 else n
          if n ≤ Signal.last then
            run.print ((if n = 0 then "EXIT" else Signal.name n) ++ "\n")
          else run.failing 1 (text ++ ": invalid signal specification")
        else
          match signalNumber? 0 text with
          | some n => run.print (toString n ++ "\n")
          | none => run.failing 1 (text ++ ": invalid signal specification"))
      (run.ended 0)

/-- The job that a text beginning with a percent sign means. -/
def job? (run : Run) (text : String) : Option Job :=
  match findJob run (some text) with
  | .ok job => some job
  | .error _ => none

/-- Sends a signal to what a text means. -/
def signalTarget (signal : Nat) (run : Run) (target : String) : Run :=
  let lacking (run : Run) (number : String) : Run :=
    run.failing 1 ("(" ++ number ++ ") - No such process")
  let send (run : Run) (number : Nat) : Run :=
    if number = run.process.number then signalProcess signal run number
    else
      match run.machine.jobs.find? fun job => job.number == number with
      | some job =>
        if job.finish.any (· ≤ run.machine.clock) then lacking run (toString number)
        else signalProcess signal run number
      | none => lacking run (toString number)
  if target.startsWith "%" then
    match job? run target with
    | some job => send run job.number
    | none => run.failing 1 (target ++ ": no such job")
  else
    match integer? target with
    | some n => if n < 0 then lacking run (toString n) else send run n.toNat
    | none => run.failing 1 (target ++ ": arguments must be process or job IDs")

/-- Sends signals. -/
def kill (args : List String) (run : Run) : Run :=
  let send (signal : Nat) (targets : List String) : Run :=
    if targets.isEmpty then showUsage killUsage run
    else
      targets.foldl (fun run target => if run.goesOn then signalTarget signal run target else run)
        (run.ended 0)
  let named (text : String) (targets : List String) : Run :=
    match signalNumber? 0 text with
    | some signal => send signal targets
    | none => run.failing 1 (text ++ ": invalid signal specification")
  match args with
  | [] => showUsage killUsage run
  | "--" :: targets => send 15 targets
  | "-l" :: rest | "-L" :: rest => listSignals rest run
  | "-s" :: text :: targets => named text targets
  | "-n" :: text :: targets => named text targets
  | first :: targets =>
    match first.toList with
    | '-' :: c :: letters => named (String.ofList (c :: letters)) targets
    | _ => send 15 args

/-- Waits for jobs. -/
def wait (args : List String) (run : Run) : Run :=
  withUsage "fnp:" "[-fn] [-p var] [id ...]" args run fun given targets run =>
    let forget (job : Job) (run : Run) : Run :=
      run.onMachine fun machine =>
        { machine with jobs := machine.jobs.filter fun other => other.number != job.number }
    let awaited (run : Run) (job : Job) : Run := forget job ((await run job).ended job.status)
    if targets.isEmpty then
      if isGiven given 'n' then
        let running := run.machine.jobs.filter fun job => job.finish.all (run.machine.clock < ·)
        let ordered := running.mergeSort fun a b => a.finish.getD 0 ≤ b.finish.getD 0
        match ordered with
        | job :: _ => awaited run job
        | [] => run.ended 127
      else (run.machine.jobs.reverse.foldl (fun run job => forget job (await run job)) run).ended 0
    else
      targets.foldl
        (fun run target =>
          if !run.goesOn then run
          else if target.startsWith "%" then
            match job? run target with
            | some job => awaited run job
            | none => run.failing 127 (target ++ ": no such job")
          else
            match integer? target with
            | none => run.failing 1 ("\x60" ++ target ++ "': not a pid or valid job spec")
            | some n =>
              match run.machine.jobs.find? fun job => (job.number : Int) == n with
              | some job => awaited run job
              | none => run.failing 127 ("pid " ++ target ++ " is not a child of this shell"))
        (run.ended 0)

/-- Shows the state of jobs. -/
def jobs (args : List String) (run : Run) : Run :=
  withUsage "lnprs" "[-lnprs] [jobspec ...] or jobs -x command [args]" args run fun given targets run =>
    match targets.find? fun target => (job? run target).isNone with
    | some target => run.failing 1 (target ++ ": no such job")
    | none =>
      if isGiven given 'p' then
        let running := run.machine.jobs.reverse.filter fun job => job.finish.all (run.machine.clock < ·)
        (run.print (String.join (running.map fun job => toString job.number ++ "\n"))).ended 0
      else run.ended 0

/-- Sets commands for signals and other occasions. -/
def trap (args : List String) (run : Run) : Run :=
  withUsage "lp" "[-lp] [[arg] signal_spec ...]" args run fun given operands run =>
    let line (signal : Nat) (action : String) : String :=
      "trap -- " ++ Quoting.single action ++ " " ++ occasionName signal ++ "\n"
    let ordered := run.process.traps.mergeSort fun a b => a.1 ≤ b.1
    let badText (text : String) : String := text ++ ": invalid signal specification"
    if isGiven given 'l' then listSignals [] run
    else if operands.isEmpty then
      (run.print (String.join (ordered.map fun (signal, action) => line signal action))).ended 0
    else if isGiven given 'p' then
      operands.foldl
        (fun run text =>
          match signalNumber? 0 text with
          | none => run.failing 1 (badText text)
          | some signal =>
            match run.process.traps.lookup signal with
            | some action => run.print (line signal action)
            | none => run)
        (run.ended 0)
    else
      let first := operands.headD ""
      let isNumber := !first.isEmpty && first.toList.all Char.isDigit
      let isAlone := operands.length = 1
      let (action, conditions) : Option String × List String :=
        if isAlone || (isNumber && (signalNumber? 0 first).isSome) then (none, operands)
        else (if first == "-" then none else some first, operands.drop 1)
      conditions.foldl
        (fun run condition =>
          match signalNumber? 0 condition with
          | none => run.failing 1 (badText condition)
          | some signal =>
            run.onProcess fun process =>
              let traps := withoutTraps process.traps [signal]
              { process with traps := traps ++ action.toList.map fun action => (signal, action) })
        (run.ended 0)

/-- Takes the next option of the script. -/
def getopts (args : List String) (run : Run) : Run :=
  match args with
  | known :: name :: rest =>
    let words := if rest.isEmpty then run.process.arguments else rest
    let process := run.process
    let step := nextOption known.toList words process.optionIndex process.optionOffset
    let isQuiet := known.startsWith ":" || run.process.value? "OPTERR" == some "0"
    let complaint :=
      if step.complaint.isEmpty || isQuiet then ""
      else
        let letter := (step.complaint.toList.dropWhile (· != '-')).getD 1 '?'
        process.name ++
          (if step.complaint.startsWith "Illegal" then ": illegal option -- "
            else ": option requires an argument -- ") ++ String.ofList [letter] ++ "\n"
    let run := run.write 2 complaint
    let run := match step.value with
      | some value =>
        if value.isEmpty then run.onProcess fun process => process.unset "OPTARG"
        else run.onProcess fun process => process.assign "OPTARG" value
      | none => run.onProcess fun process => process.unset "OPTARG"
    let run := run.onProcess fun process => process.assign "OPTIND" (toString step.index)
    let run := assignTexts (run.ended 0) [(name, String.ofList [step.letter])]
    (run.onProcess fun process =>
      { process with optionIndex := step.index, optionOffset := step.offset }).ended
        (if run.process.status != 0 then run.process.status else if step.isOver then 1 else 0)
  | _ => showUsage "optstring name [arg ...]" run

/-- The command with a name, if it is one that runs no others. -/
def command? (name : String) : Option (List String → Run → Run) :=
  match name with
  | ":" | "true" | "bind" | "complete" | "compopt" | "fc" | "history" =>
    some fun _ run => run.ended 0
  | "false" | "caller" | "compgen" => some fun _ run => run.ended 1
  | "echo" => some echo
  | "printf" => some printf
  | "test" => some test
  | "[" => some bracket
  | "exit" => some leaveScript
  | "return" => some leaveFunction
  | "break" => some (leaveLoops .breakOut)
  | "continue" => some (leaveLoops .nextRound)
  | "shift" => some shift
  | "set" => some set
  | "shopt" => some shopt
  | "declare" | "typeset" => some (declareWords false)
  | "local" => some (declareWords true)
  | "export" => some exportWords
  | "readonly" => some freezeWords
  | "unset" => some unsetWords
  | "let" => some letWords
  | "read" => some readWords
  | "mapfile" | "readarray" => some mapLines
  | "cd" => some cd
  | "pwd" => some pwd
  | "dirs" => some dirs
  | "pushd" => some pushd
  | "popd" => some popd
  | "umask" => some umask
  | "ulimit" => some ulimit
  | "type" => some type
  | "hash" => some hash
  | "alias" => some aliases
  | "unalias" => some unalias
  | "enable" => some enable
  | "kill" => some kill
  | "wait" => some wait
  | "jobs" => some jobs
  | "fg" => some fun _ run => run.failing 1 "no job control"
  | "bg" => some fun _ run => run.failing 1 "no job control"
  | "disown" =>
    some fun args run =>
      if run.machine.jobs.isEmpty then run.failing 1 (args.headD "current" ++ ": no such job")
      else run.ended 0
  | "suspend" => some fun _ run => run.failing 1 "cannot suspend: no job control"
  | "logout" => some fun _ run => run.failing 1 "not login shell: use \x60exit'"
  | "trap" => some trap
  | "getopts" => some getopts
  | "times" => some fun _ run => (run.print "0m0.000s 0m0.000s\n0m0.000s 0m0.000s\n").ended 0
  | "help" =>
    some fun args run =>
      match args with
      | [] => run.ended 0
      | topic :: _ =>
        if extendedNames.contains topic then run.ended 0
        else
          run.failing 1 ("no help topics match \x60" ++ topic ++ "'.  Try \x60help help' or \x60man -k " ++
            topic ++ "' or \x60info " ++ topic ++ "'.")
  | _ => none

end RunMeter.Shell.Builtin.Extended
