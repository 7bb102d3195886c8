import RunMeter.Shell.Launch
import RunMeter.Shell.Tool.Basic

/-!
# Tools that tell about their surroundings

Who runs them, on which machine, in which environment, and where programs lie. All of them run as the
first user of the list of users.
-/

set_option autoImplicit false

namespace RunMeter.Shell.Tool

/-! ## Users -/

/-- A user: a name, its number and the number of its group. -/
structure User where
  name : String
  number : Nat
  group : Nat

/-- The users of the system. -/
def systemUsers : List User :=
  (System.users.splitOn "\n").filterMap fun line =>
    match line.splitOn ":" with
    | name :: _ :: number :: group :: _ =>
      match number.toNat?, group.toNat? with
      | some number, some group => some { name, number, group }
      | _, _ => none
    | _ => none

/-- The name of a group. Most groups are named after the user with their number. -/
def groupName (number : Nat) : String :=
  if number = 65534 then "nogroup"
  else
    match systemUsers.find? fun user => user.number = number with
    | some user => user.name
    | none => toString number

/-- The user with a name or a number. -/
def user? (text : String) : Option User :=
  match systemUsers.find? fun user => user.name == text with
  | some user => some user
  | none => text.toNat?.bind fun n => systemUsers.find? fun user => user.number = n

/-- The user who runs everything. -/
def runningUser : User := (systemUsers.head?).getD { name := "root", number := 0, group := 0 }

/-- Says who somebody is. -/
def identity (args : List String) (run : Run) : Run :=
  let table : OptionTable :=
    { short := "agGnruzZ"
      long :=
        [("group", .nothing, 'g'), ("groups", .nothing, 'G'), ("name", .nothing, 'n'),
          ("real", .nothing, 'r'), ("user", .nothing, 'u'), ("zero", .nothing, 'z'),
          ("context", .nothing, 'Z')] }
  withOptions table 1 args run fun given run =>
    let choices := ['g', 'G', 'u'].filter given.has
    match choices with
    | _ :: _ :: _ => fail run "cannot print \"only\" of more than one choice"
    | choices =>
      if choices.isEmpty && given.hasAny ['n', 'r'] then
        fail run "cannot print only names or real IDs in default format"
      else if choices.isEmpty && given.has 'z' then
        fail run "option --zero not permitted in default format"
      else if given.has 'Z' then
        fail run "--context (-Z) works only on an SELinux-enabled kernel"
      else
        let stop := if given.has 'z' then "\x00" else "\n"
        let describe (user : User) : String :=
          let named := given.has 'n'
          let group := if named then groupName user.group else toString user.group
          match choices with
          | ['u'] => (if named then user.name else toString user.number) ++ stop
          | [_] => group ++ stop
          | _ =>
            let pair (n : Nat) (name : String) : String := toString n ++ "(" ++ name ++ ")"
            "uid=" ++ pair user.number user.name ++ " gid=" ++ pair user.group (groupName user.group) ++
              " groups=" ++ pair user.group (groupName user.group) ++ "\n"
        if given.operands.isEmpty then (run.print (describe runningUser)).ended 0
        else
          given.operands.foldl
            (fun run operand =>
              match user? operand with
              | some user => run.print (describe user)
              | none => fail run (quoted operand ++ ": no such user"))
            (run.ended 0)

/-- Says who runs the tool. -/
def whoami (args : List String) (run : Run) : Run :=
  withOptions { short := "" } 1 args run fun given run =>
    match given.operands with
    | operand :: _ => extraOperand run operand
    | [] => (run.print (runningUser.name ++ "\n")).ended 0

/-- Names the groups of users. -/
def groupNames (args : List String) (run : Run) : Run :=
  withOptions { short := "" } 1 args run fun given run =>
    if given.operands.isEmpty then (run.print (groupName runningUser.group ++ "\n")).ended 0
    else
      given.operands.foldl
        (fun run operand =>
          match user? operand with
          | some user => run.print (operand ++ " : " ++ groupName user.group ++ "\n")
          | none => fail run (quoted operand ++ ": no such user"))
        (run.ended 0)

/-- Names whoever has logged in, which is nobody. -/
def logname (args : List String) (run : Run) : Run :=
  withOptions { short := "" } 1 args run fun given run =>
    match given.operands with
    | operand :: _ => extraOperand run operand
    | [] => fail run "no login name"

/-! ## The machine -/

/-- Tells about the system. -/
def uname (args : List String) (run : Run) : Run :=
  let table : OptionTable :=
    { short := "asnrvmpio"
      long :=
        [("all", .nothing, 'a'), ("kernel-name", .nothing, 's'), ("nodename", .nothing, 'n'),
          ("kernel-release", .nothing, 'r'), ("kernel-version", .nothing, 'v'),
          ("machine", .nothing, 'm'), ("processor", .nothing, 'p'), ("hardware-platform", .nothing, 'i'),
          ("operating-system", .nothing, 'o')] }
  withOptions table 1 args run fun given run =>
    match given.operands with
    | operand :: _ => extraOperand run operand
    | [] =>
      let facts : List (Char × String) :=
        [('s', "Linux"), ('n', "localhost"), ('r', "6.1.0"), ('v', "#1 SMP"), ('m', "x86_64"),
          ('p', "x86_64"), ('i', "x86_64"), ('o', "GNU/Linux")]
      let wanted (letter : Char) : Bool :=
        given.hasAny [letter, 'a'] || (given.options.isEmpty && letter == 's')
      let words := facts.filterMap fun (letter, text) => if wanted letter then some text else none
      (run.print (" ".intercalate words ++ "\n")).ended 0

/-- Names the kind of machine. -/
def arch (args : List String) (run : Run) : Run :=
  withOptions { short := "" } 1 args run fun given run =>
    match given.operands with
    | operand :: _ => extraOperand run operand
    | [] => (run.print "x86_64\n").ended 0

/-- Says whether the standard input is a terminal, which it never is. -/
def tty (args : List String) (run : Run) : Run :=
  let table : OptionTable := { short := "s", long := [("silent", .nothing, 's'), ("quiet", .nothing, 's')] }
  withOptions table 2 args run fun given run =>
    match given.operands with
    | operand :: _ => misuseWith 2 run ("extra operand " ++ quoted operand)
    | [] => (if given.has 's' then run else run.print "not a tty\n").ended 1

/-- Counts the processors. -/
def nproc (args : List String) (run : Run) : Run :=
  let table : OptionTable := { short := "", long := [("all", .nothing, '1'), ("ignore", .required, '2')] }
  withOptions table 1 args run fun given run =>
    match given.operands, given.value? '2' with
    | operand :: _, _ => extraOperand run operand
    | [], some text =>
      match text.toNat? with
      | some ignored => (run.print (toString (max 1 (4 - ignored)) ++ "\n")).ended 0
      | none => fail run ("invalid number to ignore: " ++ quoted text)
    | [], none => (run.print "4\n").ended 0

/-- Prints the number of the machine. -/
def hostid (args : List String) (run : Run) : Run :=
  withOptions { short := "" } 1 args run fun given run =>
    match given.operands with
    | operand :: _ => extraOperand run operand
    | [] => (run.print "007f0100\n").ended 0

/-- Writes everything out, which always is. -/
def sync (_args : List String) (run : Run) : Run := run.ended 0

/-- Prints the values of limits of the system. -/
def getconf (args : List String) (run : Run) : Run :=
  let facts : List (String × String) :=
    [("PAGE_SIZE", "4096"), ("PAGESIZE", "4096"), ("LONG_BIT", "64"), ("WORD_BIT", "32"),
      ("CHAR_BIT", "8"), ("INT_MAX", "2147483647"), ("INT_MIN", "-2147483648"), ("UINT_MAX", "4294967295"),
      ("LONG_MAX", "9223372036854775807"), ("ARG_MAX", "2097152"), ("OPEN_MAX", "1048576"),
      ("CLK_TCK", "100"), ("_NPROCESSORS_ONLN", "4"), ("_NPROCESSORS_CONF", "4"),
      ("NAME_MAX", "255"), ("PATH_MAX", "4096"), ("PIPE_BUF", "4096"), ("LINK_MAX", "127"),
      ("PATH", "/bin:/usr/bin"), ("CS_PATH", "/bin:/usr/bin"), ("SHRT_MAX", "32767"),
      ("LINE_MAX", "2048"), ("HOST_NAME_MAX", "64"), ("NGROUPS_MAX", "65536")]
  match args with
  | [name] | [name, _] =>
    match facts.lookup name with
    | some value => (run.print (value ++ "\n")).ended 0
    | none => failWith 2 run ("Unrecognized variable \x60" ++ name ++ "'")
  | _ =>
    (run.write 2 ("Usage: getconf [-v specification] variable_name [pathname]\n" ++
      "       getconf -a [pathname]\n")).ended 2

/-! ## The environment -/

/-- Prints the environment or single values of it. -/
def printenv (args : List String) (run : Run) : Run :=
  let table : OptionTable := { short := "0", long := [("null", .nothing, '0')], stopsEarly := true }
  withOptions table 2 args run fun given run =>
    let stop := if given.has '0' then "\x00" else "\n"
    let entries := run.process.environment
    if given.operands.isEmpty then
      (run.print (String.join (entries.map fun (name, value) => name ++ "=" ++ value ++ stop))).ended 0
    else
      let values := given.operands.filterMap fun name =>
        if name.contains '=' then none else entries.lookup name
      (run.print (String.join (values.map (· ++ stop)))).ended
        (if values.length = given.operands.length then 0 else 1)

/-- Prints where programs lie that would be started by their names. -/
def which (args : List String) (run : Run) : Run :=
  let letters (text : String) : Option (List Char) :=
    match text.toList with
    | '-' :: letter :: rest => some (letter :: rest)
    | _ => none
  let options := args.takeWhile fun arg => arg != "--" && (letters arg).isSome
  let names := args.drop options.length
  let names := if names.head? == some "--" then names.drop 1 else names
  let given := options.flatMap fun option => (letters option).getD []
  match given.find? fun letter => letter != 'a' && letter != 's' with
  | some letter =>
    let run := run.write 2 ("Illegal option -" ++ String.ofList [letter] ++ "\n")
    (run.print "Usage: /usr/bin/which [-as] args\n").ended 2
  | none =>
    let directories := ((run.process.value? "PATH").getD "").splitOn ":"
    let isProgram (name : String) : Bool := run.asksFile "-f" name && run.asksFile "-x" name
    let found (name : String) : List String :=
      if name.contains '/' then (if isProgram name then [name] else [])
      else
        directories.filterMap fun directory =>
          let path := (if directory.isEmpty then "." else directory) ++ "/" ++ name
          if isProgram path then some path else none
    let lines := names.map fun name =>
      let all := found name
      if given.contains 'a' then all else all.take 1
    let isWhole := !lines.isEmpty && lines.all fun all => !all.isEmpty
    let run := if given.contains 's' then run
      else run.print (String.join (lines.flatten.map (· ++ "\n")))
    run.ended (if isWhole then 0 else 1)

end RunMeter.Shell.Tool
