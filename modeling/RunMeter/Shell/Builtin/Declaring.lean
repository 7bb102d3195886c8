import RunMeter.Shell.Builtin.Basic
import RunMeter.Shell.Element

/-!
# Declarations of the extended dialect

Commands that give variables values and marks, and show them as the commands that would do so. Within a
function they hide variables; an element is named by its subscript.
-/

set_option autoImplicit false

namespace RunMeter.Shell.Builtin

/-! ## Showing variables -/

/-- The letters of the marks of a variable. -/
def markLetters (entry : Variable) : String :=
  let marks :=
    [('a', entry.items.isSome && !entry.isKeyed), ('A', entry.isKeyed), ('i', entry.isNumeric),
      ('n', entry.isReference), ('r', entry.isConstant), ('x', entry.isExported),
      ('l', entry.raises == some false), ('u', entry.raises == some true)]
  String.ofList ((marks.filter (·.2)).map (·.1))

/-- The value of a variable as it would be assigned, with the values of scalars shown by `show'`. -/
def valueText (show' : String → String) (entry : Variable) : String :=
  match entry.items with
  | some items =>
    let item (key value : String) : String :=
      "[" ++ (if Quoting.needsQuotes key then Quoting.double key else key) ++ "]=" ++
        Quoting.declared value
    let texts := items.map fun (key, value) => item key value
    let close := if entry.isKeyed && !items.isEmpty then " )" else ")"
    "=(" ++ " ".intercalate texts ++ close
  | none => (entry.value.map fun value => "=" ++ show' value).getD ""

/-- The command that would declare a variable. -/
def declarationLine (name : String) (entry : Variable) : String :=
  let letters := markLetters entry
  "declare -" ++ (if letters.isEmpty then "-" else letters) ++ " " ++ name ++
    valueText Quoting.declared entry ++ "\n"

/-- The variables that satisfy a test, in the order of their names. -/
def variablesWith (run : Run) (test : Variable → Bool) : List (String × Variable) :=
  (run.process.bindings.filter fun (name, entry) => isName name && test entry).mergeSort fun a b =>
    a.1 ≤ b.1

/-- Shows the declarations of variables. -/
def showDeclarations (run : Run) (test : Variable → Bool) : Run :=
  (run.print (String.join ((variablesWith run test).map fun (name, entry) =>
    declarationLine name entry))).ended 0

/-- Shows the variables that have values, as assignments. -/
def showVariables (run : Run) : Run :=
  let entries := variablesWith run fun entry => entry.value.isSome || entry.items.isSome
  (run.print (String.join (entries.map fun (name, entry) =>
    name ++ valueText Quoting.value entry ++ "\n"))).ended 0

/-! ## Declaring -/

/-- The marks that words turn on and off, and the words that follow. `known` holds the letters. -/
def markWords (known : List Char) :
    List String → Except LetterFault (List (Char × Bool) × List String)
  | [] => .ok ([], [])
  | word :: rest =>
    let take (isOn : Bool) (letters : List Char) :
        Except LetterFault (List (Char × Bool) × List String) :=
      match letters.find? (!known.contains ·) with
      | some letter => .error (.unknown letter)
      | none => do
        let (more, words) ← markWords known rest
        .ok (letters.map (·, isOn) ++ more, words)
    match word.toList with
    | ['-', '-'] => .ok ([], rest)
    | '-' :: letter :: letters => take true (letter :: letters)
    | '+' :: letter :: letters => take false (letter :: letters)
    | _ => .ok ([], word :: rest)

/-- The text that explains how variables are declared. -/
def declareUsage : String :=
  "[-aAfFgiIlnrtux] [name[=value] ...] or " ++ "declare -p [-aAfFilnrtux] [name ...]"

/-- A variable with a mark turned on or off. -/
def withMark (entry : Variable) (mark : Char × Bool) : Variable :=
  match mark with
  | ('i', isOn) => { entry with isNumeric := isOn }
  | ('x', isOn) => { entry with isExported := isOn }
  | ('n', isOn) => { entry with isReference := isOn }
  | ('u', isOn) => { entry with raises := if isOn then some true else none }
  | ('l', isOn) => { entry with raises := if isOn then some false else none }
  | ('a', true) => { entry with items := some entry.elements }
  | ('A', true) => { entry with items := some entry.elements, isKeyed := true }
  | ('r', true) => { entry with isConstant := true }
  | _ => entry

/-- The parts of a word that declares: the name with its subscript, whether the value stands behind the
old one, and the value. -/
def declaredParts (word : String) : String × Bool × Option String :=
  let lead := word.toList.takeWhile (· != '=')
  if lead.length = word.length then (word, false, none)
  else
    let value := some (String.ofList (word.toList.drop (lead.length + 1)))
    if lead.getLast? == some '+' then (String.ofList lead.dropLast, true, value)
    else (String.ofList lead, false, value)

/-- Hides a variable for the rest of a function. -/
def hidden (run : Run) (name : String) : Run :=
  if run.process.hidden.any fun (other, _) => other == name then run
  else
    run.onProcess fun process =>
      { process with
        hidden := (name, process.bindings.lookup name) :: process.hidden
        bindings := Process.replaced name { value := none } process.bindings }

/-- Declares what one word says. -/
def declareWord (marks : List (Char × Bool)) (hides : Bool) (run : Run) (word : String) : Run :=
  let (target, appends, value) := declaredParts word
  let (name, _) := Run.splitSubscript target
  let before := (run.process.bindings.lookup name).getD { value := none }
  if !isName name then run.failing 1 ("\x60" ++ word ++ "': not a valid identifier")
  else if before.isConstant && (value.isSome || hides) then run.failing 1 (Run.constantText name)
  else
    let run := if hides then hidden run name else run
    let isTable := marks.any fun (mark, isOn) => isOn && mark == 'A'
    let marks := if isTable then marks.filter fun (mark, _) => mark != 'a' else marks
    let entry := (run.process.bindings.lookup name).getD { value := none }
    let isReference := marks.contains ('n', true)
    let early := (marks.filter fun (mark, _) => mark != 'r' && mark != 'n').foldl withMark entry
    let run := run.onProcess fun process => process.restore name (some early)
    let assigned : Except String Run :=
      match value with
      | none => .ok run
      | some value =>
        if isReference then
          .ok (run.onProcess fun process => process.restore name (some { early with value := some value }))
        else run.putText target appends value
    match assigned with
    | .error text => run.failing 1 text
    | .ok run =>
      run.onProcess fun process =>
        process.restore name
          (some ((marks.filter fun (mark, _) => mark == 'r' || mark == 'n').foldl withMark
            ((process.bindings.lookup name).getD early)))

/-- Shows how variables would be declared. -/
def showNamed (names : List String) (run : Run) : Run :=
  names.foldl
    (fun run name =>
      match run.binding? name with
      | some entry => run.print (declarationLine name entry)
      | none => run.failing 1 (name ++ ": not found"))
    (run.ended 0)

/-- Says which functions there are. -/
def showFunctions (names : List String) (run : Run) : Run :=
  if names.isEmpty then
    let all := (run.process.functions.map (·.1)).mergeSort fun a b => a ≤ b
    (run.print (String.join (all.map fun name => "declare -f " ++ name ++ "\n"))).ended 0
  else
    names.foldl
      (fun run name =>
        if (run.process.functions.lookup name).isSome then run.print (name ++ "\n")
        else run.ended 1)
      (run.ended 0)

/-- Whether a variable has all marks that are asked for. -/
def hasMarks (marks : List (Char × Bool)) (entry : Variable) : Bool :=
  let letters := (markLetters entry).toList
  marks.all fun (mark, isOn) => !isOn || mark == 'p' || mark == 'g' || letters.contains mark

/-- Declares variables. `hidesAlways` is true for the command that does so only within functions. -/
def declareWords (hidesAlways : Bool) (args : List String) (run : Run) : Run :=
  let isIn := run.process.calls > 0
  if hidesAlways && !isIn then run.failing 1 "can only be used in a function"
  else
    match markWords "aAfFgiIlnprtux".toList args with
    | .error fault =>
      let name := run.process.command
      let usage := if name == "local" then "[option] name[=value] ..." else
        declareUsage
      showUsage usage (run.complain fault.extendedMessage)
    | .ok (marks, words) =>
      let asks (letter : Char) : Bool := marks.contains (letter, true)
      if asks 'f' || asks 'F' then showFunctions words run
      else if asks 'p' && !words.isEmpty then showNamed words run
      else if words.isEmpty then
        if marks.isEmpty then showVariables run else showDeclarations run (hasMarks marks)
      else
        words.foldl (declareWord marks (isIn && !asks 'g')) (run.ended 0)

/-- Lets programs inherit variables. -/
def exportWords (args : List String) (run : Run) : Run :=
  withUsage "fnp" "[-fn] [name[=value] ...] or export -p" args run fun given words run =>
    if isGiven given 'f' then
      words.foldl
        (fun run name =>
          if (run.process.functions.lookup name).isSome then run
          else run.failing 1 (name ++ ": not a function"))
        (run.ended 0)
    else if words.isEmpty then showDeclarations run (·.isExported)
    else
      words.foldl
        (fun run word =>
          let (name, appends, value) := declaredParts word
          if !isName name then run.failing 1 ("\x60" ++ word ++ "': not a valid identifier")
          else
            match (value.map (run.putText name appends)).getD (.ok run) with
            | .error text => plainly (fun run => run.failing 1 text) run
            | .ok run =>
              let entry := (run.process.bindings.lookup name).getD { value := none }
              run.onProcess fun process =>
                process.restore name (some { entry with isExported := !isGiven given 'n' }))
        (run.ended 0)

/-- Keeps variables from changing. -/
def freezeWords (args : List String) (run : Run) : Run :=
  withUsage "aAfp" "[-aAf] [name[=value] ...] or readonly -p" args run fun given words run =>
    if isGiven given 'f' then run.ended 0
    else if words.isEmpty then showDeclarations run (·.isConstant)
    else
      let marks := (given.filter fun (letter, _) => letter != 'p').map fun (letter, _) => (letter, true)
      words.foldl
        (fun run word =>
          let (name, _, value) := declaredParts word
          if (run.process.bindings.lookup name).any (·.isConstant) && value.isSome then
            plainly (fun run => run.failing 1 (Run.constantText name)) run
          else declareWord (marks ++ [('r', true)]) false run word)
        (run.ended 0)

/-- Removes variables, elements and functions. -/
def unsetWords (args : List String) (run : Run) : Run :=
  withUsage "fnv" "[-f] [-v] [-n] [name ...]" args run fun given words run =>
    let removeFunction (run : Run) (name : String) : Run :=
      run.onProcess fun process =>
        { process with functions := process.functions.filter fun (k, _) => k != name }
    words.foldl
      (fun run word =>
        let target := if isGiven given 'n' then word else run.meant word Run.maxDepth
        let (name, subscript) := Run.splitSubscript target
        match run.process.bindings.lookup name, isGiven given 'f' with
        | _, true => removeFunction run word
        | none, false => if isGiven given 'v' then run else removeFunction run word
        | some entry, false =>
          if entry.isConstant then run.failing 1 (name ++ ": cannot unset: readonly variable")
          else
            match subscript with
            | none => run.onProcess fun process => process.unset name
            | some "@" | some "*" => run.onProcess fun process => process.unset name
            | some subscript =>
              match run.keyOf name subscript with
              | .error text => run.failing 1 text
              | .ok (key, run) =>
                run.onProcess fun process =>
                  process.restore name
                    (some (entry.withItems (entry.elements.filter fun (other, _) => other != key))))
      (run.ended 0)

/-- Evaluates expressions up to the first one that has no value; the last one decides. -/
def evaluateWords : List String → Run → Run
  | [], run => run
  | text :: rest, run =>
    match run.calculate text with
    | .error text => run.failing 1 text
    | .ok (value, run) => evaluateWords rest (run.ended (if value = 0 then 1 else 0))

/-- Evaluates expressions. -/
def letWords (args : List String) (run : Run) : Run :=
  if args.isEmpty then run.failing 1 "expression expected" else evaluateWords args run

end RunMeter.Shell.Builtin
