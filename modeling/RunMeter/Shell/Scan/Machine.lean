import RunMeter.Shell.Regex.Reader
import RunMeter.Shell.Scan.Program
import RunMeter.Shell.Scan.Value
import RunMeter.Shell.Tool.Launching

/-!
# Scanning records

What carries out a program that scans records: its variables, the record at hand and its fields, the
input and the outputs that are open, and how every term and statement changes them.

Terms and statements are carried out by one group of functions. A bound on their depth makes them end,
and a count of rounds and calls stops programs that would go on for ever.
-/

set_option autoImplicit false

namespace RunMeter.Shell.Scan

open Tool

/-! ## States -/

/-- What a name stands for. -/
inductive Slot
  | value (value : Value)
  | array (number : Nat)
  /-- Nothing yet; used as an array, it is the one with this number. -/
  | undecided (number : Nat)

/-- How a program goes on. -/
inductive Flow
  | proceed
  | next
  | nextFile
  | breakOut
  | goOn
  | returned
  | leaving
  | failed
  | endless
deriving DecidableEq, Repr

/-- The state of a program. -/
structure State where
  run : Run
  globals : Std.HashMap String Slot := {}
  /-- The parameters of the function at hand. -/
  locals : List (String × Slot) := []
  arrays : Std.HashMap Nat Table := {}
  nextArray : Nat := 0
  record : String := ""
  fields : Array Value := #[]
  /-- What is to be printed, the last piece first. -/
  pending : List String := []
  /-- The commands that output goes to, with that output, the last piece first. -/
  pipes : List (String × List String) := []
  /-- The files that output goes to. -/
  files : List String := []
  /-- The inputs that lines are read from by name. -/
  inputs : List (String × List Char) := []
  /-- What is left of the file at hand. -/
  current : Option (List Char) := none
  /-- The next of the operands. -/
  operand : Nat := 1
  hasRead : Bool := false
  /-- Whether more would follow for as long as anybody reads. -/
  isEndless : Bool := false
  regexes : Std.HashMap String Regex := {}
  /-- The ranges that have begun and not ended. -/
  ranges : List Nat := []
  seed : Nat := 1
  flow : Flow := .proceed
  status : Nat := 0
  result : Value := .unset
  /-- How many rounds and calls are left. -/
  steps : Nat := 2000000

/-- What stays the same while a program runs. -/
structure Setting where
  launch : Launcher
  functions : List (String × Function)

namespace State

/-- Whether the program goes on with the next statement. -/
def goesOn (state : State) : Bool := state.flow == .proceed

/-- Takes one of the steps that are left. -/
def stepped (state : State) : State :=
  if state.steps = 0 then { state with flow := .endless } else { state with steps := state.steps - 1 }

/-! ### Variables -/

/-- What a name stands for. -/
def slot? (state : State) (name : String) : Option Slot :=
  match state.locals.lookup name with
  | some slot => some slot
  | none => state.globals.get? name

/-- Makes a name stand for something. -/
def setSlot (state : State) (name : String) (slot : Slot) : State :=
  if (state.locals.lookup name).isSome then
    { state with
      locals := state.locals.map fun (n, before) => if n == name then (n, slot) else (n, before) }
  else { state with globals := state.globals.insert name slot }

/-- The value of a variable, as it is kept. -/
def kept (state : State) (name : String) : Value :=
  match state.slot? name with
  | some (.value value) => value
  | _ => .unset

/-- The text of a variable. -/
def text (state : State) (name : String) : String := (state.kept name).toText "%.6g"

/-- The format for numbers that become texts. -/
def convert (state : State) : String := state.text "CONVFMT"

/-- Sets a variable that is none of the current function. -/
def setGlobal (state : State) (name : String) (value : Value) : State :=
  { state with globals := state.globals.insert name (.value value) }

/-- The array that a name stands for. -/
def arrayOf (state : State) (name : String) : Nat × State :=
  match state.slot? name with
  | some (.array number) => (number, state)
  | some (.undecided number) => (number, state.setSlot name (.array number))
  | _ =>
    let number := state.nextArray
    (number, { state with nextArray := number + 1 }.setSlot name (.array number))

/-- An array by its number. -/
def table (state : State) (number : Nat) : Table := (state.arrays.get? number).getD {}

/-- Sets an array. -/
def setTable (state : State) (number : Nat) (table : Table) : State :=
  { state with arrays := state.arrays.insert number table }

/-! ### Faults -/

/-- Complains and ends the program. -/
def fail (state : State) (text : String) : State :=
  { state with
    flow := .failed
    status := 2
    run := state.run.write 2 (state.run.process.name ++ ": " ++ text ++ "\n") }

/-- Complains about what the program does with the record at hand, and ends it. -/
def failAt (state : State) (text : String) : State :=
  state.fail ("run time error: " ++ text ++ "\n\tFILENAME=\"" ++ state.text "FILENAME" ++ "\" FNR=" ++
    state.text "FNR" ++ " NR=" ++ state.text "NR")

/-! ### Regular expressions -/

/-- The reason that is given for a regular expression that cannot be read. -/
def regexReason : RegexFault → String
  | .unmatchedOpen => "missing ')'"
  | .unmatchedClose => "missing '('"
  | .unmatchedBracket | .badClass | .badRange | .badCollation => "bad class -- [], [^] or ["
  | .trailingBackslash => "unexpected end"
  | _ => "missing operand"

/-- The regular expression that a text stands for. -/
def regex (state : State) (source : String) : Regex × State :=
  match state.regexes.get? source with
  | some regex => (regex, state)
  | none =>
    match Regex.read { isExtended := true, hasEscapes := true } source with
    | .ok regex => (regex, { state with regexes := state.regexes.insert source regex })
    | .error fault =>
      (.empty, state.fail ("line 1: regular expression compile failed (" ++ regexReason fault ++ ")\n" ++
        source))

/-! ### Fields -/

/-- The pieces of a text between the places where a regular expression fits. -/
def piecesBetween (regex : Regex) (text : Array Char) : (fuel : Nat) → (start place : Nat) →
    List String
  | 0, start, _ => [String.ofList (text.extract start text.size).toList]
  | fuel + 1, start, place =>
    match regex.find? text place with
    | none => [String.ofList (text.extract start text.size).toList]
    | some found =>
      if found.start = found.stop then
        if found.stop ≥ text.size then [String.ofList (text.extract start text.size).toList]
        else piecesBetween regex text fuel start (found.stop + 1)
      else
        String.ofList (text.extract start found.start).toList ::
          piecesBetween regex text fuel found.stop found.stop

/-- The pieces of a text between blanks. -/
def words (text : String) : List String :=
  (text.split fun c => c == ' ' || c == '\t' || c == '\n').toList.filterMap fun piece =>
    if piece.isEmpty then none else some piece.toString

/-- Divides a text by a separator. -/
def divided (state : State) (separator text : String) : List String × State :=
  if text.isEmpty then ([], state)
  else if separator == " " then (words text, state)
  else if separator.isEmpty then (text.toList.map fun c => String.ofList [c], state)
  else if separator.length = 1 then (text.splitOn separator, state)
  else
    let (regex, state) := state.regex separator
    let characters := text.toList.toArray
    (piecesBetween regex characters (characters.size + 2) 0 0, state)

/-- The separator of fields. Where records are paragraphs, a line end divides fields too. -/
def fieldSeparator (state : State) : String :=
  let separator := state.text "FS"
  if state.text "RS" == "" && separator != " " then
    let one := if separator.length = 1 then "[" ++ separator ++ "]" else "(" ++ separator ++ ")"
    one ++ "|\n"
  else separator

/-- Sets the record at hand. -/
def setRecord (state : State) (record : String) : State :=
  let (pieces, state) := state.divided state.fieldSeparator record
  { state with record, fields := (pieces.map Value.ofInput).toArray }

/-- Puts the record together from its fields. -/
def joinFields (state : State) : State :=
  let texts := state.fields.toList.map fun value => value.toText state.convert
  { state with record := (state.text "OFS").intercalate texts }

/-- Sets a field. -/
def setField (state : State) (index : Nat) (value : Value) : State :=
  if index = 0 then state.setRecord (value.toText state.convert)
  else
    let missing := index - state.fields.size
    let fields := state.fields ++ Array.replicate missing (Value.ofInput "")
    ({ state with fields := fields.set! (index - 1) value }).joinFields

/-- A field. -/
def field (state : State) (index : Nat) : Value :=
  if index = 0 then .input state.record (Value.apparentNumber? state.record)
  else (state.fields[index - 1]?).getD .unset

/-- Sets the number of fields. -/
def setCount (state : State) (count : Nat) : State :=
  let fields := state.fields.extract 0 count
  { state with fields := fields ++ Array.replicate (count - fields.size) (Value.ofInput "") }.joinFields

/-- The value of a variable. -/
def value (state : State) (name : String) : Value :=
  if name == "NF" && (state.locals.lookup name).isNone then Value.ofNat state.fields.size
  else state.kept name

/-- Gives a variable a value. -/
def assign (state : State) (name : String) (value : Value) : State :=
  if (state.locals.lookup name).isSome then state.setSlot name (.value value)
  else if name == "NF" then state.setCount value.toNat
  else
    match state.globals.get? name with
    | some (.array _) => state.fail ("line 1: illegal reference to array " ++ name)
    | _ => state.setGlobal name value

/-! ### Output -/

/-- Prints what is pending. -/
def flush (state : State) : State :=
  if state.pending.isEmpty then state
  else
    { state with
      pending := []
      run := state.run.print (String.join state.pending.reverse) }

/-- Writes to the standard output. -/
def print (state : State) (text : String) : State := { state with pending := text :: state.pending }

/-- Writes to a file. -/
def writeFile (state : State) (appends : Bool) (name text : String) : State :=
  if name == "/dev/stdout" || name == "-" then state.print text
  else if name == "/dev/stderr" then { state with run := state.run.write 2 text }
  else
    let isOpen := state.files.contains name
    match state.run.writeFile name text (isOpen || appends) with
    | .ok run => { state with run, files := if isOpen then state.files else name :: state.files }
    | .error fault =>
      state.fail ("cannot open \"" ++ name ++ "\" for output (" ++ faultText fault ++ ")")

/-- Writes to a command. -/
def writePipe (state : State) (command text : String) : State :=
  match state.pipes.lookup command with
  | some pieces =>
    { state with
      pipes := state.pipes.map fun (name, before) =>
        if name == command then (name, text :: pieces) else (name, before) }
  | none =>
    let state := state.flush
    { state with pipes := state.pipes ++ [(command, [text])] }

/-- Whether the run behind the program has been stopped by something else. -/
def withRun (state : State) (run : Run) : State :=
  if run.goesOn then { state with run }
  else { state with run, flow := .endless }

/-- Runs a command on what was written to it, and gives its status. -/
def closePipe (launch : Launcher) (state : State) (command : String) : Nat × State :=
  match state.pipes.lookup command with
  | none => (0, state)
  | some pieces =>
    let before := state.run.process.channel? 0
    let begun := state.run.feed 0 { rest := (String.join pieces.reverse).toList }
    let (outcome, run) := carryOut launch "/bin/sh" ["-c", command] begun
    let run := run.onProcess fun process =>
      match before with
      | some channel => process.setChannel 0 channel
      | none => process.close 0
    let state := { state with pipes := state.pipes.filter fun (name, _) => name != command }
    (match outcome with
      | .exited status => status
      | .killed signal => 256 + signal
      | .refused _ => 127, state.withRun run)

/-! ### Input -/

/-- The lines of a text up to the first empty one, after what was read before, and what is left. -/
def paragraph : List Char → List Char → List Char × List Char
  | done, [] => (done.reverse, [])
  | done, c :: rest =>
    if c == '\n' && rest.head? == some '\n' then (done.reverse, rest.dropWhile (· == '\n'))
    else paragraph (c :: done) rest

/-- The next record of a text, and what is left. -/
def recordOf (state : State) (text : List Char) : Option (String × List Char) × State :=
  let separator := state.text "RS"
  if text.isEmpty then (none, state)
  else
    match separator.toList with
    | [c] =>
      let record := text.takeWhile (· != c)
      (some (String.ofList record, text.drop (record.length + 1)), state)
    | [] =>
      -- records are paragraphs
      let text := text.dropWhile (· == '\n')
      if text.isEmpty then (none, state)
      else
        let (record, rest) := paragraph [] text
        let record := if record.getLast? == some '\n' && rest.isEmpty then record.dropLast else record
        (some (String.ofList record, rest), state)
    | _ =>
      let (regex, state) := state.regex separator
      let characters := text.toArray
      match regex.find? characters 0 with
      | some found =>
        if found.start = found.stop then (some (String.ofList text, []), state)
        else
          (some (String.ofList (text.take found.start), text.drop found.stop), state)
      | none =>
        let text := if text.getLast? == some '\n' && separator == "\n" then text.dropLast else text
        (some (String.ofList text, []), state)

/-- An operand that gives a variable a value. -/
def assignment? (operand : String) : Option (String × String) :=
  let name := operand.toList.takeWhile isNameLetter
  match name, operand.toList.drop name.length with
  | c :: _, '=' :: value =>
    if c.isDigit then none else some (String.ofList name, (Print.unescape .tool (String.ofList value)).1)
  | _, _ => none
where
  /-- Whether a character may stand in a name. -/
  isNameLetter (c : Char) : Bool := c.isAlphanum || c == '_'

/-- What is said about a file that cannot be read. A directory opens, but nothing can be read from
it. -/
def openComplaint (name : String) (fault : FileFault) : String :=
  if fault == .isADirectory then "read error (" ++ faultText fault ++ ")"
  else "cannot open \"" ++ name ++ "\" (" ++ faultText fault ++ ")"

/-- Opens the next file among the operands, or the standard input if there is none. `fuel` is more
than the number of operands. -/
def openNext : (fuel : Nat) → State → Bool × State
  | 0, state => (false, state)
  | fuel + 1, state =>
    let count := (state.value "ARGC").toNat
    let readFrom (state : State) (name shown : String) : Bool × State :=
      match contents state.run name with
      | (.error fault, run) =>
        (false, { state with run }.fail (openComplaint shown fault))
      | (.ok text, run) =>
        let isEndless := run.control == .exhausted
        let run := if isEndless then { run with control := .proceed } else run
        let state := ({ state with run, isEndless, hasRead := true, current := some text.toList }.setGlobal
          "FILENAME" (.text (if shown == "-" then "" else shown))).setGlobal "FNR" (.number 0.0)
        (true, if run.goesOn then state else { state with flow := .endless })
    if count ≤ state.operand then
      if state.hasRead then (false, state) else readFrom state "-" "-"
    else
      let (number, state) := state.arrayOf "ARGV"
      let key := toString state.operand
      let name := (((state.table number).entries.get? key).map fun (_, value) =>
        value.toText state.convert).getD ""
      let state := { state with operand := state.operand + 1 }
      if name.isEmpty then openNext fuel state
      else
        match assignment? name with
        | some (target, value) => openNext fuel (state.assign target (Value.ofInput value))
        | none => readFrom state name name

/-- The next record of the input. `fuel` is more than the number of operands. -/
def nextRecord : (fuel : Nat) → State → Option String × State
  | 0, state => (none, state)
  | fuel + 1, state =>
    match state.current with
    | some text =>
      match state.recordOf text with
      | (some (record, rest), state) =>
        let count (name : String) (state : State) : State :=
          state.setGlobal name (.number ((state.kept name).toNumber + 1.0))
        (some record, count "NR" (count "FNR" { state with current := some rest }))
      | (none, state) =>
        if state.isEndless then (none, { state with flow := .endless })
        else nextRecord fuel { state with current := none }
    | none =>
      let (isOpen, state) := openNext ((state.value "ARGC").toNat + 2) state
      if isOpen && state.goesOn then nextRecord fuel state else (none, state)

/-- How many operands there are at most. -/
def operandRoom (state : State) : Nat := 2 * (state.value "ARGC").toNat + 4

/-- What a command prints. -/
def outputOf (launch : Launcher) (state : State) (command : String) : String × State :=
  let state := state.flush
  let (sink, machine) := state.run.machine.fresh
  let before := state.run.process.channel? 1
  let begun := { state.run with machine }.onProcess fun process => process.setChannel 1 (.sink sink)
  let (_, run) := carryOut launch "/bin/sh" ["-c", command] begun
  let text := run.machine.collected sink
  let run := (run.onMachine fun machine => machine.forget sink).onProcess fun process =>
    match before with
    | some channel => process.setChannel 1 channel
    | none => process.close 1
  (text, state.withRun run)

/-- The next line of an input by name; `-1` if it cannot be opened. -/
def lineFrom (launch : Launcher) (state : State) (isCommand : Bool) (name : String) :
    Int × String × State :=
  let read (text : List Char) (state : State) : Int × String × State :=
    let (found, state) := state.recordOf text
    let (count, line, rest) : Int × String × List Char := match found with
      | some (line, rest) => (1, line, rest)
      | none => (0, "", [])
    let others := state.inputs.filter fun (n, _) => n != name
    (count, line, { state with inputs := (name, rest) :: others })
  match state.inputs.lookup name with
  | some text => read text state
  | none =>
    if isCommand then
      let (text, state) := state.outputOf launch name
      read text.toList state
    else
      let isStandard := name == "-" || name == "/dev/stdin"
      match contents state.run (if isStandard then "-" else name) with
      | (.ok text, run) =>
        let run := if run.control == .exhausted then { run with control := .proceed } else run
        read text.toList (state.withRun run)
      | (.error fault, run) =>
        let state := { state with run }
        (-1, "", if fault == .isADirectory then state.fail (openComplaint name fault) else state)

end State

/-! ## Functions that every program has -/

/-- A text with places where a regular expression fits replaced: all of them, or the first. `from'`
is where the search goes on; an empty match right behind another one does not count. Also gives the
number of places. `fuel` is more than the length of the text. -/
def substituted (regex : Regex) (all : Bool) (replacement : List Char) (text : Array Char)
    (afterMatch : Bool) : (fuel : Nat) → (place : Nat) → List Char × Nat
  | 0, place => ((text.extract place text.size).toList, 0)
  | fuel + 1, place =>
    match regex.find? text place with
    | none => ((text.extract place text.size).toList, 0)
    | some found =>
      let before := (text.extract place found.start).toList
      let matched := (text.extract found.start found.stop).toList
      let isEmpty := found.start = found.stop
      if isEmpty && afterMatch && found.start = place then
        match text[place]? with
        | none => ([], 0)
        | some c =>
          let (rest, count) := substituted regex all replacement text false fuel (place + 1)
          (c :: rest, count)
      else
        let written := filled replacement matched
        if !all then (before ++ written ++ (text.extract found.stop text.size).toList, 1)
        else if isEmpty then
          match text[found.stop]? with
          | none => (before ++ written, 1)
          | some c =>
            let (rest, count) := substituted regex all replacement text false fuel (found.stop + 1)
            (before ++ written ++ c :: rest, count + 1)
        else
          let (rest, count) := substituted regex all replacement text true fuel found.stop
          (before ++ written ++ rest, count + 1)
where
  /-- A replacement with the matched text in the places for it. -/
  filled : List Char → List Char → List Char
    | '\\' :: '\\' :: rest, matched => '\\' :: filled rest matched
    | '\\' :: '&' :: rest, matched => '&' :: filled rest matched
    | '&' :: rest, matched => matched ++ filled rest matched
    | c :: rest, matched => c :: filled rest matched
    | [], _ => []

/-- The part of a text from a place on, of a length if that is given. A place below zero makes the
part longer by its size. -/
def part (text : String) (start : Float) (length : Option Float) : String :=
  let first := Value.truncated start
  let low := max 1 first
  let stop : Int := match length with
    | some length => low + Value.truncated length - min first 0
    | none => 2 ^ 62
  let high := min ((text.length + 1 : Nat) : Int) stop
  if high ≤ low then ""
  else String.ofList ((text.toList.drop (low - 1).toNat).take (high - low).toNat)

/-- The place of a text in another one, counted from one; zero if it is not there. -/
def placeOf (needle : List Char) : (place : Nat) → List Char → Nat
  | place, [] => if needle.isEmpty then place else 0
  | place, c :: rest =>
    if needle.isPrefixOf (c :: rest) then place else placeOf needle (place + 1) rest

/-- The result of an operation. -/
def Operator.apply (operator : Operator) (x y : Float) : Float :=
  match operator with
  | .add => x + y
  | .subtract => x - y
  | .multiply => x * y
  | .divide => x / y
  | .remainder => remainderOf x y
  | .power => Float.pow x y

/-- Whether two values stand in a relation. -/
def Relation.holds (relation : Relation) (convert : String) (a b : Value) : Bool :=
  match a.comparable?, b.comparable? with
  | some x, some y =>
    match relation with
    | .less => x < y
    | .atMost => x ≤ y
    | .equal => x == y
    | .unequal => x != y
    | .atLeast => x ≥ y
    | .more => x > y
  | _, _ =>
    let x := a.toText convert
    let y := b.toText convert
    match relation with
    | .less => x < y
    | .atMost => x ≤ y
    | .equal => x == y
    | .unequal => x != y
    | .atLeast => y ≤ x
    | .more => y < x

/-- What can be given a value. -/
inductive Spot
  | variable (name : String)
  | entry (array : Nat) (key : String)
  | field (index : Nat)

namespace State

/-- The value at a spot. -/
def read (state : State) : Spot → Value × State
  | .variable name => (state.value name, state)
  | .entry array key =>
    let (value, table) := (state.table array).get key
    (value, state.setTable array table)
  | .field index => (state.field index, state)

/-- Gives a spot a value. -/
def put (state : State) (value : Value) : Spot → State
  | .variable name => state.assign name value
  | .entry array key => state.setTable array ((state.table array).set key value)
  | .field index => state.setField index value

end State

mutual

/-- The value of a term. -/
def evaluate (setting : Setting) (fuel : Nat) (term : Term) (state : State) : Value × State :=
  match fuel with
  | 0 => (.unset, { state with flow := .endless })
  | fuel + 1 =>
    match term with
    | .number value => (.number value, state)
    | .text value => (.text value, state)
    | .regex source =>
      let (regex, state) := state.regex source
      (.ofBool (regex.occursIn state.record), state)
    | .variable name =>
      match state.slot? name with
      | some (.array _) => (.unset, state.fail ("line 1: illegal reference to array " ++ name))
      | _ => (state.value name, state)
    | .element _ _ | .field _ =>
      let (spot, state) := spotOf setting fuel term state
      state.read spot
    | .assign operator target value =>
      let (spot, state) := spotOf setting fuel target state
      let (value, state) := evaluate setting fuel value state
      match operator with
      | none =>
        let value : Value := match value with
          | .unset => .unset
          | value => value
        (value, if state.goesOn then state.put value spot else state)
      | some operator =>
        let (before, state) := state.read spot
        let value : Value := .number (operator.apply before.toNumber value.toNumber)
        (value, if state.goesOn then state.put value spot else state)
    | .choice test yes no =>
      let (value, state) := evaluate setting fuel test state
      evaluate setting fuel (if value.isTrue then yes else no) state
    | .both first second =>
      let (value, state) := evaluate setting fuel first state
      if value.isTrue then
        let (value, state) := evaluate setting fuel second state
        (.ofBool value.isTrue, state)
      else (.ofBool false, state)
    | .either first second =>
      let (value, state) := evaluate setting fuel first state
      if value.isTrue then (.ofBool true, state)
      else
        let (value, state) := evaluate setting fuel second state
        (.ofBool value.isTrue, state)
    | .not inner =>
      let (value, state) := evaluate setting fuel inner state
      (.ofBool (!value.isTrue), state)
    | .matches isNegated subject pattern =>
      let (value, state) := evaluate setting fuel subject state
      let (regex, state) := regexOf setting fuel pattern state
      (.ofBool (regex.occursIn (value.toText state.convert) != isNegated), state)
    | .isMember subscripts array =>
      let (key, state) := keyOf setting fuel subscripts state
      let (number, state) := state.arrayOf array
      (.ofBool ((state.table number).has key), state)
    | .related relation first second =>
      let (a, state) := evaluate setting fuel first state
      let (b, state) := evaluate setting fuel second state
      (.ofBool (relation.holds state.convert a b), state)
    | .joined first second =>
      let (a, state) := evaluate setting fuel first state
      let (b, state) := evaluate setting fuel second state
      (.text (a.toText state.convert ++ b.toText state.convert), state)
    | .applied operator first second =>
      let (a, state) := evaluate setting fuel first state
      let (b, state) := evaluate setting fuel second state
      (.number (operator.apply a.toNumber b.toNumber), state)
    | .signed isNegative inner =>
      let (value, state) := evaluate setting fuel inner state
      (.number (if isNegative then -value.toNumber else value.toNumber), state)
    | .stepped isBefore isUp target =>
      let (spot, state) := spotOf setting fuel target state
      let (before, state) := state.read spot
      let x := before.toNumber
      let y := if isUp then x + 1.0 else x - 1.0
      (.number (if isBefore then y else x), state.put (.number y) spot)
    | .call name arguments => call setting fuel name arguments state
    | .builtin name arguments => builtin setting fuel name arguments state
    | .line origin source target => readLine setting fuel origin source target state

/-- The values of terms. -/
def evaluateAll (setting : Setting) (fuel : Nat) (terms : List Term) (state : State) :
    List Value × State :=
  match fuel with
  | 0 => ([], { state with flow := .endless })
  | fuel + 1 =>
    match terms with
    | [] => ([], state)
    | term :: rest =>
      let (value, state) := evaluate setting fuel term state
      let (values, state) := evaluateAll setting fuel rest state
      (value :: values, state)

/-- The text under which subscripts find an entry. -/
def keyOf (setting : Setting) (fuel : Nat) (subscripts : List Term) (state : State) :
    String × State :=
  match fuel with
  | 0 => ("", { state with flow := .endless })
  | fuel + 1 =>
    let (values, state) := evaluateAll setting fuel subscripts state
    ((state.text "SUBSEP").intercalate (values.map fun value => value.toText state.convert), state)

/-- The regular expression that a term stands for. -/
def regexOf (setting : Setting) (fuel : Nat) (term : Term) (state : State) : Regex × State :=
  match fuel with
  | 0 => (.empty, { state with flow := .endless })
  | fuel + 1 =>
    match term with
    | .regex source => state.regex source
    | term =>
      let (value, state) := evaluate setting fuel term state
      state.regex (value.toText state.convert)

/-- The spot that a term stands for. -/
def spotOf (setting : Setting) (fuel : Nat) (term : Term) (state : State) : Spot × State :=
  match fuel with
  | 0 => (.variable "", { state with flow := .endless })
  | fuel + 1 =>
    match term with
    | .variable name => (.variable name, state)
    | .element array subscripts =>
      let (key, state) := keyOf setting fuel subscripts state
      let (number, state) := state.arrayOf array
      (.entry number key, state)
    | .field index =>
      let (value, state) := evaluate setting fuel index state
      let n := Value.truncated value.toNumber
      if n < 0 then
        (.field 0, state.failAt ("negative field index $" ++ toString n))
      else (.field n.toNat, state)
    | _ => (.variable "", state)

/-- The value of a function. -/
def call (setting : Setting) (fuel : Nat) (name : String) (arguments : List Term) (state : State) :
    Value × State :=
  match fuel with
  | 0 => (.unset, { state with flow := .endless })
  | fuel + 1 =>
    match setting.functions.lookup name with
    | none => (.unset, state)
    | some function =>
      let (slots, state) := bind setting fuel arguments state
      let missing := function.parameters.length - slots.length
      let slots := slots ++ List.replicate missing (Slot.value .unset)
      let locals := state.locals
      let begun := { state with locals := function.parameters.zip slots, result := .unset }.stepped
      let after := perform setting fuel function.body begun
      let value := after.result
      let after := { after with locals, result := .unset }
      (value, if after.flow == .returned then { after with flow := .proceed } else after)

/-- What the parameters of a function stand for. A name without a value may turn out to be an
array. -/
def bind (setting : Setting) (fuel : Nat) (arguments : List Term) (state : State) :
    List Slot × State :=
  match fuel with
  | 0 => ([], { state with flow := .endless })
  | fuel + 1 =>
    match arguments with
    | [] => ([], state)
    | term :: rest =>
      let (slot, state) : Slot × State := match term with
        | .variable name =>
          match state.slot? name with
          | some (.array number) => (.array number, state)
          | some (.undecided number) => (.undecided number, state)
          | some (.value .unset) | none =>
            if name == "NF" then (.value (state.value name), state)
            else
              let number := state.nextArray
              (.undecided number,
                { state with nextArray := number + 1 }.setSlot name (.undecided number))
          | some (.value value) => (.value value, state)
        | term =>
          let (value, state) := evaluate setting fuel term state
          (.value value, state)
      let (slots, state) := bind setting fuel rest state
      (slot :: slots, state)

/-- The value of a function that every program has. -/
def builtin (setting : Setting) (fuel : Nat) (name : String) (arguments : List Term) (state : State) :
    Value × State :=
  match fuel with
  | 0 => (.unset, { state with flow := .endless })
  | fuel + 1 =>
    match name, arguments with
    | "length", [] => (.ofNat state.record.length, state)
    | "length", [.variable array] =>
      match state.slot? array with
      | some (.array number) => (.ofNat (state.table number).size, state)
      | some (.undecided number) => (.ofNat (state.table number).size, state)
      | _ => (.ofNat ((state.value array).toText state.convert).length, state)
    | "split", subject :: .variable array :: separator =>
      let (value, state) := evaluate setting fuel subject state
      let text := value.toText state.convert
      let (pieces, state) : List String × State := match separator with
        | [.regex source] =>
          let (regex, state) := state.regex source
          let characters := text.toList.toArray
          (if text.isEmpty then []
            else State.piecesBetween regex characters (characters.size + 2) 0 0, state)
        | [term] =>
          let (value, state) := evaluate setting fuel term state
          state.divided (value.toText state.convert) text
        | _ => state.divided state.fieldSeparator text
      let (number, state) := state.arrayOf array
      let table := pieces.zipIdx.foldl
        (fun (table : Table) (piece, i) => table.set (toString (i + 1)) (.ofInput piece)) {}
      (.ofNat pieces.length, state.setTable number table)
    | "sub", pattern :: replacement :: target | "gsub", pattern :: replacement :: target =>
      let (regex, state) := regexOf setting fuel pattern state
      let (value, state) := evaluate setting fuel replacement state
      let (spot, state) : Spot × State := match target with
        | term :: _ => spotOf setting fuel term state
        | [] => (.field 0, state)
      let (before, state) := state.read spot
      let text := (before.toText state.convert).toList.toArray
      let (written, count) := substituted regex (name == "gsub") (value.toText state.convert).toList
        text false (2 * text.size + 4) 0
      (.ofNat count,
        if count > 0 && state.goesOn then state.put (.text (String.ofList written)) spot else state)
    | "match", [subject, pattern] =>
      let (value, state) := evaluate setting fuel subject state
      let (regex, state) := regexOf setting fuel pattern state
      let text := (value.toText state.convert).toList.toArray
      let (start, length) : Value × Value := match regex.find? text 0 with
        | some found => (.ofNat (found.start + 1), .ofNat (found.stop - found.start))
        | none => (.ofNat 0, .number (-1.0))
      (start, (state.setGlobal "RSTART" start).setGlobal "RLENGTH" length)
    | name, arguments =>
      let (values, state) := evaluateAll setting fuel arguments state
      if !state.goesOn then (.unset, state) else applied setting name values state

/-- The value of a function of values. -/
def applied (setting : Setting) (name : String) (values : List Value) (state : State) :
    Value × State :=
  let first := values.headD .unset
  let second := values.getD 1 .unset
  let text (value : Value) : String := value.toText state.convert
  let real (use : Float → Float) : Value × State := (.number (use first.toNumber), state)
  match name with
  | "length" => (.ofNat (text first).length, state)
  | "index" => (.ofNat (placeOf (text second).toList 1 (text first).toList), state)
  | "substr" =>
    (.text (part (text first) second.toNumber ((values[2]?).map Value.toNumber)), state)
  | "sprintf" =>
    let format := text first
    match formatted state.convert format (values.drop 1) with
    | .ok written => (.text written, state)
    | .error _ =>
      (.unset, state.failAt ("not enough arguments passed to sprintf(\"" ++ format ++ "\")"))
  | "sin" => real Float.sin
  | "cos" => real Float.cos
  | "atan2" => (.number (Float.atan2 first.toNumber second.toNumber), state)
  | "exp" => real Float.exp
  | "log" => real Float.log
  | "sqrt" => real Float.sqrt
  | "int" => real fun x => if x < 0.0 then x.ceil else x.floor
  | "rand" =>
    let seed := (state.seed * 1103515245 + 12345) % 2147483648
    (.number (Float.ofNat seed / 2147483648.0), { state with seed })
  | "srand" =>
    let seed := if values.isEmpty then 1 else first.toNat
    (.ofNat state.seed, { state with seed })
  | "tolower" => (.text ((text first).map Char.toLower), state)
  | "toupper" => (.text ((text first).map Char.toUpper), state)
  | "systime" =>
    (.number (Float.ofInt (epoch + (state.run.machine.clock / 1000 : Nat))), state)
  | "strftime" =>
    let now := epoch + (state.run.machine.clock / 1000 : Nat)
    let seconds := if values.length < 2 then now else Value.truncated second.toNumber
    let format := if values.isEmpty then "%c" else text first
    (.text ((Moment.of seconds 0 0).render format), state)
  | "system" =>
    let state := state.flush
    let (outcome, run) := carryOut setting.launch "sh" ["-c", text first] state.run
    (.ofNat (match outcome with
      | .exited status => status
      | .killed signal => 256 + signal
      | .refused _ => 127), state.withRun run)
  | "close" =>
    let name := text first
    if (state.pipes.lookup name).isSome then
      let (status, state) := state.closePipe setting.launch name
      (.ofNat status, state)
    else if state.files.contains name then
      (.ofNat 0, { state with files := state.files.filter (· != name) })
    else if (state.inputs.lookup name).isSome then
      (.ofNat 0, { state with inputs := state.inputs.filter fun (n, _) => n != name })
    else (.number (-1.0), state)
  | "fflush" => (.ofNat 0, state.flush)
  | _ => (.unset, state)

/-- Reads a line: one if there was one, zero at the end, and minus one for a fault. -/
def readLine (setting : Setting) (fuel : Nat) (origin : LineOrigin) (source target : Option Term)
    (state : State) : Value × State :=
  match fuel with
  | 0 => (.unset, { state with flow := .endless })
  | fuel + 1 =>
    let (name, state) : String × State := match source with
      | some term =>
        let (value, state) := evaluate setting fuel term state
        (value.toText state.convert, state)
      | none => ("", state)
    let (spot, state) : Spot × State := match target with
      | some term => spotOf setting fuel term state
      | none => (.field 0, state)
    if !state.goesOn then (.unset, state)
    else
      match origin with
      | .records =>
        match State.nextRecord state.operandRoom state with
        | (some record, state) => (.ofNat 1, state.put (.ofInput record) spot)
        | (none, state) => (.ofNat 0, state)
      | .file | .command =>
        let (count, line, state) := state.lineFrom setting.launch (origin == .command) name
        if count = 1 then (.ofNat 1, state.put (.ofInput line) spot)
        else (.number (if count = 0 then 0.0 else -1.0), state)

/-- Carries out a statement. -/
def perform (setting : Setting) (fuel : Nat) (action : Action) (state : State) : State :=
  match fuel with
  | 0 => { state with flow := .endless }
  | fuel + 1 =>
    if !state.goesOn then state
    else
      match action with
      | .value term => (evaluate setting fuel term state).2
      | .print terms goal =>
        let (values, state) := evaluateAll setting fuel terms state
        let format := state.text "OFMT"
        let line := if terms.isEmpty then state.record
          else (state.text "OFS").intercalate (values.map fun value => value.toText format)
        write setting fuel goal (line ++ state.text "ORS") state
      | .format terms goal =>
        let (values, state) := evaluateAll setting fuel terms state
        let format := (values.headD .unset).toText state.convert
        match formatted state.convert format (values.drop 1) with
        | .ok text => write setting fuel goal text state
        | .error text =>
          let state := write setting fuel goal text state
          if state.goesOn then
            state.failAt ("not enough arguments passed to printf(\"" ++ format ++ "\")")
          else state
      | .conditional test yes no =>
        let (value, state) := evaluate setting fuel test state
        perform setting fuel (if value.isTrue then yes else no) state
      | .loop test body => loop setting fuel (some test) (.block []) body state
      | .doLoop body test =>
        let state := (perform setting fuel body state)
        if state.flow == .breakOut then { state with flow := .proceed }
        else
          let state := if state.flow == .goOn then { state with flow := .proceed } else state
          if state.goesOn then loop setting fuel (some test) (.block []) body state else state
      | .counted start test step body =>
        loop setting fuel test step body (perform setting fuel start state)
      | .each name array body =>
        let (number, state) := state.arrayOf array
        each setting fuel name number (state.table number).keys body state
      | .block actions => performAll setting fuel actions state
      | .next => { state with flow := .next }
      | .nextFile => { state with flow := .nextFile }
      | .leave status =>
        match status with
        | none => { state with flow := .leaving }
        | some term =>
          let (value, state) := evaluate setting fuel term state
          if state.goesOn then
            let status := ((Value.truncated value.toNumber).emod 256).toNat
            { state with flow := .leaving, status }
          else state
      | .give term =>
        match term with
        | none => { state with flow := .returned, result := .unset }
        | some term =>
          let (value, state) := evaluate setting fuel term state
          if state.goesOn then { state with flow := .returned, result := value } else state
      | .breakOut => { state with flow := .breakOut }
      | .goOn => { state with flow := .goOn }
      | .delete array subscripts =>
        match subscripts with
        | none =>
          let (number, state) := state.arrayOf array
          state.setTable number {}
        | some terms =>
          let (key, state) := keyOf setting fuel terms state
          let (number, state) := state.arrayOf array
          state.setTable number ((state.table number).erase key)

/-- Carries out statements. -/
def performAll (setting : Setting) (fuel : Nat) (actions : List Action) (state : State) : State :=
  match fuel with
  | 0 => { state with flow := .endless }
  | fuel + 1 =>
    match actions with
    | [] => state
    | action :: rest =>
      let state := perform setting fuel action state
      if state.goesOn then performAll setting fuel rest state else state

/-- Goes through the rounds of a loop. -/
def loop (setting : Setting) (fuel : Nat) (test : Option Term) (step body : Action) (state : State) :
    State :=
  match fuel with
  | 0 => { state with flow := .endless }
  | fuel + 1 =>
    let state := state.stepped
    let (goes, state) : Bool × State := match test with
      | none => (true, state)
      | some test =>
        let (value, state) := evaluate setting fuel test state
        (value.isTrue, state)
    if !goes || !state.goesOn then state
    else
      let state := perform setting fuel body state
      if state.flow == .breakOut then { state with flow := .proceed }
      else
        let state := if state.flow == .goOn then { state with flow := .proceed } else state
        if state.goesOn then
          loop setting fuel test step body (perform setting fuel step state)
        else state

/-- Goes through the entries of an array. -/
def each (setting : Setting) (fuel : Nat) (name : String) (number : Nat) (keys : List String)
    (body : Action) (state : State) : State :=
  match fuel with
  | 0 => { state with flow := .endless }
  | fuel + 1 =>
    match keys with
    | [] => state
    | key :: rest =>
      let state := perform setting fuel body (state.assign name (.ofInput key))
      if state.flow == .breakOut then { state with flow := .proceed }
      else
        let state := if state.flow == .goOn then { state with flow := .proceed } else state
        if state.goesOn then each setting fuel name number rest body state else state

/-- Writes where the output of a statement goes. -/
def write (setting : Setting) (fuel : Nat) (goal : Option (Goal × Term)) (text : String)
    (state : State) : State :=
  match fuel with
  | 0 => { state with flow := .endless }
  | fuel + 1 =>
    if !state.goesOn then state
    else
      match goal with
      | none => state.print text
      | some (goal, term) =>
        let (value, state) := evaluate setting fuel term state
        let name := value.toText state.convert
        if !state.goesOn then state
        else
          match goal with
          | .file appends => state.writeFile appends name text
          | .command => state.writePipe name text

end

/-! ## Programs -/

/-- How deep terms and statements may stand in one another. -/
def depth : Nat := 2100000

/-- Carries out the rules that apply to the record at hand. -/
def applyRules (setting : Setting) : List (Rule × Nat) → State → State
  | [], state => state
  | (rule, number) :: rest, state =>
    let (applies, state) : Bool × State := match rule.pattern with
      | .atStart | .atEnd => (false, state)
      | .always => (true, state)
      | .where test =>
        let (value, state) := evaluate setting depth test state
        (value.isTrue, state)
      | .between first last =>
        let isOpen := state.ranges.contains number
        let (begins, state) : Bool × State :=
          if isOpen then (true, state)
          else
            let (value, state) := evaluate setting depth first state
            (value.isTrue, state)
        if !begins then (false, state)
        else
          let (value, state) := evaluate setting depth last state
          let others := state.ranges.filter (· != number)
          (true, { state with ranges := if value.isTrue then others else number :: others })
    let state := if applies && state.goesOn then perform setting depth rule.action state else state
    if state.goesOn then applyRules setting rest state else state

/-- Goes through the records of the input. -/
def scan (setting : Setting) (rules : List (Rule × Nat)) : (fuel : Nat) → State → State
  | 0, state => { state with flow := .endless }
  | fuel + 1, state =>
    match State.nextRecord state.operandRoom state with
    | (none, state) => state
    | (some record, state) =>
      let state := applyRules setting rules (state.setRecord record)
      match state.flow with
      | .proceed => scan setting rules fuel state
      | .next => scan setting rules fuel { state with flow := .proceed }
      | .nextFile => scan setting rules fuel { state with flow := .proceed, current := none }
      | _ => state

/-- Carries out the rules for the start or the end. -/
def performRules (setting : Setting) (rules : List Rule) (state : State) : State :=
  rules.foldl (fun state rule => perform setting depth rule.action state) state

/-- Closes what is open, and prints what is left to print. -/
def State.closed (launch : Launcher) (state : State) : State :=
  let state := state.pipes.foldl (fun state (command, _) => (state.closePipe launch command).2) state
  state.flush

/-- Carries out a program. -/
def Program.perform (program : Program) (launch : Launcher) (state : State) : State :=
  let setting : Setting := { launch, functions := program.functions }
  let rulesFor (isWanted : Pattern → Bool) : List Rule :=
    program.rules.filter fun rule => isWanted rule.pattern
  let starts := rulesFor fun pattern => match pattern with
    | .atStart => true
    | _ => false
  let ends := rulesFor fun pattern => match pattern with
    | .atEnd => true
    | _ => false
  let state := performRules setting starts state
  let state := if state.goesOn && !program.onlyStarts then
      scan setting program.rules.zipIdx state.steps state
    else state
  let state := if state.goesOn || state.flow == .leaving then
      performRules setting ends { state with flow := .proceed }
    else state
  state.closed launch

end RunMeter.Shell.Scan
