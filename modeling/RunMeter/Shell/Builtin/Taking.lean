import RunMeter.Shell.Builtin.Declaring

/-!
# Reading in the extended dialect

Commands that take lines, or parts of them, from an input into variables and lists.
-/

set_option autoImplicit false

namespace RunMeter.Shell.Builtin

/-- The characters of an input up to its first end mark, at most so many of them, with whether a
backslash protects them; whether the input went on until then; and what follows. -/
def portion (isRaw : Bool) (stop : Option Char) (count : Nat) (text : List Char) :
    List (Char × Bool) × Bool × List Char :=
  match count, text with
  | 0, rest => ([], true, rest)
  | _, [] => ([], false, [])
  | count + 1, c :: rest =>
    if some c == stop then ([], true, rest)
    else if c == '\\' && !isRaw then
      match rest with
      | [] => ([], false, [])
      | '\n' :: rest => portion isRaw stop (count + 1) rest
      | d :: rest =>
        let (more, isWhole, after) := portion isRaw stop count rest
        ((d, true) :: more, isWhole, after)
    else
      let (more, isWhole, after) := portion isRaw stop count rest
      ((c, false) :: more, isWhole, after)
termination_by text.length

/-- The milliseconds that a text in seconds stands for. -/
def milliseconds? (text : String) : Option Nat :=
  let whole := text.toList.takeWhile Char.isDigit
  let isDecimal (digits : List Char) : Bool := digits.all Char.isDigit
  match text.toList.drop whole.length with
  | [] => if whole.isEmpty then none else some (Decimal.value whole * 1000)
  | '.' :: digits =>
    if isDecimal digits then
      some (Decimal.value whole * 1000 + Decimal.value ((digits ++ ['0', '0', '0']).take 3))
    else none
  | _ => none

/-- Gives variables values, as long as that works. -/
def assignTexts (run : Run) : List (String × String) → Run
  | [] => run
  | (name, value) :: rest =>
    if !isName (Run.splitSubscript name).1 then
      run.failing 1 ("\x60" ++ name ++ "': not a valid identifier")
    else
      match run.putText name false value with
      | .error text => plainly (fun run => run.failing 1 text) run
      | .ok run => assignTexts run rest

/-- The text that explains how lines are read. -/
def readUsage : String :=
  "[-ers] [-a array] [-d delim] [-i text] [-n nchars] [-N nchars] [-p prompt] [-t timeout] " ++
  "[-u fd] [name ...]"

/-- Reads a line, or a part of one, into variables. -/
def readWords (args : List String) (run : Run) : Run :=
  withUsage "a:d:ei:n:N:p:rst:u:" readUsage args run fun given names run =>
    let value (letter : Char) : Option String := given.reverse.lookup letter
    let descriptor := ((value 'u').bind String.toNat?).getD 0
    let count? := ((value 'N').orElse fun _ => value 'n').bind String.toNat?
    let isExact := isGiven given 'N'
    let stop : Option Char :=
      if isExact then none
      else
        match value 'd' with
        | none => some '\n'
        | some text => some (text.toList.headD (Char.ofNat 0))
    match (value 'n').orElse (fun _ => value 'N'), count? with
    | some text, none => run.failing 1 (text ++ ": invalid number")
    | _, _ =>
      match run.readFault? descriptor, value 't' with
      | some _, some "0" => run.ended 0
      | some fault, _ =>
        if descriptor = 0 then run.ended 1
        else
          run.failing 1 (toString descriptor ++ ": invalid file descriptor: " ++ Tool.faultText fault)
      | none, some "0" => run.ended 0
      | none, timeout =>
        let source := run.ahead descriptor
        let limit := (timeout.bind milliseconds?).map (run.machine.clock + ·)
        if limit.any (· < source.closesAt) then (run.waitUntil (limit.getD 0)).ended 142
        else
          let (line, isWhole, rest) :=
            portion (isGiven given 'r') stop (count?.getD (source.rest.length + 1)) source.rest
          let run := run.leave descriptor rest
          if !run.goesOn then run
          else
            let isWhole := isWhole || count? == some line.length
            let line := line.filter fun (c, _) => c != Char.ofNat 0
            let whole := String.ofList (line.map (·.1))
            let separators := ((run.process.value? "IFS").getD " \t\n").toList
            let run := run.ended 0
            let run : Run := match value 'a', names with
              | some name, _ =>
                let pieces := line.map fun (c, isProtected) => Piece.mark c isProtected (!isProtected)
                let texts := (Piece.split separators pieces).map Field.text
                match run.putList name false (texts.map (none, ·)) with
                | .error text => run.failing 1 text
                | .ok run => run
              | none, [] => assignTexts run [("REPLY", whole)]
              | none, first :: others =>
                if isExact then assignTexts run ((first, whole) :: others.map (·, ""))
                else
                  let values := (fields separators names.length line).map fun field =>
                    String.ofList (field.map (·.1))
                  assignTexts run (names.zip values)
            if run.process.status = 0 then run.ended (if isWhole then 0 else 1) else run

/-- The pieces of a text up to each end mark, with the marks. -/
def markedPieces (stop : Char) (text : String) : List String :=
  let pieces := text.splitOn (String.ofList [stop])
  let last := pieces.getLast?.getD ""
  pieces.dropLast.map (·.push stop) ++ if last.isEmpty then [] else [last]

/-- Reads all lines into a list. -/
def mapLines (args : List String) (run : Run) : Run :=
  let usage := "[-d delim] [-n count] [-O origin] [-s count] [-t] [-u fd] [-C callback] [-c quantum] " ++
    "[array]"
  withUsage "c:C:d:n:O:s:tu:" usage args run fun given names run =>
    let value (letter : Char) : Option String := given.reverse.lookup letter
    let number (letter : Char) : Nat := ((value letter).bind String.toNat?).getD 0
    let name := names.headD "MAPFILE"
    let stop := match value 'd' with
      | none => '\n'
      | some text => text.toList.headD (Char.ofNat 0)
    if !isName name then run.failing 1 ("\x60" ++ name ++ "': not a valid identifier")
    else
      let (text, run) := run.readAll (number 'u')
      let lines := (markedPieces stop text).drop (number 's')
      let lines := if number 'n' = 0 then lines else lines.take (number 'n')
      let lines := if isGiven given 't' then
          lines.map fun line => if line.endsWith (String.ofList [stop]) then (line.dropEnd 1).toString else line
        else lines
      if !run.goesOn then run
      else
        let items := lines.mapIdx fun i line => (some (toString (number 'O' + i)), line)
        match run.putList name (isGiven given 'O') items with
        | .error text => run.failing 1 text
        | .ok run => run.ended 0

end RunMeter.Shell.Builtin
