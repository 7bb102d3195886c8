/-!
# Options of tools

How the arguments of a tool divide into options and operands. Short options are single letters behind
one hyphen, several of which may stand together; long ones stand behind two hyphens and may be cut
short as long as only one is meant. A value follows in the same argument or is the next one. Options
may stand behind operands, unless the tool wants its operands to end them.
-/

set_option autoImplicit false

namespace RunMeter.Shell.Tool

/-- Whether an option has a value. -/
inductive Valuation
  | nothing
  | required
  /-- It has one only if that stands in the same argument. -/
  | optional
deriving DecidableEq, Repr

/-- The options that a tool knows. Long ones are known by the letter that they share with a short one,
or by one of their own. -/
structure OptionTable where
  /-- The letters, each followed by one colon if it has a value and by two if it may have one. -/
  short : String
  long : List (String × Valuation × Char) := []
  /-- Whether the first operand ends the options. -/
  stopsEarly : Bool := false
deriving Repr

/-- What is wrong with the options. -/
inductive OptionFault
  | unknownLetter (letter : Char)
  | missingForLetter (letter : Char)
  | unknownName (text : String)
  | ambiguousName (text : String) (names : List String)
  | missingForName (name : String)
  | unwantedForName (name : String)
deriving DecidableEq, Repr

/-- The wording of a fault. -/
def OptionFault.message : OptionFault → String
  | .unknownLetter letter => "invalid option -- '" ++ String.ofList [letter] ++ "'"
  | .missingForLetter letter => "option requires an argument -- '" ++ String.ofList [letter] ++ "'"
  | .unknownName text => "unrecognized option '--" ++ text ++ "'"
  | .ambiguousName text names =>
    "option '--" ++ text ++ "' is ambiguous; possibilities:" ++
      String.join (names.map fun name => " '--" ++ name ++ "'")
  | .missingForName name => "option '--" ++ name ++ "' requires an argument"
  | .unwantedForName name => "option '--" ++ name ++ "' doesn't allow an argument"

/-- The options that were given, in order, and the operands. -/
structure Given where
  options : List (Char × Option String) := []
  operands : List String := []
deriving DecidableEq, Repr

namespace Given

/-- Whether an option was given. -/
def has (given : Given) (letter : Char) : Bool := given.options.any fun (l, _) => l == letter

/-- Whether one of some options was given. -/
def hasAny (given : Given) (letters : List Char) : Bool := letters.any given.has

/-- The values of an option, in order. -/
def values (given : Given) (letter : Char) : List String :=
  given.options.filterMap fun (l, value) => if l == letter then value else none

/-- The value of an option. The last one counts. -/
def value? (given : Given) (letter : Char) : Option String := (given.values letter).getLast?

/-- The last of some options that was given. -/
def last? (given : Given) (letters : List Char) : Option Char :=
  (given.options.filterMap fun (l, _) => if letters.contains l then some l else none).getLast?

end Given

namespace OptionTable

/-- Whether a letter is an option, and whether that has a value. -/
def valuation? (table : OptionTable) (letter : Char) : Option Valuation :=
  match table.short.toList.dropWhile (· != letter) with
  | _ :: ':' :: ':' :: _ => some .optional
  | _ :: ':' :: _ => some .required
  | _ :: _ => if letter == ':' then none else some .nothing
  | [] => none

/-- Takes the letters of one argument. The next argument may be a value. -/
def letters (table : OptionTable) (next : Option String) :
    List Char → Except OptionFault (List (Char × Option String) × Bool)
  | [] => .ok ([], false)
  | letter :: rest =>
    match table.valuation? letter with
    | none => .error (.unknownLetter letter)
    | some .nothing => do
      let (more, takesNext) ← table.letters next rest
      .ok ((letter, none) :: more, takesNext)
    | some .optional =>
      .ok ([(letter, if rest.isEmpty then none else some (String.ofList rest))], false)
    | some .required =>
      if !rest.isEmpty then .ok ([(letter, some (String.ofList rest))], false)
      else
        match next with
        | some value => .ok ([(letter, some value)], true)
        | none => .error (.missingForLetter letter)

/-- The long option that a text means. -/
def name? (table : OptionTable) (text : String) :
    Except OptionFault (String × Valuation × Char) :=
  match table.long.find? fun (name, _, _) => name == text with
  | some entry => .ok entry
  | none =>
    match table.long.filter fun (name, _, _) => name.startsWith text with
    | [] => .error (.unknownName text)
    | entry :: others =>
      if others.all fun (_, _, letter) => letter == entry.2.2 then .ok entry
      else .error (.ambiguousName text ((entry :: others).map (·.1)))

/-- Takes one long option. The next argument may be its value. -/
def named (table : OptionTable) (next : Option String) (text : List Char) :
    Except OptionFault ((Char × Option String) × Bool) := do
  let name := String.ofList (text.takeWhile (· != '='))
  let attached : Option String := match text.dropWhile (· != '=') with
    | '=' :: value => some (String.ofList value)
    | _ => none
  let (whole, valuation, letter) ←
    match table.name? name with
    | .ok entry => pure entry
    | .error (.unknownName _) => .error (.unknownName (String.ofList text))
    | .error fault => .error fault
  match valuation, attached, next with
  | .nothing, some _, _ => .error (.unwantedForName whole)
  | .required, none, some value => .ok ((letter, some value), true)
  | .required, none, none => .error (.missingForName whole)
  | _, attached, _ => .ok ((letter, attached), false)

/-- Divides arguments into options and operands. -/
def read (table : OptionTable) : List String → Except OptionFault Given
  | [] => .ok {}
  | "--" :: rest => .ok { operands := rest }
  | arg :: rest =>
    let continued (skips : Bool) : Except OptionFault Given :=
      match skips, rest with
      | true, _ :: rest => table.read rest
      | _, rest => table.read rest
    match arg.toList with
    | '-' :: '-' :: text => do
      let (option, skips) ← table.named rest.head? text
      let given ← continued skips
      .ok { given with options := option :: given.options }
    | '-' :: letter :: more => do
      let (options, skips) ← table.letters rest.head? (letter :: more)
      let given ← continued skips
      .ok { given with options := options ++ given.options }
    | _ =>
      if table.stopsEarly then .ok { operands := arg :: rest }
      else do
        let given ← table.read rest
        .ok { given with operands := arg :: given.operands }

end OptionTable

end RunMeter.Shell.Tool
