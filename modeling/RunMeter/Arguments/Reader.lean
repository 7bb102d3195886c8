import RunMeter.Arguments.Grammar

/-!
# Reading command-line arguments

The reader goes through the words of one level. A flag that needs a value stays pending until the
value is there and the next flag or word shows that it is complete; only then is it checked. So of
two faults the one that is completed first is reported. When a word names a level below, that level
reads the rest, and its faults come before what is still pending above.
-/

set_option autoImplicit false

namespace RunMeter

/-- A flag whose value is not yet checked, and the value once it is there. -/
structure PendingFlag where
  flag : Flag
  kind : ValueKind
  value : Option String
deriving Repr

/-- What has been read at one level. -/
structure LevelReading where
  /-- The flags in the order in which they were completed; one that is on has no value. -/
  given : List (String × Option FlagValue) := []
  pending : Option PendingFlag := none
  /-- The path or the command. -/
  words : List String := []
  /-- Whether everything that follows is a word. -/
  wordsOnly : Bool := false
  /-- The level below that was named, and the arguments left for it. -/
  below : Option (String × List String) := none
deriving Repr

namespace LevelReading

/-- Enters a complete flag, which may be given once. -/
def enter (reading : LevelReading) (name : String) (value : Option FlagValue) :
    Except UsageFault LevelReading :=
  .ok { reading with given := reading.given ++ [(name, value)] }

/-- Whether a flag was completed before. -/
def has (reading : LevelReading) (name : String) : Bool :=
  reading.given.any fun (given, _) => given == name

/-- Completes the value of a flag: it must be there, must be the first one, and must be of its
kind. -/
def complete (reading : LevelReading) (flag : Flag) (kind : ValueKind) (value : Option String) :
    Except UsageFault LevelReading := do
  match value with
  | none => .error .invalidValue
  | some text =>
    if reading.has flag.name then .error .repeatedArgument
    else
      let value ← kind.read text
      reading.enter flag.name (some value)

/-- Completes the pending flag, if there is one. -/
def settle (reading : LevelReading) : Except UsageFault LevelReading :=
  match reading.pending with
  | none => .ok reading
  | some pending =>
    { reading with pending := none }.complete pending.flag pending.kind pending.value

/-- Whether the next word is the value of the pending flag. -/
def expectsValue (reading : LevelReading) : Bool :=
  reading.pending.any fun pending => pending.value.isNone

/-- Whether the next word is the value of the pending flag even if it looks like a flag. -/
def takesAnything (reading : LevelReading) : Bool :=
  reading.pending.any fun pending =>
    pending.value.isNone &&
      match pending.flag.effect with
      | .value _ takesHyphens => takesHyphens
      | _ => false

/-- Takes a flag that has no value of its own. -/
def plain (reading : LevelReading) (flag : Flag) : Except UsageFault LevelReading := do
  let reading ← reading.settle
  match flag.effect with
  | .help => .error .helpAsked
  | .version => .error .versionAsked
  | _ => if reading.has flag.name then .error .repeatedArgument else reading.enter flag.name none

/-- Takes a flag by its long name, with the value after an equals sign if there is one. -/
def long (reading : LevelReading) (flag : Flag) (attached : Option String) :
    Except UsageFault LevelReading := do
  match flag.effect, attached with
  | .value kind _, some text => do
    let reading ← reading.settle
    reading.complete flag kind (some text)
  | .value kind _, none => do
    let reading ← reading.settle
    .ok { reading with pending := some { flag, kind, value := none } }
  | _, some _ => .error .tooManyValues
  | _, none => reading.plain flag

/-- Takes flags by their short names. -/
def shorts (grammar : Grammar) (reading : LevelReading) : List Char →
    Except UsageFault LevelReading
  | [] => .ok reading
  | c :: rest => do
    match grammar.shortFlag? c with
    | none => .error .unknownArgument
    | some flag =>
      match flag.effect, rest with
      | .value _ _, [] => reading.long flag none
      | .value _ _, '=' :: value => reading.long flag (some (String.ofList value))
      | .value _ _, value => reading.long flag (some (String.ofList value))
      | _, _ =>
        let reading ← reading.plain flag
        reading.shorts grammar rest

/-- The path of a level is completed like the value of a flag, one without a name. -/
def pathFlag : Flag := { name := "", effect := .value .path false }

/-- Takes a word that is no flag. -/
def word (grammar : Grammar) (reading : LevelReading) (text : String) :
    Except UsageFault LevelReading :=
  match grammar.positional with
  | .command => do
    let reading ← reading.settle
    .ok { reading with words := reading.words ++ [text], wordsOnly := true }
  | .path =>
    if reading.words.isEmpty then do
      let reading ← reading.settle
      .ok
        { reading with
          words := [text]
          pending := some { flag := pathFlag, kind := .path, value := some text } }
    else .error .unknownArgument
  | .nothing =>
    if grammar.sublevels.isEmpty then .error .unknownArgument
    else if reading.wordsOnly && (text == "help" || grammar.sublevels.any fun (name, _) => name == text) then
      .error .unknownArgument
    else .error .invalidSubcommand

/-- Takes a word as the value of the pending flag, or as a word of the level. -/
def valueOrWord (grammar : Grammar) (reading : LevelReading) (text : String) :
    Except UsageFault LevelReading :=
  match reading.pending with
  | some { flag, kind, value := none } =>
    .ok { reading with pending := some { flag, kind, value := some text } }
  | _ => reading.word grammar text

/-- The name and the attached value of a word that begins with two hyphens. -/
def splitLong (text : List Char) : String × Option String :=
  let name := String.ofList (text.takeWhile (· != '='))
  match text.dropWhile (· != '=') with
  | '=' :: value => (name, some (String.ofList value))
  | _ => (name, none)

/-- Takes one word while flags are still possible. -/
def take (grammar : Grammar) (reading : LevelReading) (text : String) :
    Except UsageFault LevelReading :=
  if reading.takesAnything then reading.valueOrWord grammar text
  else
    match text.toList with
    | ['-', '-'] => .ok { reading with wordsOnly := true }
    | '-' :: '-' :: body =>
      let (name, attached) := splitLong body
      match grammar.flag? name with
      | some flag => reading.long flag attached
      | none =>
        if grammar.positional = .command then reading.valueOrWord grammar text
        else .error .unknownArgument
    | '-' :: c :: rest =>
      let isForeign := (c :: rest).any fun c => (grammar.shortFlag? c).isNone
      if grammar.positional = .command && isForeign then reading.valueOrWord grammar text
      else reading.shorts grammar (c :: rest)
    | _ => reading.valueOrWord grammar text

end LevelReading

namespace Grammar

/-- Finds the level that help is asked for. -/
def help (grammar : Grammar) : List String → UsageFault
  | [] => .helpAsked
  | name :: rest =>
    match grammar.sublevels.lookup name with
    | some inner => inner.help rest
    | none =>
      if name = "help" ∧ !grammar.sublevels.isEmpty ∧ rest.isEmpty then .helpAsked
      else .invalidSubcommand

/-- Reads the words of one level, up to a word that names a level below. -/
def readLevel (grammar : Grammar) (reading : LevelReading) : List String →
    Except UsageFault LevelReading
  | [] => .ok reading
  | text :: rest =>
    if reading.wordsOnly then do
      let reading ← reading.word grammar text
      grammar.readLevel reading rest
    else if !reading.expectsValue && !grammar.sublevels.isEmpty && text == "help" then
      .error (grammar.help rest)
    else if !reading.expectsValue && grammar.sublevels.any fun (name, _) => name == text then
      .ok { reading with below := some (text, rest) }
    else do
      let reading ← reading.take grammar text
      grammar.readLevel reading rest

/-- Checks that a level has what it needs. -/
def checkLevel (grammar : Grammar) (reading : LevelReading) : Except UsageFault Unit :=
  if !grammar.sublevels.isEmpty then
    if reading.below.isSome then .ok ()
    else if reading.given.isEmpty then .error .nothingGiven
    else .error .missingSubcommand
  else if reading.words.isEmpty then .error .missingArgument
  else .ok ()

/-- Reads a level and the levels below it, at most `depth` of them. The outermost comes first. -/
def read : (depth : Nat) → Grammar → List String → Except UsageFault (List LevelReading)
  | 0, _, _ => .error .unknownArgument
  | depth + 1, grammar, args => do
    let reading ← grammar.readLevel {} args
    let inner ← match reading.below with
      | none => .ok []
      | some (name, rest) =>
        match grammar.sublevels.lookup name with
        | some next => next.read depth rest
        | none => .error .invalidSubcommand
    let reading ← reading.settle
    grammar.checkLevel reading
    .ok (reading :: inner)

end Grammar

end RunMeter
