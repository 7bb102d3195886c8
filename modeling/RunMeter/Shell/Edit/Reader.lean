import RunMeter.Shell.Edit.Script
import RunMeter.Shell.Regex.Reader

/-!
# Reading edit scripts

A script is read command by command. A fault carries what was left to be read, from which the place
of the fault follows.
-/

set_option autoImplicit false

namespace RunMeter.Shell.Edit

/-- Why a script cannot be read. -/
inductive ScriptFault
  | missingCommand
  | unknownCommand (c : Char)
  | unterminated (command : Char)
  | unterminatedAddress
  | unexpectedComma
  | badFirstAddress
  | badLineZero
  | manyNegations
  | unwantedAddress (command : Char)
  | singleAddress
  | unexpectedClose
  | unmatchedOpen
  | junk
  | missingText
  | missingLabel
  | missingFileName
  | unknownOption
  | manyPrints
  | manyGlobals
  | manyNumbers
  | zeroNumber
  | differentLengths
  | badReference (number : Nat)
  | modifiedEmpty
  | noRegex
  | regex (fault : RegexFault)
  /-- A jump to a label that is nowhere. -/
  | unknownLabel (label : String)
deriving DecidableEq, Repr

/-- The wording of a fault. -/
def ScriptFault.message : ScriptFault → String
  | .missingCommand => "missing command"
  | .unknownCommand c => "unknown command: \x60" ++ String.ofList [c] ++ "'"
  | .unterminated command => "unterminated \x60" ++ String.ofList [command] ++ "' command"
  | .unterminatedAddress => "unterminated address regex"
  | .unexpectedComma => "unexpected \x60,'"
  | .badFirstAddress => "invalid usage of +N or ~N as first address"
  | .badLineZero => "invalid usage of line address 0"
  | .manyNegations => "multiple \x60!'s"
  | .unwantedAddress '#' => "comments don't accept any addresses"
  | .unwantedAddress c => String.ofList [c] ++ " doesn't want any addresses"
  | .singleAddress => "command only uses one address"
  | .unexpectedClose => "unexpected \x60\x7d'"
  | .unmatchedOpen => "unmatched \x60\x7b'"
  | .junk => "extra characters after command"
  | .missingText => "expected \\ after \x60a', \x60c' or \x60i'"
  | .missingLabel => "\":\" lacks a label"
  | .missingFileName => "missing filename in r/R/w/W commands"
  | .unknownOption => "unknown option to \x60s'"
  | .manyPrints => "multiple \x60p' options to \x60s' command"
  | .manyGlobals => "multiple \x60g' options to \x60s' command"
  | .manyNumbers => "multiple number options to \x60s' command"
  | .zeroNumber => "number option to \x60s' command may not be zero"
  | .differentLengths => "strings for \x60y' command are different lengths"
  | .badReference number =>
    "invalid reference \\" ++ toString number ++ " on \x60s' command's RHS"
  | .modifiedEmpty => "cannot specify modifiers on empty regexp"
  | .noRegex => "no previous regular expression"
  | .regex fault => fault.message
  | .unknownLabel label => "can't find label for jump to \x60" ++ label ++ "'"

/-- Reading uses up a text, or fails with what was left of it. -/
abbrev Reading := StateT (List Char) (Except (List Char × ScriptFault))

/-- How expressions are written in a script. -/
structure Manner where
  isExtended : Bool := false

namespace Reading

/-- Fails here. -/
def fault {α : Type} (cause : ScriptFault) : Reading α := fun rest => .error (rest, cause)

/-- Takes a character. -/
def next : Reading (Option Char) := fun rest =>
  match rest with
  | [] => .ok (none, [])
  | c :: rest => .ok (some c, rest)

/-- The character ahead. -/
def ahead : Reading (Option Char) := fun rest => .ok (rest.head?, rest)

/-- Skips blanks. -/
def skipBlanks : Reading Unit := modify (·.dropWhile fun c => c == ' ' || c == '\t')

/-- Takes a number. -/
def number : Reading Nat := do
  let digits := (← get).takeWhile Char.isDigit
  modify (·.drop digits.length)
  pure (digits.foldl (fun n c => n * 10 + (c.toNat - 48)) 0)

/-- Takes what ends a command. -/
def commandEnd : Reading Unit := do
  skipBlanks
  match ← ahead with
  | none => pure ()
  | some c =>
    if c == '\x7d' || c == '#' then pure ()
    else do
      let _ ← next
      if c == '\n' || c == ';' then pure () else fault .junk

/-- The members of a bracket expression up to its end, in reverse, and what is left from there on.
`inClass` is the mark of a class within it that has not ended. -/
def bracket (done : List Char) (inClass : Option Char) : List Char → List Char × List Char
  | [] => (done, [])
  | '\n' :: rest => (done, '\n' :: rest)
  | '[' :: c :: rest =>
    if inClass.isNone && (c == '.' || c == ':' || c == '=') then
      bracket (c :: '[' :: done) (some c) rest
    else bracket ('[' :: done) inClass (c :: rest)
  | c :: rest =>
    match inClass, rest with
    | some mark, ']' :: more =>
      if c == mark then bracket (']' :: c :: done) none more else bracket (c :: done) inClass (']' :: more)
    | some _, rest => bracket (c :: done) inClass rest
    | none, rest => if c == ']' then (done, c :: rest) else bracket (c :: done) none rest
termination_by text => text.length

/-- Text up to a delimiter, which a backslash protects; `none` if there is no delimiter. In an
expression a line end can be written with a backslash, and brackets protect the delimiter too.
`fuel` is more than the length of the text. -/
def delimitedWithin (delimiter : Char) (isRegex : Bool) : (fuel : Nat) → (done : List Char) →
    List Char → Option (List Char) × List Char
  | 0, _, rest => (none, rest)
  | _, _, [] => (none, [])
  | fuel + 1, done, c :: rest =>
    if c == delimiter then (some done.reverse, rest)
    else if c == '\n' && isRegex then (none, c :: rest)
    else if c == '\n' then (none, c :: rest)
    else if c == '\\' then
      match rest with
      | [] => (none, [])
      | d :: rest =>
        if d == 'n' && isRegex && delimiter != 'n' then
          delimitedWithin delimiter isRegex fuel ('\n' :: done) rest
        else if d == '\n' then delimitedWithin delimiter isRegex fuel (d :: '\\' :: done) rest
        else if d == delimiter && (isRegex || d != '&') then
          delimitedWithin delimiter isRegex fuel (d :: done) rest
        else delimitedWithin delimiter isRegex fuel (d :: '\\' :: done) rest
    else if c == '[' && isRegex then
      let (lead, body) := match rest with
        | '^' :: ']' :: more => ([']', '^'], more)
        | '^' :: more => (['^'], more)
        | ']' :: more => ([']'], more)
        | more => ([], more)
      let (done, rest) := bracket (lead ++ '[' :: done) none body
      match rest with
      | ']' :: rest => delimitedWithin delimiter isRegex fuel (']' :: done) rest
      | rest => (none, rest)
    else delimitedWithin delimiter isRegex fuel (c :: done) rest

/-- Takes text up to a delimiter, or fails. -/
def delimited (delimiter : Char) (isRegex : Bool) (cause : ScriptFault) : Reading (List Char) := do
  let rest ← get
  match delimitedWithin delimiter isRegex (rest.length + 1) [] rest with
  | (some text, rest) => do
    set rest
    pure text
  | (none, rest) => do
    set rest
    fault cause

/-- The expression that a text stands for; an empty text stands for the last one. -/
def regex? (manner : Manner) (text : List Char) (ignoresCase linesApart : Bool) :
    Reading (Option Regex) := do
  if text.isEmpty then
    if ignoresCase || linesApart then fault .modifiedEmpty else pure none
  else
    match Regex.read
        { isExtended := manner.isExtended, ignoresCase, linesApart, hasEscapes := true }
        (String.ofList text) with
    | .ok regex => pure (some regex)
    | .error cause => fault (.regex cause)

/-- Takes the flags behind an expression that names lines. -/
def placeFlags (flags : List Char) : (fuel : Nat) → Reading (List Char)
  | 0 => pure flags
  | fuel + 1 => do
    skipBlanks
    match ← ahead with
    | some 'I' => do
      let _ ← next
      placeFlags ('I' :: flags) fuel
    | some 'M' => do
      let _ ← next
      placeFlags ('M' :: flags) fuel
    | _ => pure flags

/-- Takes what names lines, if it is ahead. -/
def place? (manner : Manner) : Reading (Option RowEnd) := do
  let ofRegex (delimiter : Char) : Reading (Option RowEnd) := do
    let text ← delimited delimiter true .unterminatedAddress
    let flags ← placeFlags [] ((← get).length + 1)
    let regex ← regex? manner text (flags.contains 'I') (flags.contains 'M')
    pure (some (.place (.fitting regex)))
  match ← ahead with
  | some '/' => do
    let _ ← next
    ofRegex '/'
  | some '\\' => do
    let _ ← next
    match ← next with
    | some delimiter => ofRegex delimiter
    | none => fault .unterminatedAddress
  | some '$' => do
    let _ ← next
    pure (some (.place .last))
  | some '+' => do
    let _ ← next
    skipBlanks
    pure (some (.further (← number)))
  | some '~' => do
    let _ ← next
    skipBlanks
    pure (some (.multiple (← number)))
  | some c =>
    if c.isDigit then do
      let n ← number
      skipBlanks
      match ← ahead with
      | some '~' => do
        let _ ← next
        skipBlanks
        let step ← number
        pure (some (.place (if step = 0 then .number n else .stepped n step)))
      | _ => pure (some (.place (.number n)))
    else pure none
  | none => pure none

/-- Takes the lines that a command acts on. -/
def selection (manner : Manner) : Reading Selection := do
  match ← place? manner with
  | none => pure {}
  | some (.place start) => do
    skipBlanks
    match ← ahead with
    | some ',' => do
      let _ ← next
      skipBlanks
      match ← place? manner with
      | none => do
        let _ ← next
        fault .unexpectedComma
      | some stop => do
        let isRegex := match stop with
          | .place (.fitting _) => true
          | _ => false
        match start, isRegex with
        | .number 0, false => do
          skipBlanks
          let _ ← next
          fault .badLineZero
        | _, _ => pure { start := some start, stop := some stop }
    | _ =>
      match start with
      | .number 0 => do
        let _ ← next
        fault .badLineZero
      | _ => pure { start := some start }
  | some _ => fault .badFirstAddress

/-- Takes a label. -/
def label : Reading String := do
  modify (·.dropWhile fun c => c == ' ' || c == '\t')
  let name := (← get).takeWhile fun c =>
    !(c == '\n' || c == ' ' || c == '\t' || c == ';' || c == '\x7d')
  modify (·.drop name.length)
  pure (String.ofList name)

/-- Takes the name of a file, which ends with the line. -/
def fileName : Reading String := do
  skipBlanks
  let name := (← get).takeWhile (· != '\n')
  modify (·.drop (name.length + 1))
  if name.isEmpty then fault .missingFileName else pure (String.ofList name)

/-- Text with its escapes replaced, up to the end of its last line. `fuel` is more than its length. -/
def textWithin : (fuel : Nat) → (done : List Char) → List Char → List Char × List Char
  | 0, done, rest => (done.reverse, rest)
  | _, done, [] => (('\n' :: done).reverse, [])
  | _, done, ['\\'] => (('\n' :: done).reverse, [])
  | fuel + 1, done, '\\' :: c :: rest =>
    match Regex.numericEscape? (c :: rest) with
    | some (d, rest) => textWithin fuel (d :: done) rest
    | none => textWithin fuel ((Regex.escaped? c).getD c :: done) rest
  | fuel + 1, done, c :: rest =>
    if c == '\n' then (('\n' :: done).reverse, rest) else textWithin fuel (c :: done) rest

/-- Takes the text of a command that adds or changes lines. -/
def text : Reading String := do
  skipBlanks
  let whole (rest : List Char) : Reading String := do
    let (taken, rest) := textWithin (rest.length + 1) [] rest
    set rest
    pure (String.ofList taken)
  match ← get with
  | [] => fault .missingText
  | '\n' :: _ => fault .missingText
  | '\\' :: rest => do
    let afterBlanks := rest.dropWhile fun c => c == ' ' || c == '\t'
    match afterBlanks with
    | '\n' :: body => whole body
    | [] => do
      set ([] : List Char)
      pure ""
    | _ =>
      match rest with
      | c :: more => do
        let (taken, rest) := textWithin (more.length + 1) [c] more
        set rest
        pure (String.ofList taken)
      | [] => pure ""
  | rest => whole rest

/-- Adds a character to a replacement that is kept in reverse. -/
def pushCharacter (c : Char) (done : List ReplacementPart) : List ReplacementPart :=
  match done with
  | .text characters :: rest => .text (characters ++ [c]) :: rest
  | _ => .text [c] :: done

/-- The parts of a replacement, which are added to those before. `fuel` is more than its length. -/
def replacementWithin : (fuel : Nat) → (done : List ReplacementPart) → List Char →
    List ReplacementPart
  | 0, done, _ => done.reverse
  | _, done, [] => done.reverse
  | fuel + 1, done, '&' :: rest => replacementWithin fuel (.group 0 :: done) rest
  | fuel + 1, done, ['\\'] => replacementWithin fuel (pushCharacter '\\' done) []
  | fuel + 1, done, '\\' :: c :: rest =>
    match c with
    | 'L' => replacementWithin fuel (.change .lower :: done) rest
    | 'U' => replacementWithin fuel (.change .upper :: done) rest
    | 'l' => replacementWithin fuel (.change .nextLower :: done) rest
    | 'u' => replacementWithin fuel (.change .nextUpper :: done) rest
    | 'E' => replacementWithin fuel (.change .none :: done) rest
    | c =>
      if c.isDigit then replacementWithin fuel (.group (c.toNat - 48) :: done) rest
      else
        match Regex.numericEscape? (c :: rest) with
        | some (d, rest) => replacementWithin fuel (pushCharacter d done) rest
        | none => replacementWithin fuel (pushCharacter ((Regex.escaped? c).getD c) done) rest
  | fuel + 1, done, c :: rest => replacementWithin fuel (pushCharacter c done) rest

/-- The flags of a substitution. -/
structure SubstitutionFlags where
  ignoresCase : Bool := false
  linesApart : Bool := false
  isGlobal : Bool := false
  prints : Bool := false
  first : Option Nat := none
  target : Option String := none

/-- Takes the flags of a substitution. -/
def substitutionFlags (flags : SubstitutionFlags) : (fuel : Nat) → Reading SubstitutionFlags
  | 0 => pure flags
  | fuel + 1 => do
    match ← ahead with
    | none => pure flags
    | some c =>
      if c == '\x7d' || c == '#' then pure flags
      else if c.isDigit then do
        if flags.first.isSome then do
          let _ ← next
          fault .manyNumbers
        else do
          let n ← number
          if n = 0 then fault .zeroNumber
          else substitutionFlags { flags with first := some n } fuel
      else do
        let _ ← next
        match c with
        | '\n' | ';' => pure flags
        | ' ' | '\t' | '\r' => substitutionFlags flags fuel
        | 'i' | 'I' => substitutionFlags { flags with ignoresCase := true } fuel
        | 'm' | 'M' => substitutionFlags { flags with linesApart := true } fuel
        | 'e' => substitutionFlags flags fuel
        | 'p' =>
          if flags.prints then fault .manyPrints
          else substitutionFlags { flags with prints := true } fuel
        | 'g' =>
          if flags.isGlobal then fault .manyGlobals
          else substitutionFlags { flags with isGlobal := true } fuel
        | 'w' => do
          let name ← fileName
          pure { flags with target := some name }
        | _ => fault .unknownOption

/-- Takes a substitution behind its letter. -/
def substitution (manner : Manner) : Reading Substitution := do
  match ← next with
  | none => fault (.unterminated 's')
  | some delimiter => do
    if delimiter == '\n' || delimiter == '\\' then fault (.unterminated 's')
    let pattern ← delimited delimiter true (.unterminated 's')
    let written ← delimited delimiter false (.unterminated 's')
    let flags ← substitutionFlags {} ((← get).length + 1)
    let regex ← regex? manner pattern flags.ignoresCase flags.linesApart
    let replacement := replacementWithin (written.length + 1) [] written
    let highest := replacement.foldl
      (fun highest part =>
        match part with
        | .group number => max highest number
        | _ => highest)
      0
    match regex with
    | some regex =>
      if regex.groupCount < highest then fault (.badReference highest)
    | none => pure ()
    pure
      { regex
        replacement
        isGlobal := flags.isGlobal
        prints := flags.prints
        first := flags.first.getD 1
        target := flags.target }

/-- The characters of one side of a translation. `fuel` is more than its length. -/
def translationSide : (fuel : Nat) → List Char → List Char
  | 0, _ => []
  | _, [] => []
  | fuel + 1, '\\' :: c :: rest =>
    match c with
    | '\\' => '\\' :: translationSide fuel rest
    | c =>
      match Regex.numericEscape? (c :: rest) with
      | some (d, rest) => d :: translationSide fuel rest
      | none =>
        match Regex.escaped? c with
        | some d => d :: translationSide fuel rest
        | none => '\\' :: c :: translationSide fuel rest
  | fuel + 1, c :: rest => c :: translationSide fuel rest

/-- Takes a translation behind its letter. -/
def translation : Reading (List (Char × Char)) := do
  match ← next with
  | none => fault (.unterminated 'y')
  | some delimiter => do
    let sources ← delimited delimiter false (.unterminated 'y')
    let targets ← delimited delimiter false (.unterminated 'y')
    let sources := translationSide (sources.length + 1) sources
    let targets := translationSide (targets.length + 1) targets
    if sources.length != targets.length then fault .differentLengths
    else do
      commandEnd
      pure (sources.zip targets)

end Reading

/-- A command before labels and blocks are resolved. -/
inductive Raw
  | command (action : Action)
  | opens
  | closes
  | label (name : String)
  | jump (kind : JumpKind) (label : String)

namespace Reading

/-- Takes a command behind the lines that it acts on. -/
def command (manner : Manner) (selection : Selection) : Reading Raw := do
  let plain (action : Action) : Reading Raw := do
    commandEnd
    pure (.command action)
  let counted (action : Option Nat → Action) : Reading Raw := do
    skipBlanks
    let count? ← do
      match ← ahead with
      | some c => if c.isDigit then some <$> number else pure none
      | none => pure none
    commandEnd
    pure (.command (action count?))
  let single (raw : Reading Raw) : Reading Raw :=
    if selection.stop.isSome then fault .singleAddress else raw
  match ← next with
  | none => fault .missingCommand
  | some c =>
    match c with
    | '\x7b' => pure .opens
    | '\x7d' =>
      if selection.start.isSome then fault .unexpectedClose
      else do
        commandEnd
        pure .closes
    | '=' => plain .number
    | 'a' => (fun text => .command (.append text)) <$> text
    | 'i' => (fun text => .command (.insert text)) <$> text
    | 'c' => (fun text => .command (.change text)) <$> text
    | ':' =>
      if selection.start.isSome then fault (.unwantedAddress ':')
      else do
        let name ← label
        if name.isEmpty then fault .missingLabel else pure (.label name)
    | 'b' => .jump .always <$> label
    | 't' => .jump .ifReplaced <$> label
    | 'T' => .jump .unlessReplaced <$> label
    | 'd' => plain .delete
    | 'D' => plain .deleteFirst
    | 'g' => plain .get
    | 'G' => plain .getAppend
    | 'h' => plain .hold
    | 'H' => plain .holdAppend
    | 'x' => plain .exchange
    | 'p' => plain .print
    | 'P' => plain .printFirst
    | 'n' => plain .next
    | 'N' => plain .nextAppend
    | 'F' => plain .fileName
    | 'z' => plain .clear
    | 'l' => counted .list
    | 'q' => single (counted fun status => .quit (status.getD 0) false)
    | 'Q' => single (counted fun status => .quit (status.getD 0) true)
    | 'r' => (fun name => .command (.readFile name)) <$> fileName
    | 'R' => (fun name => .command (.readLine name)) <$> fileName
    | 'w' => (fun name => .command (.write name)) <$> fileName
    | 'W' => (fun name => .command (.writeFirst name)) <$> fileName
    | 's' => (fun substitution => .command (.substitute substitution)) <$> substitution manner
    | 'y' => (fun pairs => .command (.translate pairs)) <$> translation
    | 'v' => do
      let _ ← label
      pure (.command .nothing)
    | '\n' | ';' => fault .missingCommand
    | c => fault (.unknownCommand c)

/-- Takes all commands. `open'` is the number of blocks that have not been closed, `fuel` more than
the length of the text. -/
def commands (manner : Manner) (opened : Nat) : (fuel : Nat) → Reading (List (Selection × Raw))
  | 0 => pure []
  | fuel + 1 => do
    modify (·.dropWhile fun c => c == ';' || c == ' ' || ('\t' ≤ c && c ≤ '\r'))
    if (← get).isEmpty then
      if opened > 0 then fault .unmatchedOpen else pure []
    else do
      let selection ← selection manner
      skipBlanks
      let isNegated := (← ahead) == some '!'
      if isNegated then do
        let _ ← next
        skipBlanks
        if (← ahead) == some '!' then do
          let _ ← next
          fault .manyNegations
      let selection := { selection with isNegated }
      if (← ahead) == some '#' then do
        let _ ← next
        if selection.start.isSome then fault (.unwantedAddress '#')
        else do
          modify (·.dropWhile (· != '\n'))
          commands manner opened fuel
      else do
        let raw ← command manner selection
        match raw with
        | .closes =>
          if opened = 0 then fault .unexpectedClose
          else do
            let rest ← commands manner (opened - 1) fuel
            pure ((selection, raw) :: rest)
        | .opens => do
          let rest ← commands manner (opened + 1) fuel
          pure ((selection, raw) :: rest)
        | _ => do
          let rest ← commands manner opened fuel
          pure ((selection, raw) :: rest)

end Reading

/-- The position behind the end of the block that has just begun. -/
def blockEnd (depth position : Nat) : List (Selection × Raw) → Nat
  | [] => position
  | (_, .opens) :: rest => blockEnd (depth + 1) (position + 1) rest
  | (_, .closes) :: rest =>
    if depth = 0 then position + 1 else blockEnd (depth - 1) (position + 1) rest
  | _ :: rest => blockEnd depth (position + 1) rest

/-- The commands with their labels and blocks resolved. `all` are all commands, of which those that
follow begin at `position`. -/
def resolve (all : List (Selection × Raw)) (position : Nat) :
    List (Selection × Raw) → Except ScriptFault (List Command)
  | [] => .ok []
  | (selection, raw) :: rest => do
    let action ←
      match raw with
      | .command action => .ok action
      | .opens => .ok (.block (blockEnd 0 (position + 1) rest))
      | .closes | .label _ => .ok .nothing
      | .jump kind label =>
        if label.isEmpty then .ok (.jump kind all.length)
        else
          match all.findIdx? fun (_, raw) =>
            match raw with
            | .label name => name == label
            | _ => false with
          | some target => .ok (.jump kind target)
          | none => .error (.unknownLabel label)
    let more ← resolve all (position + 1) rest
    .ok ({ selection, action } :: more)

/-- Reads a script: its commands, or a fault and how many characters are left where it lies. -/
def Script.read (manner : Manner) (text : String) : Except (Nat × ScriptFault) Script :=
  match (Reading.commands manner 0 (text.length + 1)).run text.toList with
  | .error (rest, fault) => .error (rest.length, fault)
  | .ok (raw, _) =>
    match resolve raw 0 raw with
    | .error fault => .error (0, fault)
    | .ok commands => .ok commands.toArray

end RunMeter.Shell.Edit
