import RunMeter.Duration
import RunMeter.Reporter

/-!
# The grammar of command-line arguments

A command line is read level by level. Each level knows some flags, and either names of further
levels or what the words that are no flags mean. Flag values have a kind, and a text that is no value
of its kind is refused when the value is complete.
-/

set_option autoImplicit false

namespace RunMeter

/-- Why a command line is not carried out. Asking for help or the version ends the reading too. -/
inductive UsageFault
  | missingArgument
  | valueValidation
  | invalidValue
  | invalidSubcommand
  | missingSubcommand
  | unknownArgument
  | repeatedArgument
  | tooManyValues
  | helpAsked
  | versionAsked
  | nothingGiven
deriving DecidableEq, Repr

/-- What the value of a flag must be. -/
inductive ValueKind
  | count
  | duration
  | text
  | path
  | reporter
deriving DecidableEq, Repr

/-- The value of a flag. -/
inductive FlagValue
  | count (n : Nat)
  | duration (d : Duration)
  | text (s : String)
  | reporter (r : Reporter)
deriving DecidableEq, Repr

/-- The largest count that a flag takes. -/
def largestCount : Nat := 2 ^ 32 - 1

/-- Reads a value of a kind. A count is a number of any sign first, and then has to be in range. A
path must not be empty. -/
def ValueKind.read (kind : ValueKind) (text : String) : Except UsageFault FlagValue :=
  match kind with
  | .count =>
    match Decimal.readSigned (2 ^ 63 - 1) text.toList with
    | .ok n =>
      if 0 ≤ n ∧ n.toNat ≤ largestCount then .ok (.count n.toNat) else .error .valueValidation
    | .error _ => .error .valueValidation
  | .duration =>
    match Duration.parse text with
    | .ok d => .ok (.duration d)
    | .error _ => .error .valueValidation
  | .text => .ok (.text text)
  | .path => if text = "" then .error .invalidValue else .ok (.text text)
  | .reporter =>
    match Reporter.ofName? text with
    | some choice => .ok (.reporter choice)
    | none => .error .invalidValue

/-- What a flag does. -/
inductive FlagEffect
  /-- It is on or off. -/
  | turnOn
  /-- It has a value; `takesHyphens` if a word that begins with a hyphen can be that value in any
  case. -/
  | value (kind : ValueKind) (takesHyphens : Bool)
  | help
  | version
deriving DecidableEq, Repr

/-- A flag of some level. -/
structure Flag where
  name : String
  short : Option Char := none
  effect : FlagEffect
deriving DecidableEq, Repr

/-- What the words of a level are that are no flags. -/
inductive Positional
  /-- There are none. -/
  | nothing
  /-- One path. -/
  | path
  /-- A command with its arguments. From its first word on, everything belongs to it, and an unknown
  flag is its first word. -/
  | command
deriving DecidableEq, Repr

/-- One level of the command line with the levels below it. -/
inductive Grammar
  | level (flags : List Flag) (positional : Positional) (sublevels : List (String × Grammar))
deriving Repr

namespace Grammar

/-- The flags of a level. -/
def flags : Grammar → List Flag
  | level flags _ _ => flags

/-- What the words of a level mean. -/
def positional : Grammar → Positional
  | level _ positional _ => positional

/-- The levels below. -/
def sublevels : Grammar → List (String × Grammar)
  | level _ _ sublevels => sublevels

/-- The flag with a long name. -/
def flag? (grammar : Grammar) (name : String) : Option Flag :=
  grammar.flags.find? fun flag => flag.name == name

/-- The flag with a short name. -/
def shortFlag? (grammar : Grammar) (c : Char) : Option Flag :=
  grammar.flags.find? fun flag => flag.short == some c

end Grammar

end RunMeter
