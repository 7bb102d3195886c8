import RunMeter.Shell.Regex.Basic

/-!
# Edit scripts

The commands by which a stream of lines is edited. Every command says on which lines it acts: on all,
on those at one place, or on those from one place to another. Labels and blocks are already resolved:
jumps lead to positions of commands.
-/

set_option autoImplicit false

namespace RunMeter.Shell.Edit

/-- What names lines. -/
inductive LinePlace
  | number (n : Nat)
  | last
  /-- Every so many lines from the first one on. -/
  | stepped (first step : Nat)
  /-- Lines that an expression fits, or the expression that was used last. -/
  | fitting (regex : Option Regex)

/-- Where a row of lines ends. -/
inductive RowEnd
  | place (place : LinePlace)
  /-- So many lines further on. -/
  | further (count : Nat)
  /-- At the next multiple of a number. -/
  | multiple (n : Nat)

/-- The lines on which a command acts. -/
structure Selection where
  start : Option LinePlace := none
  stop : Option RowEnd := none
  isNegated : Bool := false

/-- A change of letters in what replaces a match. -/
inductive CaseChange
  | upper
  | lower
  | nextUpper
  | nextLower
  | none
deriving DecidableEq, Repr

/-- A piece of what replaces a match. -/
inductive ReplacementPart
  | text (characters : List Char)
  | group (number : Nat)
  | change (change : CaseChange)
deriving DecidableEq, Repr

/-- A replacement of matches. -/
structure Substitution where
  regex : Option Regex
  replacement : List ReplacementPart
  isGlobal : Bool := false
  prints : Bool := false
  /-- The first match that is replaced. -/
  first : Nat := 1
  target : Option String := none

/-- When a jump is made. -/
inductive JumpKind
  | always
  | ifReplaced
  | unlessReplaced
deriving DecidableEq, Repr

/-- What a command does. -/
inductive Action
  /-- Goes on behind the block unless the line is selected. -/
  | block (after : Nat)
  | jump (kind : JumpKind) (target : Nat)
  | append (text : String)
  | insert (text : String)
  | change (text : String)
  | delete
  | deleteFirst
  | get
  | getAppend
  | hold
  | holdAppend
  | exchange
  | print
  | printFirst
  | next
  | nextAppend
  | number
  | fileName
  | clear
  | list (width : Option Nat)
  | quit (status : Nat) (isSilent : Bool)
  | readFile (name : String)
  | readLine (name : String)
  | write (name : String)
  | writeFirst (name : String)
  | substitute (substitution : Substitution)
  | translate (pairs : List (Char × Char))
  | nothing

/-- A command. -/
structure Command where
  selection : Selection
  action : Action

/-- A script. -/
abbrev Script := Array Command

end RunMeter.Shell.Edit
