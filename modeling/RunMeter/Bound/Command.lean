import RunMeter.Bound.Search
import RunMeter.Runner
import RunMeter.Text.Match

/-!
# Commands under a bound

The bound under test reaches a program as an environment variable or as its first argument. The
argument is a template: each placeholder in it becomes the bound in decimal, and what has been filled
in is not looked at again.
-/

set_option autoImplicit false

namespace RunMeter

/-- The text that stands for the bound in a template. -/
def placeholder : List Char := ['\x7b', 'b', 'o', 'u', 'n', 'd', '\x7d']

/-- A template with every placeholder replaced, from the left. -/
def fillTemplate (value : List Char) : List Char → List Char
  | '\x7b' :: 'b' :: 'o' :: 'u' :: 'n' :: 'd' :: '\x7d' :: rest => value ++ fillTemplate value rest
  | c :: rest => c :: fillTemplate value rest
  | [] => []

/-- Whether a template has a place for the bound. -/
def hasPlaceholder (template : String) : Bool := Text.contains placeholder template.toList

/-- A command with a place for the bound. -/
structure BoundedCommand where
  command : Command
  /-- The template of the argument that carries the bound. -/
  boundArg : String
  /-- The variable that carries the bound instead. -/
  boundVariable : Option String := none
deriving DecidableEq, Repr

namespace BoundedCommand

/-- Whether the bound can reach the program. -/
def carriesBound (bounded : BoundedCommand) : Bool :=
  bounded.boundVariable.isSome || hasPlaceholder bounded.boundArg

/-- The command under one bound. Its output is of no interest. -/
def under (bounded : BoundedCommand) (bound : UInt64) : Command :=
  let value := toString bound.toNat
  let command := bounded.command.discardingOutput
  match bounded.boundVariable with
  | some key => command.setVariable key value
  | none =>
    let word := String.ofList (fillTemplate value.toList bounded.boundArg.toList)
    { command with args := word :: command.args }

end BoundedCommand

namespace Search

variable {σ : Type}

/-- A trial that runs a command under the bound. -/
def commandTrial (runner : Runner σ) (bounded : BoundedCommand) (timeout : Option Duration)
    (bound : UInt64) (state : Files × σ) : Bool × (Files × σ) :=
  let (sample, files, runnerState) := runner.run (bounded.under bound) timeout state.1 state.2
  (sample.succeeded, files, runnerState)

/-- Finds the least bound under which a command succeeds within the time limit. -/
def searchMinBound (runner : Runner σ) (bounded : BoundedCommand) (config : SearchConfig)
    (timeout : Option Duration) (unit : String) (state : Files × σ) (progress : Progress) :
    Except Failure SearchOutcome × Log × (Files × σ) × Progress :=
  findMinBound config unit (commandTrial runner bounded timeout) state progress

end Search

end RunMeter
