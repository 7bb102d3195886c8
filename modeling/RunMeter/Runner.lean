import RunMeter.Command
import RunMeter.Files
import RunMeter.Sample

/-!
# Runners

Sampling and searching know nothing of how a command is run. A `Runner` is any way to turn a command
and a time limit into a sample; it may change the files on the way and keep a state of its own, and
nothing at all is assumed of it.
-/

set_option autoImplicit false

namespace RunMeter

/-- A way to run commands, with states in `σ`. -/
structure Runner (σ : Type) where
  run : Command → Option Duration → Files → σ → Sample × Files × σ

end RunMeter
