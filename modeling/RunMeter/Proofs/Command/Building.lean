import RunMeter.Probe
import RunMeter.Proofs.Command.Environment

/-!
# Commands built step by step

A command is built from a program by steps, in any number and order: words are appended, variables are
set or removed, the output is thrown away, and the command is put behind wrappers. Whatever a wrapper
is, it does one thing: it puts words of its own in front (`CommandWrapper.apply_eq`). So each step adds
words in front or behind and keeps those that are there (`CommandStep.words_apply`), and no wrapper has
to do with the environment or with the output.

What a row of steps makes of a command follows by induction (`Command.words_after`,
`Command.change?_after`, `Command.discardsOutput_after`), and `Command.built_from_steps` says what it
makes of a program.
-/

set_option autoImplicit false

namespace RunMeter

/-! ## Steps -/

/-- A tool that measures the program behind it. -/
inductive CommandTool
  | counter
  | timer (platform : RssPlatform)
deriving DecidableEq, Repr

namespace CommandTool

/-- Runs a command behind the tool. -/
def wrap : CommandTool → Command → Command
  | .counter => Instructions.wrap
  | .timer platform => platform.wrap

/-- The words of the tool, without the `--` that ends them. -/
def words : CommandTool → List String
  | .counter => ["perf", "stat", "-e", "instructions"]
  | .timer .linux => ["/usr/bin/time", "-v"]
  | .timer .macos => ["/usr/bin/time", "-l"]

end CommandTool

/-- The tool whose report a probe reads. -/
def Probe.tool? : Probe → Option CommandTool
  | .allocation => none
  | .phaseTiming => none
  | .maxRss platform => some (.timer platform)
  | .instructions => some .counter

/-- What a command is put behind: a program with words of its own, a tool, or whatever a probe needs. -/
inductive CommandWrapper
  | ofProgram (wrapper : String) (options : List String)
  | ofTool (tool : CommandTool)
  | ofProbe (probe : Probe)
deriving DecidableEq, Repr

namespace CommandWrapper

/-- Puts a command behind the wrapper. -/
def apply : CommandWrapper → Command → Command
  | .ofProgram wrapper options, command => command.wrapped wrapper options
  | .ofTool tool, command => tool.wrap command
  | .ofProbe probe, command => probe.prepare command

/-- The words of the wrapper. Those of a tool end with `--`, and a probe without a tool has none. -/
def words : CommandWrapper → List String
  | .ofProgram wrapper options => wrapper :: options
  | .ofTool tool => tool.words ++ ["--"]
  | .ofProbe probe =>
    match probe.tool? with
    | none => []
    | some tool => tool.words ++ ["--"]

end CommandWrapper

/-- A choice of how a command is run, whatever its words are. -/
inductive CommandSetting
  | assign (key value : String)
  | remove (key : String)
  | silence
deriving DecidableEq, Repr

namespace CommandSetting

/-- Makes the choice for a command. -/
def apply : CommandSetting → Command → Command
  | .assign key value, command => command.setVariable key value
  | .remove key, command => command.removeVariable key
  | .silence, command => command.discardingOutput

/-- What a setting makes of a variable: a new value, or its removal. -/
def change? (key : String) : CommandSetting → Option (Option String)
  | .assign other value => if other = key then some (some value) else none
  | .remove other => if other = key then some none else none
  | .silence => none

end CommandSetting

/-- A step in building a command. -/
inductive CommandStep
  | arg (word : String)
  | args (words : List String)
  | adjust (setting : CommandSetting)
  | wrap (wrapper : CommandWrapper)
deriving DecidableEq, Repr

namespace CommandStep

/-- Makes the step. -/
def apply : CommandStep → Command → Command
  | .arg word, command => command.arg word
  | .args words, command => command.withArgs words
  | .adjust setting, command => setting.apply command
  | .wrap wrapper, command => wrapper.apply command

/-- The words that a step puts in front. -/
def front : CommandStep → List String
  | .wrap wrapper => wrapper.words
  | _ => []

/-- The words that a step appends. -/
def appended : CommandStep → List String
  | .arg word => [word]
  | .args words => words
  | _ => []

/-- What a step makes of a variable. -/
def change? (key : String) : CommandStep → Option (Option String)
  | .adjust setting => setting.change? key
  | _ => none

end CommandStep

/-- The words that steps put in front, those of the last wrapper first. -/
def frontWords (steps : List CommandStep) : List String := steps.reverse.flatMap CommandStep.front

/-- The words that steps append. -/
def appendedWords (steps : List CommandStep) : List String := steps.flatMap CommandStep.appended

/-- The last change that steps make to a variable. -/
def lastChange? (key : String) (steps : List CommandStep) : Option (Option String) :=
  (steps.filterMap (CommandStep.change? key)).getLast?

theorem frontWords_cons (step : CommandStep) (steps : List CommandStep) :
    frontWords (step :: steps) = frontWords steps ++ step.front := by
  simp [frontWords]

theorem appendedWords_cons (step : CommandStep) (steps : List CommandStep) :
    appendedWords (step :: steps) = step.appended ++ appendedWords steps :=
  List.flatMap_cons

/-- A change counts unless a later one follows. -/
theorem lastChange?_cons (key : String) (step : CommandStep) (steps : List CommandStep) :
    lastChange? key (step :: steps) = (lastChange? key steps).or (step.change? key) := by
  unfold lastChange?
  cases hchange : step.change? key with
  | none => rw [List.filterMap_cons_none hchange, Option.or_none]
  | some change =>
    rw [List.filterMap_cons_some hchange, List.getLast?_cons]
    cases (steps.filterMap (CommandStep.change? key)).getLast? <;> rfl

/-! ## One step -/

namespace CommandWrapper

/-- All that a wrapper does to a command is to put its words in front. -/
theorem apply_eq (wrapper : CommandWrapper) (command : Command) :
    wrapper.apply command =
      match wrapper.words with
      | [] => command
      | tool :: options => command.wrapped tool options := by
  cases wrapper with
  | ofProgram wrapper options => rfl
  | ofTool tool => rcases tool with _ | _ | _ <;> rfl
  | ofProbe probe => rcases probe with _ | _ | (_ | _) | _ <;> rfl

theorem words_apply (wrapper : CommandWrapper) (command : Command) :
    (wrapper.apply command).words = wrapper.words ++ command.words := by
  rw [apply_eq]
  cases wrapper.words with
  | nil => rfl
  | cons tool options => simp [Command.words, Command.wrapped]

/-- A wrapper leaves the environment alone. -/
theorem environment_apply (wrapper : CommandWrapper) (command : Command) :
    (wrapper.apply command).environment = command.environment := by
  rw [apply_eq]
  cases wrapper.words <;> rfl

/-- What becomes of the output is not up to a wrapper. -/
theorem discardsOutput_apply (wrapper : CommandWrapper) (command : Command) :
    (wrapper.apply command).discardsOutput = command.discardsOutput := by
  rw [apply_eq]
  cases wrapper.words <;> rfl

/-- A setting has the same effect before a wrapper and after it. -/
theorem apply_comm (wrapper : CommandWrapper) (setting : CommandSetting) (command : Command) :
    wrapper.apply (setting.apply command) = setting.apply (wrapper.apply command) := by
  rw [apply_eq, apply_eq]
  cases wrapper.words with
  | nil => rfl
  | cons tool options => cases setting <;> rfl

/-- What a probe needs is its tool, if it has one. -/
theorem apply_ofProbe (probe : Probe) (command : Command) :
    apply (.ofProbe probe) command =
      match probe.tool? with
      | none => command
      | some tool => apply (.ofTool tool) command := by
  cases probe <;> rfl

end CommandWrapper

namespace CommandStep

/-- A step keeps the words of a command together and in their order. -/
theorem words_apply (step : CommandStep) (command : Command) :
    (step.apply command).words = step.front ++ command.words ++ step.appended := by
  cases step with
  | arg word => rfl
  | args words => rfl
  | adjust setting =>
    have hwords : (setting.apply command).words = command.words := by cases setting <;> rfl
    simpa [apply, front, appended] using hwords
  | wrap wrapper => simpa [apply, front, appended] using wrapper.words_apply command

/-- A step changes a variable, or leaves it with the change that it had. -/
theorem change?_apply (key : String) (step : CommandStep) (command : Command) :
    (step.apply command).environment.change? key =
      (step.change? key).or (command.environment.change? key) := by
  have hset : ∀ (other : String) (change : Option String),
      (Overlay.set other change command.environment).change? key =
        (if other = key then some change else none).or (command.environment.change? key) := by
    intro other change
    by_cases hkey : other = key
    · rw [if_pos hkey, hkey, Overlay.change?_set_self, Option.some_or]
    · rw [if_neg hkey, Overlay.change?_set_of_ne (Ne.symm hkey), Option.none_or]
  cases step with
  | arg word => rfl
  | args words => rfl
  | adjust setting =>
    cases setting with
    | assign other value => exact hset other (some value)
    | remove other => exact hset other none
    | silence => rfl
  | wrap wrapper => exact congrArg (Overlay.change? · key) (wrapper.environment_apply command)

/-- A step keeps the variables in their order. -/
theorem isOrdered_apply (step : CommandStep) {command : Command}
    (h : command.environment.IsOrdered) : (step.apply command).environment.IsOrdered := by
  cases step with
  | arg word => exact h
  | args words => exact h
  | adjust setting =>
    cases setting with
    | assign key value => exact h.set key (some value)
    | remove key => exact h.set key none
    | silence => exact h
  | wrap wrapper =>
    change (wrapper.apply command).environment.IsOrdered
    rw [wrapper.environment_apply]
    exact h

/-- Only one step throws the output away, and none brings it back. -/
theorem discardsOutput_apply_iff (step : CommandStep) (command : Command) :
    (step.apply command).discardsOutput = true ↔
      .adjust .silence = step ∨ command.discardsOutput = true := by
  cases step with
  | arg word => simp [apply, Command.arg]
  | args words => simp [apply, Command.withArgs]
  | adjust setting =>
    cases setting with
    | assign key value => simp [apply, CommandSetting.apply, Command.setVariable]
    | remove key => simp [apply, CommandSetting.apply, Command.removeVariable]
    | silence => simp [apply, CommandSetting.apply, Command.discardingOutput]
  | wrap wrapper => simp [apply, wrapper.discardsOutput_apply]

end CommandStep

/-! ## Rows of steps -/

namespace Command

/-- A command after a row of steps. -/
def after (command : Command) (steps : List CommandStep) : Command :=
  steps.foldl (fun command step => step.apply command) command

/-- The command that steps build from a program. -/
def built (program : String) (steps : List CommandStep) : Command :=
  Command.after { program } steps

theorem after_cons (command : Command) (step : CommandStep) (steps : List CommandStep) :
    command.after (step :: steps) = (step.apply command).after steps := rfl

theorem built_append (program : String) (before after : List CommandStep) :
    built program (before ++ after) = (built program before).after after :=
  List.foldl_append

/-- The words of a command stay together. What the steps append stands behind them, and what the steps
put in front stands before them, the words of a later wrapper before those of an earlier one. -/
theorem words_after (command : Command) (steps : List CommandStep) :
    (command.after steps).words =
      frontWords steps ++ command.words ++ appendedWords steps := by
  induction steps generalizing command with
  | nil => simp [after, frontWords, appendedWords]
  | cons step steps ih =>
    rw [after_cons, ih, step.words_apply, frontWords_cons, appendedWords_cons]
    simp only [List.append_assoc]

/-- A variable has the last change that the steps make to it. -/
theorem change?_after (key : String) (command : Command) (steps : List CommandStep) :
    (command.after steps).environment.change? key =
      (lastChange? key steps).or (command.environment.change? key) := by
  induction steps generalizing command with
  | nil => rfl
  | cons step steps ih =>
    rw [after_cons, ih, step.change?_apply, lastChange?_cons, Option.or_assoc]

theorem isOrdered_after {command : Command} (h : command.environment.IsOrdered)
    (steps : List CommandStep) : (command.after steps).environment.IsOrdered := by
  induction steps generalizing command with
  | nil => exact h
  | cons step steps ih => exact ih (step.isOrdered_apply h)

/-- The output is thrown away for good once a step says so. -/
theorem discardsOutput_after (command : Command) (steps : List CommandStep) :
    (command.after steps).discardsOutput = true ↔
      .adjust .silence ∈ steps ∨ command.discardsOutput = true := by
  induction steps generalizing command with
  | nil => simp [after]
  | cons step steps ih =>
    rw [after_cons, ih, step.discardsOutput_apply_iff, List.mem_cons, or_assoc, or_left_comm]

/-- The line of a command is its program and then, for each argument, a space and the argument. -/
theorem display_eq (command : Command) :
    command.display = command.program ++ String.join (command.args.map (" " ++ ·)) := by
  have hline : ∀ (first : String) (rest : List String),
      " ".intercalate (first :: rest) = first ++ String.join (rest.map (" " ++ ·)) := by
    intro first rest
    induction rest generalizing first with
    | nil => simp
    | cons next rest ih =>
      rw [String.intercalate_cons_cons, ih, List.map_cons, String.join_cons]
      simp only [String.append_assoc]
  exact hline command.program command.args

/-! ## Commands built from a program -/

theorem words_built (program : String) (steps : List CommandStep) :
    (built program steps).words = frontWords steps ++ program :: appendedWords steps := by
  have hall : (built program steps).words = _ := words_after { program } steps
  rw [hall, List.append_assoc]
  rfl

/-- What a wrapper is put around stays in one piece right behind the words of the wrapper. -/
theorem words_built_wrap (program : String) (before after : List CommandStep)
    (wrapper : CommandWrapper) :
    (built program (before ++ .wrap wrapper :: after)).words =
      frontWords after ++ (wrapper.words ++ (built program before).words) ++
        appendedWords after := by
  rw [built_append, after_cons, words_after]
  exact congrArg (frontWords after ++ · ++ appendedWords after) (wrapper.words_apply _)

/-- Preparing for a probe is wrapping in its tool, and nothing without a tool. -/
theorem built_wrap_ofProbe (program : String) (before after : List CommandStep) (probe : Probe) :
    built program (before ++ .wrap (.ofProbe probe) :: after) =
      match probe.tool? with
      | none => built program (before ++ after)
      | some tool => built program (before ++ .wrap (.ofTool tool) :: after) := by
  have hprobe := CommandWrapper.apply_ofProbe probe (built program before)
  rw [built_append, after_cons]
  change (CommandWrapper.apply (.ofProbe probe) (built program before)).after after = _
  rw [hprobe]
  cases probe.tool? with
  | none => exact (built_append program before after).symm
  | some tool => exact (built_append program before (.wrap (.ofTool tool) :: after)).symm

/-- A wrapper and a setting next to it can change places. -/
theorem built_wrap_adjust (program : String) (before after : List CommandStep)
    (wrapper : CommandWrapper) (setting : CommandSetting) :
    built program (before ++ .wrap wrapper :: .adjust setting :: after) =
      built program (before ++ .adjust setting :: .wrap wrapper :: after) := by
  have hcomm := wrapper.apply_comm setting (built program before)
  rw [built_append, built_append]
  exact congrArg (Command.after · after) hcomm.symm

/-- What steps build from a program. The words are those of the wrappers, from the last one to the
first, then the program, then all that was appended. Each variable has the last change made to it, and
the output is thrown away if some step says so. The line has one space between each two words.

Wherever a wrapper stands among the steps, the words that the command had before stay together right
behind the words of the wrapper, which for a tool is behind its `--`. Preparing for a probe is wrapping
in its tool, if it has one. And a wrapper can change places with a setting next to it. -/
theorem built_from_steps (program : String) :
    (∀ steps : List CommandStep,
      let command := built program steps
      let words := frontWords steps ++ program :: appendedWords steps
      command.words = words ∧
        command.environment.IsOrdered ∧
        (∀ key, command.environment.change? key = lastChange? key steps) ∧
        (command.discardsOutput = true ↔ .adjust .silence ∈ steps) ∧
        command.display = " ".intercalate words ∧
        command.display = command.program ++ String.join (command.args.map (" " ++ ·))) ∧
    ∀ before after : List CommandStep,
      (∀ wrapper : CommandWrapper,
        (built program (before ++ .wrap wrapper :: after)).words =
          frontWords after ++ (wrapper.words ++ (built program before).words) ++
            appendedWords after) ∧
      (∀ tool : CommandTool,
        (built program (before ++ .wrap (.ofTool tool) :: after)).words =
          frontWords after ++ (tool.words ++ "--" :: (built program before).words) ++
            appendedWords after) ∧
      (∀ probe : Probe,
        built program (before ++ .wrap (.ofProbe probe) :: after) =
          match probe.tool? with
          | none => built program (before ++ after)
          | some tool => built program (before ++ .wrap (.ofTool tool) :: after)) ∧
      ∀ (wrapper : CommandWrapper) (setting : CommandSetting),
        built program (before ++ .wrap wrapper :: .adjust setting :: after) =
          built program (before ++ .adjust setting :: .wrap wrapper :: after) := by
  constructor
  · intro steps command words
    have hwords : command.words = words := words_built program steps
    have hordered : command.environment.IsOrdered := by
      apply isOrdered_after
      exact List.Pairwise.nil
    refine ⟨hwords, hordered, ?_, ?_, ?_, command.display_eq⟩
    · intro key
      exact (change?_after key { program } steps).trans Option.or_none
    · exact (discardsOutput_after { program } steps).trans (by simp)
    · rw [← hwords]
      rfl
  · intro before after
    refine ⟨words_built_wrap program before after, ?_, built_wrap_ofProbe program before after,
      built_wrap_adjust program before after⟩
    intro tool
    have htool := words_built_wrap program before after (.ofTool tool)
    simpa [CommandWrapper.words] using htool

/-- A wrapper in another one, with a variable that is changed before and between them. -/
example :
    let command := built "app"
      [.arg "x", .adjust (.assign "KEY" "1"), .wrap (.ofProbe (.maxRss .linux)), .args ["y", "z"],
        .adjust (.remove "KEY"), .wrap (.ofProgram "nice" ["-n", "5"])]
    command.display = "nice -n 5 /usr/bin/time -v -- app x y z" ∧
      command.environment = [("KEY", none)] := by
  decide

end Command

end RunMeter
