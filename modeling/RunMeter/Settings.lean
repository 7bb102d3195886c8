import RunMeter.Bound.Command
import RunMeter.Json.Value
import RunMeter.Reporter
import RunMeter.Toml.Document
import RunMeter.Trace.Residence

/-!
# Settings

The settings come from a file that may leave out any of them, or be missing altogether; a file that
cannot be read or understood counts as missing, with a warning. One variable of the environment
overrides the number of repetitions. `Settings.validate` then says whether a command may run.
-/

set_option autoImplicit false

namespace RunMeter

/-- The settings of the bound search. -/
structure BoundSettings where
  initialBound : UInt64 := 10
  coarseStep : UInt64 := 10
  maxBound : UInt64 := 65536
  timeout : Duration := Duration.ofSeconds 60
  /-- The template of the argument that carries the bound. -/
  boundArg : String := "-Xmx\x7bbound\x7dM"
  /-- The variable that carries the bound instead. -/
  boundVariable : Option String := none
  unit : String := "MB"
deriving DecidableEq, Repr

/-- The settings of the program. -/
structure Settings where
  /-- The samples of a metric, and the confirmations of a bound. -/
  reps : Nat := 10
  reporter : Reporter := .pretty
  /-- The format of the `time` tool, if it is not that of the host. -/
  rssPlatform : Option RssPlatform := none
  bound : BoundSettings := {}
deriving DecidableEq, Repr

/-- The largest number of repetitions. -/
def maxReps : Nat := 2 ^ 32 - 1

/-- The variable that overrides the number of repetitions. -/
def repsVariable : String := "PROCMETRICS_REPS"

/-- What is wrong with settings. -/
inductive SettingsFault
  | noReps
  | noCoarseStep
  | noInitialBound
  | noPlaceholder (template : String)
  | badReps (raw : String) (cause : Decimal.Fault)
deriving DecidableEq, Repr

/-- The wording of a fault. -/
def SettingsFault.message : SettingsFault → String
  | .noReps => "reps must be at least 1"
  | .noCoarseStep => "minheap.coarse_step must be at least 1"
  | .noInitialBound => "minheap.initial_bound must be at least 1"
  | .noPlaceholder template =>
    "minheap.bound_arg " ++ Text.quote template ++ " has no \x7bbound\x7d placeholder"
  | .badReps raw cause =>
    repsVariable ++ "=" ++ Text.quote raw ++ " is not a count: " ++ cause.message

/-- The failure that a fault makes. -/
def SettingsFault.failure (fault : SettingsFault) : Failure :=
  { kind := .config, detail := fault.message }

namespace Settings

/-- The settings with the repetitions of the environment. -/
def override (settings : Settings) : Option String → Except SettingsFault Settings
  | none => .ok settings
  | some raw =>
    match Decimal.readUpTo maxReps (Text.trim raw.toList) with
    | .ok reps => .ok { settings with reps }
    | .error cause => .error (.badReps raw cause)

/-- The first fault of the settings. -/
def validate (settings : Settings) : Except SettingsFault Unit :=
  if settings.reps = 0 then .error .noReps
  else if settings.bound.coarseStep = 0 then .error .noCoarseStep
  else if settings.bound.initialBound = 0 then .error .noInitialBound
  else if settings.bound.boundVariable.isNone && !hasPlaceholder settings.bound.boundArg then
    .error (.noPlaceholder settings.bound.boundArg)
  else .ok ()

/-- The settings of the bound search as a document. -/
def boundDocument (bound : BoundSettings) : Json :=
  .ofMembers
    [("initial_bound", .natural bound.initialBound.toNat),
      ("coarse_step", .natural bound.coarseStep.toNat),
      ("max_bound", .natural bound.maxBound.toNat),
      ("timeout", .string bound.timeout.render),
      ("bound_arg", .string bound.boundArg),
      ("bound_env", (bound.boundVariable.map Json.string).getD .null),
      ("unit", .string bound.unit)]

/-- The settings as a document. -/
def document (settings : Settings) : Json :=
  .ofMembers
    [("reps", .natural settings.reps),
      ("reporter", .string settings.reporter.name),
      ("rss_platform", (settings.rssPlatform.map fun platform => .string platform.name).getD .null),
      ("minheap", boundDocument settings.bound)]

end Settings

/-! ## Reading a settings file -/

namespace SettingsFile

open Toml

/-- A whole number from zero to a limit. -/
def natural? (limit : Nat) : Node → Option Nat
  | .integer n => if 0 ≤ n ∧ n.toNat ≤ limit then some n.toNat else none
  | _ => none

/-- A number that fits into a 64-bit word. -/
def word? (node : Node) : Option UInt64 := (natural? maxWord node).map UInt64.ofNat

/-- A string. -/
def text? : Node → Option String
  | .string s => some s
  | _ => none

/-- A duration in its short notation. -/
def duration? (node : Node) : Option Duration := do
  let text ← text? node
  (Duration.parse text).toOption

/-- Whether a value is an empty table or array. -/
def isEmpty : Node → Bool
  | .array items => items.isEmpty
  | .table _ _ _ members => members.isEmpty
  | _ => false

/-- A choice, written as its name or as a table that holds nothing but the name with an empty
value. -/
def choice? {α : Type} (ofName? : String → Option α) : Node → Option α
  | .string name => ofName? name
  | .table _ _ _ [(name, value)] => if isEmpty value then ofName? name else none
  | _ => none

/-- A setting that may be left out. A value of the wrong type is an error all the same. -/
def setting? {α : Type} (default : α) (read? : Node → Option α) (node : Option Node) : Option α :=
  match node with
  | none => some default
  | some node => read? node

/-- The settings of the bound search, given what stands for each of them. -/
def boundOf? (initialBound coarseStep maxBound timeout boundArg boundVariable unit : Option Node) :
    Option BoundSettings := do
  let default : BoundSettings := {}
  some
    { initialBound := ← setting? default.initialBound word? initialBound
      coarseStep := ← setting? default.coarseStep word? coarseStep
      maxBound := ← setting? default.maxBound word? maxBound
      timeout := ← setting? default.timeout duration? timeout
      boundArg := ← setting? default.boundArg text? boundArg
      boundVariable := ← setting? none (fun node => (text? node).map some) boundVariable
      unit := ← setting? default.unit text? unit }

/-- The settings of the bound search: a table, or the values alone in their order. A date or time
counts as a table that names none of them. -/
def bound? : Node → Option BoundSettings
  | .table _ _ _ members =>
    boundOf? (members.lookup "initial_bound") (members.lookup "coarse_step")
      (members.lookup "max_bound") (members.lookup "timeout") (members.lookup "bound_arg")
      (members.lookup "bound_env") (members.lookup "unit")
  | .array items => boundOf? items[0]? items[1]? items[2]? items[3]? items[4]? items[5]? items[6]?
  | .tables last before =>
    -- an array whose items are tables, none of which is a value of a setting
    let items : List Node := (last :: before).map (.table false false false ·)
    boundOf? items[0]? items[1]? items[2]? items[3]? items[4]? items[5]? items[6]?
  | .moment => some {}
  | _ => none

/-- The settings that a root table holds. Keys that name no setting are passed over. -/
def ofMembers? (members : Members) : Option Settings := do
  let default : Settings := {}
  some
    { reps := ← setting? default.reps (natural? maxReps) (members.lookup "reps")
      reporter := ← setting? default.reporter (choice? Reporter.ofName?) (members.lookup "reporter")
      rssPlatform :=
        ← setting? none (fun node => (choice? RssPlatform.ofName? node).map some)
            (members.lookup "rss_platform")
      bound := ← setting? default.bound bound? (members.lookup "minheap") }

/-- What a settings file was worth. -/
inductive Warning
  | notUnderstood
  | notReadable
deriving DecidableEq, Repr

/-- The words that a warning begins with. -/
def Warning.message : Warning → String
  | .notUnderstood => "failed to parse config"
  | .notReadable => "failed to read config"

/-- The settings of a file, with a warning if it is there and of no use. -/
def load (files : Files) (name : String) : Settings × Option Warning :=
  match files.readText name with
  | .ok text =>
    match Toml.parse? text with
    | none => ({}, some .notUnderstood)
    | some members =>
      match ofMembers? members with
      | some settings => (settings, none)
      | none => ({}, some .notUnderstood)
  | .error .notFound => ({}, none)
  | .error _ => ({}, some .notReadable)

end SettingsFile

end RunMeter
