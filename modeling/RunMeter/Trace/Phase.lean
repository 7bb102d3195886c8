import RunMeter.Duration
import RunMeter.Text.Lines
import RunMeter.Trace.Marker

/-!
# Phases of a run

The markers of a trace nest: a counter of open regions gives each region its depth, and a region is
known by its name and depth. `PhaseTable` holds one slot for each such pair, in the order in which
they first occur. Regions named `run` also get an entry for the time that their direct children do
not account for, and a closed top-level region `main` gives an entry for the time outside it.

`Phases.parse` reads a whole trace. Regions that are still open at its end are left out.
-/

set_option autoImplicit false

namespace RunMeter

open RunMeter.Text

/-- The region whose direct children are weighed against its own duration. -/
def runRegion : String := "run"

/-- The top-level region outside of which only the launcher runs. -/
def mainRegion : String := "main"

/-- The entry for the whole wall time. -/
def totalEntry : String := "total"

/-- The entry for the launcher. -/
def launcherEntry : String := "jvm"

/-- The entry for the time that direct children leave over. -/
def unaccountedEntry : String := "unaccounted"

/-- One timed region: total time has depth 0, top-level regions depth 1, and so on. -/
structure PhaseEntry where
  name : String
  depth : Nat
  seconds : Float
deriving Repr

/-- A region is open since some time, or closed with a duration. -/
inductive SlotState
  | opened (start : Float)
  | closed (seconds : Float)
deriving Repr

/-- The slot of one region. -/
structure Slot where
  name : String
  depth : Nat
  state : SlotState
deriving Repr

/-- How a trace breaks the rules. -/
inductive PhaseViolation
  | badTime (line : String)
  | duplicate (name : String) (depth : Nat)
  | unmatched (name : String) (depth : Nat)
deriving DecidableEq, Repr

/-- The wording of a violation. -/
def PhaseViolation.message : PhaseViolation → String
  | .badTime line => "bad timestamp in " ++ quote line ++ ": " ++ Decimal.Fault.invalidReal.message
  | .duplicate name depth =>
    "before-" ++ name ++ " at depth " ++ toString depth ++ " duplicates an existing region"
  | .unmatched name depth =>
    "after-" ++ name ++ " at depth " ++ toString depth ++ " without matching before-" ++ name

/-- The slots of a trace in the order of their first occurrence. -/
abbrev PhaseTable := List Slot

namespace PhaseTable

/-- Whether a slot belongs to a region. -/
def isFor (depth : Nat) (name : String) (slot : Slot) : Bool :=
  slot.depth == depth && slot.name == name

/-- The slot of a region, if there is one. -/
def slot? (table : PhaseTable) (depth : Nat) (name : String) : Option Slot :=
  table.find? (isFor depth name)

/-- Puts the slot of a region into another state. -/
def update (depth : Nat) (name : String) (state : SlotState) : PhaseTable → PhaseTable
  | [] => []
  | slot :: rest =>
    if isFor depth name slot then { slot with state } :: rest
    else slot :: update depth name state rest

/-- Opens a region that has no slot yet. -/
def openRegion (table : PhaseTable) (depth : Nat) (name : String) (start : Float) :
    Except PhaseViolation PhaseTable :=
  match table.slot? depth name with
  | some _ => .error (.duplicate name depth)
  | none => .ok (table ++ [{ name, depth, state := .opened start }])

/-- Closes an open region and returns its duration. -/
def closeRegion (table : PhaseTable) (depth : Nat) (name : String) (finish : Float) :
    Except PhaseViolation (PhaseTable × Float) :=
  match table.slot? depth name with
  | some { state := .opened start, .. } =>
    let elapsed := finish - start
    .ok (update depth name (.closed elapsed) table, elapsed)
  | _ => .error (.unmatched name depth)

/-- Sets the duration of a region, opened or not. -/
def record (table : PhaseTable) (depth : Nat) (name : String) (seconds : Float) : PhaseTable :=
  match table.slot? depth name with
  | some _ => update depth name (.closed seconds) table
  | none => table ++ [{ name, depth, state := .closed seconds }]

/-- The duration of a closed region. -/
def closed? (table : PhaseTable) (depth : Nat) (name : String) : Option Float :=
  match table.slot? depth name with
  | some { state := .closed seconds, .. } => some seconds
  | _ => none

/-- The closed regions in the order of their slots. -/
def entries (table : PhaseTable) : List PhaseEntry :=
  table.filterMap fun slot =>
    match slot.state with
    | .closed seconds => some { name := slot.name, depth := slot.depth, seconds }
    | .opened _ => none

end PhaseTable

/-- A trace read up to some line. -/
structure PhaseState where
  table : PhaseTable := []
  /-- How many regions are open. -/
  depth : Nat := 0
  /-- The depth of the `run` region opened last. -/
  runDepth : Option Nat := none
  /-- The time of the regions right below that `run` region, added up in closing order. -/
  accounted : Float := 0.0
deriving Repr

namespace PhaseState

/-- Opens a region one level deeper. -/
def enter (state : PhaseState) (name : String) (time : Float) :
    Except PhaseViolation PhaseState :=
  let depth := state.depth + 1
  match state.table.openRegion depth name time with
  | .error violation => .error violation
  | .ok table =>
    if name = runRegion then .ok { table, depth, runDepth := some depth, accounted := 0.0 }
    else .ok { state with table, depth }

/-- Closes the region at the current depth. -/
def leave (state : PhaseState) (name : String) (time : Float) :
    Except PhaseViolation PhaseState :=
  match state.table.closeRegion state.depth name time with
  | .error violation => .error violation
  | .ok (table, elapsed) =>
    let depth := state.depth - 1
    if state.runDepth.any fun runDepth => state.depth == runDepth + 1 then
      .ok { state with table, depth, accounted := state.accounted + elapsed }
    else if name = runRegion then
      let rest := elapsed - state.accounted
      .ok { state with table := table.record (state.depth + 1) unaccountedEntry rest, depth }
    else .ok { state with table, depth }

/-- Follows one marker. -/
def follow (state : PhaseState) (time : Float) : Option Marker → Except PhaseViolation PhaseState
  | some (.before name) => state.enter name time
  | some (.after name) => state.leave name time
  | none => .ok state

/-- Reads one line. -/
def readLine (state : PhaseState) (line : List Char) : Except PhaseViolation PhaseState :=
  match TimedLine.ofLine? line with
  | none => .ok state
  | some timed =>
    match Binary64.readPlain timed.time with
    | .error _ => .error (.badTime (String.ofList line))
    | .ok time => state.follow time (Marker.ofText? timed.text)

/-- Reads lines one after another. -/
def readLines (state : PhaseState) : List (List Char) → Except PhaseViolation PhaseState
  | [] => .ok state
  | line :: rest =>
    match state.readLine line with
    | .error violation => .error violation
    | .ok next => next.readLines rest

end PhaseState

namespace Phases

/-- The entries of a trace: the whole wall time, the time outside `main`, and the closed regions. -/
def ofState (state : PhaseState) (wall : Duration) : List PhaseEntry :=
  let total := wall.toSeconds
  let launcher := match state.table.closed? 1 mainRegion with
    | some seconds => [{ name := launcherEntry, depth := 1, seconds := total - seconds }]
    | none => []
  { name := totalEntry, depth := 0, seconds := total } :: launcher ++ state.table.entries

/-- Reads a trace, given the wall time of the run. -/
def parse (trace : List Char) (wall : Duration) : Except PhaseViolation (List PhaseEntry) :=
  match PhaseState.readLines {} (lines trace) with
  | .error violation => .error violation
  | .ok state => .ok (ofState state wall)

/-- The time of the first entry with the given name and depth. -/
def seconds? (entries : List PhaseEntry) (name : String) (depth : Nat) : Option Float :=
  (entries.find? fun entry => entry.name == name && entry.depth == depth).map (·.seconds)

end Phases

end RunMeter
