import RunMeter.Files
import RunMeter.Text.Octet

/-!
# The machine

What all processes share: the files, a clock in milliseconds that only waiting moves, the outputs that
somebody collects, the inputs that are used up as they are read, and the jobs in the background.

Outputs are marked with the time at which they are written, so that a job which runs beside a process
can be played through at once and still be read in the right order (`Machine.collected`).
-/

set_option autoImplicit false

namespace RunMeter.Shell

/-- What a descriptor of a process leads to. -/
inductive Channel
  /-- An output that somebody collects. -/
  | sink (number : Nat)
  /-- An input that is used up. -/
  | source (number : Nat)
  | file (path : Path)
  | nothing
deriving DecidableEq, Repr

/-- Something written to a sink. -/
structure Writing where
  time : Nat
  sink : Nat
  /-- The job that wrote it, or zero. -/
  writer : Nat
  text : String
deriving DecidableEq, Repr

/-- An input: what is left of it, and the time at which its end is known. -/
structure Source where
  rest : List Char
  closesAt : Nat := 0
  /-- Whether more would follow for as long as anybody reads. -/
  isEndless : Bool := false
  /-- Whether it is a file, of which a reader can give back what it took too much. -/
  isFile : Bool := false
deriving DecidableEq, Repr

/-- A process in the background. -/
structure Job where
  number : Nat
  /-- When it ends, unless it outlasts the limit. -/
  finish : Option Nat
  status : Nat
  /-- The sinks that it keeps open until its end. -/
  sinks : List Nat
  /-- Whether nothing is to be said about how it ended. -/
  isAnnounced : Bool := true
deriving DecidableEq, Repr

/-- The state that all processes share. -/
structure Machine where
  files : Files := {}
  clock : Nat := 0
  /-- The time at which everything is stopped. -/
  limit : Option Nat := none
  /-- All writings to sinks, the last one first. -/
  writings : List Writing := []
  sources : List (Nat × Source) := []
  /-- The jobs, the last one first. -/
  jobs : List Job := []
  nextNumber : Nat
deriving DecidableEq

namespace Machine

/-- Takes a number that nothing else has. -/
def fresh (machine : Machine) : Nat × Machine :=
  (machine.nextNumber, { machine with nextNumber := machine.nextNumber + 1 })

/-- Opens an input. -/
def openSource (machine : Machine) (source : Source) : Nat × Machine :=
  let (number, machine) := machine.fresh
  (number, { machine with sources := (number, source) :: machine.sources })

/-- What is left of an input. -/
def source (machine : Machine) (number : Nat) : Source :=
  (machine.sources.lookup number).getD { rest := [] }

/-- Sets what is left of an input. -/
def setRest (machine : Machine) (number : Nat) (rest : List Char) : Machine :=
  { machine with
    sources := machine.sources.map fun (n, source) =>
      if n = number then (n, { source with rest }) else (n, source) }

/-- Whether a time lies before the limit. -/
def allows (machine : Machine) (time : Nat) : Bool := machine.limit.all (time < ·)

/-- What was written to a sink, in the order of time. -/
def collected (machine : Machine) (sink : Nat) : String :=
  let own := machine.writings.reverse.filter fun writing => writing.sink == sink
  let ordered := own.mergeSort fun a b => a.time ≤ b.time
  String.join (ordered.map (·.text))

/-- Forgets what was written to a sink. -/
def forget (machine : Machine) (sink : Nat) : Machine :=
  { machine with writings := machine.writings.filter fun writing => writing.sink != sink }

/-- When the last job that keeps one of these sinks open ends, or `none` if it outlasts the limit;
at the earliest at `time`. -/
def closingTime? (machine : Machine) (sinks : List Nat) (time : Nat) : Option Nat :=
  machine.jobs.foldl
    (fun latest job =>
      if job.sinks.any sinks.contains then do
        some (max (← latest) (← job.finish))
      else latest)
    (some time)

/-- Ends a job by a signal now, if it is still running. -/
def endJob (machine : Machine) (number signal : Nat) : Machine :=
  { machine with
    jobs := machine.jobs.map fun job =>
      if job.number = number && job.finish.all (machine.clock < ·) then
        { job with finish := some machine.clock, status := 128 + signal, isAnnounced := false }
      else job
    writings := machine.writings.filter fun writing =>
      writing.writer != number || writing.time ≤ machine.clock }

/-- Notes that the end of a job has been announced. -/
def announced (machine : Machine) (number : Nat) : Machine :=
  { machine with
    jobs := machine.jobs.map fun job =>
      if job.number = number then { job with isAnnounced := true } else job }

/-- Notes that nothing is to be said about the jobs that ended before a time. -/
def announcedBy (machine : Machine) (time : Nat) : Machine :=
  if machine.jobs.isEmpty then machine
  else
    { machine with
      jobs := machine.jobs.map fun job =>
        if job.finish.any (· ≤ time) then { job with isAnnounced := true } else job }

end Machine

end RunMeter.Shell
