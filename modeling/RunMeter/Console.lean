import RunMeter.Report.Document
import RunMeter.Text.Blank

/-!
# The console

Reports, errors and warnings reach the user in one of two modes. In JSON mode standard output holds
documents only and the human lines go to standard error; otherwise top-level lines of a report stand
out against the nested ones and messages begin with a coloured word.
-/

set_option autoImplicit false

namespace RunMeter

/-- The two streams of the program, as far as they are written. -/
structure Streams where
  stdout : String := ""
  stderr : String := ""
deriving DecidableEq, Repr

/-- Writes a line to standard output. -/
def Streams.print (streams : Streams) (line : String) : Streams :=
  { streams with stdout := streams.stdout ++ line ++ "\n" }

/-- Writes a line to standard error. -/
def Streams.printError (streams : Streams) (line : String) : Streams :=
  { streams with stderr := streams.stderr ++ line ++ "\n" }

/-- How the program talks to its user. -/
structure Console where
  json : Bool
  noColor : Bool
deriving DecidableEq, Repr

namespace Console

/-- A text in a style of the terminal, unless colours are off. -/
def style (console : Console) (text code : String) : String :=
  if console.noColor then text else "\x1b[" ++ code ++ "m" ++ text ++ "\x1b[0m"

/-- The document of a message. -/
def messageDocument (status text : String) : Json :=
  .ofMembers [("status", .string status), ("code", .string status), ("message", .string text)]

/-- Reports an error. -/
def error (console : Console) (text : String) (streams : Streams) : Streams :=
  if console.json then streams.print (messageDocument "error" text).render
  else streams.printError (console.style "error" "31;1" ++ " " ++ text)

/-- Reports a warning. -/
def warning (console : Console) (text : String) (streams : Streams) : Streams :=
  if console.json then streams.printError (messageDocument "warning" text).render
  else streams.printError (console.style "warn" "33;1" ++ " " ++ text)

/-- A line of a report for people. Lines that are not indented stand out. -/
def reportLine (console : Console) (line : String) : String :=
  if line.startsWith " " then line else console.style line "37;1"

/-- Prints a report. Samples that were left out are mentioned after it. -/
def output (console : Console) (report : Output) (streams : Streams) : Streams :=
  if console.json then
    let streams := report.human.foldl Streams.printError streams
    streams.print report.document.render
  else
    let text := String.join (report.human.map fun line => console.reportLine line ++ "\n")
    let streams := streams.print (String.ofList (Text.trimEnd text.toList))
    match (report.document.member "excludedSamples").natural? with
    | some (excluded + 1) =>
      console.warning
        (toString (excluded + 1) ++ " sample(s) excluded; rerun with --verbose for details") streams
    | _ => streams

end Console

end RunMeter
