/-!
# Progress

A long run shows a mark per step: on a terminal one glyph after another on a single line, elsewhere
a full line each. The glyph line is ended once, when the steps are finished or the display is closed.
A sink that refuses every write makes no difference to the run.
-/

set_option autoImplicit false

namespace RunMeter

/-- A progress display and what it has written. -/
structure Progress where
  isTerminal : Bool
  /-- Whether the sink takes what is written. -/
  acceptsText : Bool := true
  /-- Whether a line of glyphs waits for its end. -/
  isPending : Bool := false
  written : String := ""
deriving DecidableEq, Repr

namespace Progress

/-- Writes a text, if the sink takes it. -/
def write (progress : Progress) (text : String) : Progress :=
  if progress.acceptsText then { progress with written := progress.written ++ text } else progress

/-- Shows one step. -/
def step (progress : Progress) (glyph line : String) : Progress :=
  if progress.isTerminal then { progress with isPending := true }.write glyph
  else progress.write (line ++ "\n")

/-- Ends the line of glyphs, if one was started. -/
def finish (progress : Progress) : Progress :=
  if progress.isPending then { progress with isPending := false }.write "\n" else progress

/-- What has been written once the display is closed. -/
def closed (progress : Progress) : String := progress.finish.written

end Progress

end RunMeter
