import RunMeter.Number.Binary64
import RunMeter.Text.Digit
import RunMeter.Text.Match
import RunMeter.Text.Quoted

/-!
# Phase markers

A line `before-<name> <seconds>` opens a region and a line `after-<name> <seconds>` closes it. The
seconds stand after the last blank and are digits on both sides of a point. Every line of this shape
has its time read, whatever stands before the blank; a line of any other shape is none of ours.
-/

set_option autoImplicit false

namespace RunMeter

open RunMeter.Text

/-- A line of the shape `<text> <digits>.<digits>`, in its two parts. -/
structure TimedLine where
  text : List Char
  time : List Char
deriving DecidableEq, Repr

/-- Whether a text is digits, a point and digits. -/
def isTime (text : List Char) : Bool :=
  match text.dropWhile isDecimalDigit with
  | '.' :: fraction =>
    !(text.takeWhile isDecimalDigit).isEmpty && !fraction.isEmpty && fraction.all isDecimalDigit
  | _ => false

/-- The parts of a timed line. -/
def TimedLine.ofLine? (line : List Char) : Option TimedLine :=
  let reversedTime := line.reverse.takeWhile (· != ' ')
  match line.reverse.dropWhile (· != ' ') with
  | ' ' :: reversedText =>
    let time := reversedTime.reverse
    if !reversedText.isEmpty && isTime time then some ⟨reversedText.reverse, time⟩ else none
  | _ => none

/-- What a timed line announces. -/
inductive Marker
  | before (name : String)
  | after (name : String)
deriving DecidableEq, Repr

/-- The marker that a timed line begins with, if it is one. -/
def Marker.ofText? (text : List Char) : Option Marker :=
  match after? "before-".toList text with
  | some name => some (.before (String.ofList name))
  | none => (after? "after-".toList text).map fun name => .after (String.ofList name)

end RunMeter
