import RunMeter.Shell.Pattern
import RunMeter.Shell.Process

/-!
# Fields

What the expansion of a word yields is a row of pieces. A row becomes fields by being split where an
expansion that was not quoted has left separators, and every field that is a pattern becomes the
names of the files that fit it, if there are any.
-/

set_option autoImplicit false

namespace RunMeter.Shell

/-- A piece of an expanded word. -/
inductive Piece
  /-- A character, whether it stands for itself in any case, and whether fields may be split at
  it. -/
  | mark (c : Char) (isQuoted splits : Bool)
  /-- The border between two arguments. -/
  | edge
  /-- Something that is there though it has no characters. -/
  | presence
  /-- All arguments where there are none. -/
  | absence
deriving DecidableEq, Repr

namespace Piece

/-- The pieces of a text that stands for itself. -/
def quoted (text : String) : List Piece :=
  .presence :: text.toList.map fun c => .mark c true false

/-- The pieces of what an expansion has left. -/
def loose (text : String) : List Piece := text.toList.map fun c => .mark c false true

/-- The pieces of a text, quoted or left by an expansion. -/
def ofText (isQuoted : Bool) (text : String) : List Piece :=
  if isQuoted then quoted text else loose text

/-- The same piece as part of an expansion. -/
def loosened : Piece → Piece
  | .mark c false _ => .mark c false true
  | other => other

/-- The characters of a row that is not split. -/
def marks (pieces : List Piece) : List Mark :=
  pieces.filterMap fun piece =>
    match piece with
    | .mark c isQuoted _ => some (c, isQuoted)
    | .edge => some (' ', true)
    | .presence => none
    | .absence => none

/-- The text of a row that is not split. -/
def text (pieces : List Piece) : String := String.ofList ((marks pieces).map (·.1))

/-- A row while it is being split: the fields that are complete, in reverse, the one that has begun,
and whether blanks have just ended one. -/
structure Splitting where
  complete : List (List Mark) := []
  current : Option (List Mark) := none
  afterBlanks : Bool := false

/-- Completes the field that has begun. -/
def Splitting.finish (splitting : Splitting) : Splitting :=
  match splitting.current with
  | none => splitting
  | some marks => { complete := marks.reverse :: splitting.complete }

/-- Takes one more piece. -/
def Splitting.take (separators : List Char) (splitting : Splitting) : Piece → Splitting
  | .presence => { splitting with current := some (splitting.current.getD []), afterBlanks := false }
  | .absence => splitting
  | .edge => splitting.finish
  | .mark c isQuoted splits =>
    if splits && separators.contains c then
      if c == ' ' || c == '\t' || c == '\n' then
        if splitting.current.isSome then { splitting.finish with afterBlanks := true } else splitting
      else if splitting.current.isSome then splitting.finish
      else if splitting.afterBlanks then { splitting with afterBlanks := false }
      else { splitting with complete := [] :: splitting.complete }
    else
      { splitting with
        current := some ((c, isQuoted) :: splitting.current.getD [])
        afterBlanks := false }

/-- The fields of a row. -/
def split (separators : List Char) (pieces : List Piece) : List (List Mark) :=
  let fields := (pieces.foldl (Splitting.take separators) {}).finish.complete.reverse
  if fields == [[]] && pieces.contains .absence then [] else fields

end Piece

namespace Field

/-- The marks between slashes. -/
def steps (marks : List Mark) : List (List Mark) :=
  match marks with
  | [] => [[]]
  | (c, isQuoted) :: rest =>
    match steps rest with
    | [] => [[(c, isQuoted)]]
    | first :: others =>
      if c == '/' then [] :: first :: others else ((c, isQuoted) :: first) :: others

/-- The text of marks. -/
def text (marks : List Mark) : String := String.ofList (marks.map (·.1))

/-- The names of what lies in a directory, in order; the first two are those of the directory itself
and of the one above. -/
def namesIn (files : Files) (directory : Path) : List String :=
  match files.lookup? directory with
  | some (.directory _) =>
    let names := files.entries.filterMap fun (path, _) =>
      if path.dropLast = directory then path.getLast? else none
    "." :: ".." :: names.mergeSort fun a b => a ≤ b
  | _ => []

/-- Whether a name fits a step. Names that begin with a point have to be asked for. -/
def fitsName (findsHidden : Bool) (step : List Mark) (name : String) : Bool :=
  let octets := Text.octets name
  (Pattern.ofMarks step).accepts octets.toList &&
    (!octets.startsWith "." || (step.head?.any fun (c, _) => c == '.') ||
      (findsHidden && name != "." && name != ".."))

/-- The names, each begun by one of `starts`, that lead along the steps. -/
def follow (run : Run) (starts : List String) : List (List Mark) → List String
  | [] => starts
  | step :: rest =>
    let close (names : List String) : List String :=
      if rest.isEmpty then names else names.map (· ++ "/")
    if (Pattern.ofMarks step).isProper then
      let next := starts.flatMap fun start =>
        match run.locate (if start.isEmpty then "." else start) with
        | .error _ => []
        | .ok path =>
          ((namesIn run.machine.files path).filter (fitsName (run.process.isOn "dotglob") step)).map fun name =>
            start ++ Text.octets name
      follow run (close next) rest
    else follow run (close (starts.map (· ++ text step))) rest

/-- The texts that a field stands for. -/
def expand (run : Run) (marks : List Mark) : List String :=
  if (Pattern.ofMarks marks).isProper then
    match (follow run [""] (steps marks)).filter fun name => run.asksFile "-e" name || run.asksFile "-L" name with
    | [] => if run.process.isOn "nullglob" then [] else [text marks]
    | names => names
  else [text marks]

end Field

end RunMeter.Shell
