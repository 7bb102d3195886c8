/-!
# Regular expressions

What a regular expression is and where it is found in a text. Of all places where it fits, the one
that begins first counts, and of those the longest; inside it, earlier parts take as much as they can.

Without references back to groups, the ends of all matches from a set of starts are computed part by
part (`Regex.ends`), so the search never tries the same thing twice. The groups of a match are found
afterwards, when its end is known. With such references all ways to match are gone through.
-/

set_option autoImplicit false

namespace RunMeter.Shell

/-- A place between characters. -/
inductive Border
  | textStart
  | textEnd
  | wordStart
  | wordEnd
  /-- The start or the end of a word. -/
  | wordBorder
  | noBorder
  | lineStart
  | lineEnd
  /-- No word ends here, though one may begin. -/
  | notAfterWord
  /-- No word begins here, though one may end. -/
  | notBeforeWord
deriving DecidableEq, Repr

/-- A regular expression. -/
inductive Regex
  | empty
  /-- A character that lies in one of the ranges, or in none of them. -/
  | one (isNegated : Bool) (ranges : List (Char × Char))
  | border (border : Border)
  | seq (first second : Regex)
  | either (first second : Regex)
  /-- A repetition, at least and at most so often. -/
  | many (inner : Regex) (least : Nat) (most : Option Nat)
  | group (number : Nat) (inner : Regex)
  /-- The same text as a group before. -/
  | again (number : Nat)
deriving Repr, Inhabited

/-- The groups of a match: number, start and end. The last one of a number counts. -/
abbrev Groups := List (Nat × Nat × Nat)

/-- Where a regular expression was found. -/
structure Found where
  start : Nat
  stop : Nat
  groups : Groups := []
deriving DecidableEq, Repr

namespace Regex

/-- Whether a character fits. -/
def fits (isNegated : Bool) (ranges : List (Char × Char)) (c : Char) : Bool :=
  (ranges.any fun (low, high) => low ≤ c && c ≤ high) != isNegated

/-- Whether a character is part of a word. -/
def isWordCharacter (c : Char) : Bool := c.isAlphanum || c == '_'

/-- Whether a place in a text is a border of the given kind. -/
def isAt (text : Array Char) (position : Nat) (border : Border) : Bool :=
  let before := position > 0 && (text[position - 1]?).any isWordCharacter
  let after := (text[position]?).any isWordCharacter
  match border with
  | .textStart => position == 0
  | .textEnd => position == text.size
  | .wordStart => !before && after
  | .wordEnd => before && !after
  | .wordBorder => before != after
  | .noBorder => before == after
  | .lineStart => position == 0 || text[position - 1]? == some '\n'
  | .lineEnd => position == text.size || text[position]? == some '\n'
  | .notAfterWord => !before
  | .notBeforeWord => !after

/-- Two falling rows of numbers as one. -/
def union : List Nat → List Nat → List Nat
  | [], b => b
  | a, [] => a
  | x :: a, y :: b =>
    if x = y then x :: union a b
    else if y < x then x :: union a (y :: b)
    else y :: union (x :: a) b
termination_by a b => a.length + b.length

/-- The numbers of a falling row that are not in another one. -/
def without : List Nat → List Nat → List Nat
  | [], _ => []
  | a, [] => a
  | x :: a, y :: b =>
    if x = y then without a b
    else if y < x then x :: without a (y :: b)
    else without (x :: a) b
termination_by a b => a.length + b.length

/-- All places that some steps lead to from `seen`, of which `frontier` are new. -/
def closure (step : List Nat → List Nat) : (fuel : Nat) → (seen frontier : List Nat) → List Nat
  | 0, seen, _ => seen
  | fuel + 1, seen, frontier =>
    match without (step frontier) seen with
    | [] => seen
    | fresh => closure step fuel (union seen fresh) fresh

/-- Applies a step a number of times. -/
def iterate (step : List Nat → List Nat) : Nat → List Nat → List Nat
  | 0, places => places
  | count + 1, places => iterate step count (step places)

/-- All places that at most so many steps lead to. -/
def atMost (step : List Nat → List Nat) : Nat → List Nat → List Nat
  | 0, places => places
  | count + 1, places =>
    match step places with
    | [] => places
    | next => union places (atMost step count next)

/-- The place behind the run of fitting characters at a place. `fuel` is the length of the text. -/
def runEnd (text : Array Char) (fit : Char → Bool) : (fuel : Nat) → Nat → Nat
  | 0, position => position
  | fuel + 1, position =>
    match text[position]? with
    | some c => if fit c then runEnd text fit fuel (position + 1) else position
    | none => position

/-- The numbers from `high` down to `low`. -/
def falling (low high : Nat) : List Nat := (List.range' low (high + 1 - low)).reverse

/-- The ends of all matches that begin at one of some places, the last one first. -/
def ends (text : Array Char) : Regex → List Nat → List Nat
  | .empty, starts => starts
  | .one isNegated ranges, starts =>
    starts.filterMap fun position =>
      match text[position]? with
      | some c => if fits isNegated ranges c then some (position + 1) else none
      | none => none
  | .border kind, starts => starts.filter fun position => isAt text position kind
  | .seq first second, starts =>
    match ends text first starts with
    | [] => []
    | middle => ends text second middle
  | .either first second, starts => union (ends text first starts) (ends text second starts)
  | .many (.one isNegated ranges) least none, starts =>
    let fit := fits isNegated ranges
    let starts := iterate (fun places => places.filterMap fun position =>
      match text[position]? with
      | some c => if fit c then some (position + 1) else none
      | none => none) least starts
    -- every start reaches the end of its own run
    starts.reverse.foldl
      (fun reached position =>
        if reached.head?.any (position ≤ ·) then reached
        else falling position (runEnd text fit text.size position) ++ reached)
      []
  | .many inner least most, starts =>
    let step := ends text inner
    let first := iterate step least starts
    match most with
    | none => closure step (text.size + 1) first first
    | some most => atMost step (most - least) first
  | .group _ inner, starts => ends text inner starts
  | .again _, starts => starts

/-- Whether an expression refers back to a group. -/
def refersBack : Regex → Bool
  | .seq first second => refersBack first || refersBack second
  | .either first second => refersBack first || refersBack second
  | .many inner _ _ => refersBack inner
  | .group _ inner => refersBack inner
  | .again _ => true
  | _ => false

/-- The expression for the rounds of a repetition that are left after one. -/
def afterRound (inner : Regex) (least : Nat) (most : Option Nat) : Regex :=
  .many inner (least - 1) (most.map (· - 1))

/-- The groups of a match whose start and end are known. `fuel` is more than the length of the text
and the number of parts together. -/
def groupsOf (text : Array Char) : (fuel : Nat) → Regex → (start stop : Nat) → Groups
  | 0, _, _, _ => []
  | fuel + 1, regex, start, stop =>
    match regex with
    | .group number inner => groupsOf text fuel inner start stop ++ [(number, start, stop)]
    | .seq first second =>
      match (ends text first [start]).find? fun middle => (ends text second [middle]).contains stop with
      | some middle => groupsOf text fuel first start middle ++ groupsOf text fuel second middle stop
      | none => []
    | .either first second =>
      if (ends text first [start]).contains stop then groupsOf text fuel first start stop
      else groupsOf text fuel second start stop
    | .many inner least most =>
      if start = stop && least = 0 && most != some 0 then
        if (ends text inner [start]).contains stop then groupsOf text fuel inner start stop else []
      else
        let rest := afterRound inner least most
        match (ends text inner [start]).find? fun middle =>
          (start < middle || least > 0) && (ends text rest [middle]).contains stop with
        | some middle =>
          let here := groupsOf text fuel inner start middle
          if middle = stop && least ≤ 1 then here
          else
            let later := groupsOf text fuel rest middle stop
            here ++ later
        | none => []
    | _ => []

/-- A place in a text with the groups so far, the last one first. -/
abbrev Attempt := Nat × Groups

/-- All ways to match from a place, the preferred ones first. -/
def attempts (text : Array Char) : (fuel : Nat) → Regex → Attempt → List Attempt
  | 0, _, _ => []
  | fuel + 1, regex, (position, groups) =>
    match regex with
    | .empty => [(position, groups)]
    | .one isNegated ranges =>
      match text[position]? with
      | some c => if fits isNegated ranges c then [(position + 1, groups)] else []
      | none => []
    | .border kind => if isAt text position kind then [(position, groups)] else []
    | .seq first second =>
      (attempts text fuel first (position, groups)).flatMap (attempts text fuel second)
    | .either first second =>
      attempts text fuel first (position, groups) ++ attempts text fuel second (position, groups)
    | .group number inner =>
      (attempts text fuel inner (position, groups)).map fun (stop, groups) =>
        (stop, (number, position, stop) :: groups)
    | .again number =>
      match groups.lookup number with
      | none => []
      | some (start, stop) =>
        let length := stop - start
        if (text.extract start stop) == (text.extract position (position + length)) then
          [(position + length, groups)]
        else []
    | .many inner least most =>
      let rounds := if most == some 0 then []
        else (attempts text fuel inner (position, groups)).filter fun (stop, _) =>
          position < stop || least > 0
      let further := rounds.flatMap (attempts text fuel (afterRound inner least most))
      if least = 0 then further ++ [(position, groups)] else further

/-- How deep a search with references back may go. -/
def attemptDepth (text : Array Char) : Nat := 4 * text.size + 200

/-- The longest match that begins at a place. -/
def matchAt (regex : Regex) (refers : Bool) (text : Array Char) (start : Nat) : Option Found :=
  if refers then
    let ways := attempts text (attemptDepth text) regex (start, [])
    let longest := ways.foldl (fun stop way => max stop way.1) 0
    (ways.find? fun way => way.1 == longest).map fun (stop, groups) =>
      { start, stop, groups := groups.reverse }
  else
    match ends text regex [start] with
    | [] => none
    | stop :: _ => some { start, stop }

/-- Looks for a match from `start` on, `fuel` places at most. -/
def searchFrom (regex : Regex) (refers : Bool) (text : Array Char) :
    (fuel : Nat) → (start : Nat) → Option Found
  | 0, _ => none
  | fuel + 1, start =>
    match regex.matchAt refers text start with
    | some found => some found
    | none => searchFrom regex refers text fuel (start + 1)

/-- The first place from `start` on where an expression fits, without its groups. -/
def find? (regex : Regex) (text : Array Char) (start : Nat) : Option Found :=
  regex.searchFrom regex.refersBack text (text.size + 1 - start) start

/-- The number of groups of an expression. -/
def groupCount : Regex → Nat
  | .seq first second => groupCount first + groupCount second
  | .either first second => groupCount first + groupCount second
  | .many inner _ _ => groupCount inner
  | .group _ inner => groupCount inner + 1
  | _ => 0

/-- The number of parts of an expression. -/
def size : Regex → Nat
  | .seq first second => size first + size second + 1
  | .either first second => size first + size second + 1
  | .many inner _ _ => size inner + 1
  | .group _ inner => size inner + 1
  | _ => 1

/-- The first place from `start` on where an expression fits, with its groups. -/
def search? (regex : Regex) (text : Array Char) (start : Nat) : Option Found :=
  (regex.find? text start).map fun found =>
    if regex.refersBack then found
    else
      { found with
        groups := groupsOf text (2 * text.size + 4 * regex.size + 16) regex found.start found.stop }

/-- Whether an expression fits somewhere in a text. -/
def occursIn (regex : Regex) (text : String) : Bool :=
  (regex.find? text.toList.toArray 0).isSome

/-- The expression for a text that stands for itself. -/
def ofText (ignoresCase : Bool) (text : List Char) : Regex :=
  let one (c : Char) : Regex :=
    if ignoresCase && c.isAlpha then .one false [(c.toLower, c.toLower), (c.toUpper, c.toUpper)]
    else .one false [(c, c)]
  match text with
  | [] => .empty
  | [c] => one c
  | c :: rest => .seq (one c) (ofText ignoresCase rest)

end Regex

/-- The place of a group of a match; the whole match is group zero. -/
def Found.group? (found : Found) (number : Nat) : Option (Nat × Nat) :=
  if number = 0 then some (found.start, found.stop)
  else (found.groups.reverse.lookup number)

end RunMeter.Shell
