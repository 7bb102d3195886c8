/-!
# Patterns

A pattern is a row of parts, each of which stands for one character or for any text. `Pattern.accepts`
says whether a whole text fits; the cuts remove the shortest or longest fitting piece from one end.
-/

set_option autoImplicit false

namespace RunMeter.Shell

/-- A part of a pattern. -/
inductive PatternPart
  | exactly (c : Char)
  | anyOne
  | anyText
  /-- A character that lies in one of the ranges, or in none of them. -/
  | oneOf (isNegated : Bool) (ranges : List (Char × Char))
deriving DecidableEq, Repr

/-- A row of parts. -/
abbrev Pattern := List PatternPart

/-- A character of a text to be matched, and whether it stands for itself in any case. -/
abbrev Mark := Char × Bool

namespace Pattern

/-- Whether one character fits a part. -/
def fits (c : Char) : PatternPart → Bool
  | .exactly d => c == d
  | .anyOne => true
  | .anyText => false
  | .oneOf isNegated ranges =>
    (ranges.any fun (low, high) => low ≤ c && c ≤ high) != isNegated

/-- Whether a whole text fits. -/
def accepts : Pattern → List Char → Bool
  | [], [] => true
  | [], _ :: _ => false
  | .anyText :: rest, [] => accepts rest []
  | .anyText :: rest, c :: text => accepts rest (c :: text) || accepts (.anyText :: rest) text
  | _ :: _, [] => false
  | part :: rest, c :: text => fits c part && accepts rest text
termination_by pattern text => pattern.length + text.length

/-- The ranges with a name. -/
def classRanges? (name : String) : Option (List (Char × Char)) :=
  match name with
  | "digit" => some [('0', '9')]
  | "lower" => some [('a', 'z')]
  | "upper" => some [('A', 'Z')]
  | "alpha" => some [('a', 'z'), ('A', 'Z')]
  | "alnum" => some [('a', 'z'), ('A', 'Z'), ('0', '9')]
  | "space" => some [('\t', '\r'), (' ', ' ')]
  | "blank" => some [('\t', '\t'), (' ', ' ')]
  | "xdigit" => some [('a', 'f'), ('A', 'F'), ('0', '9')]
  | "punct" => some [('!', '/'), (':', '@'), ('[', '\x60'), ('\x7b', '~')]
  | _ => none

/-- The ranges up to the closing bracket, and what follows it. `isFirst` is true where a closing
bracket still stands for itself. -/
def ranges? : (fuel : Nat) → (isFirst : Bool) → List Mark →
    Option (List (Char × Char) × List Mark)
  | 0, _, _ => none
  | fuel + 1, isFirst, marks =>
    match marks with
    | [] => none
    | (c, isQuoted) :: rest =>
      if c == ']' && !isQuoted && !isFirst then some ([], rest)
      else
        let named : Option (List (Char × Char) × List Mark) :=
          match rest with
          | (':', false) :: more =>
            if c == '[' && !isQuoted then
              let name := more.takeWhile fun (d, _) => d.isLower
              match more.drop name.length, classRanges? (String.ofList (name.map (·.1))) with
              | (':', false) :: (']', false) :: after, some ranges => some (ranges, after)
              | _, _ => none
            else none
          | _ => none
        match named with
        | some (ranges, after) => (ranges? fuel false after).map fun (more, end') =>
          (ranges ++ more, end')
        | none =>
          match rest with
          | ('-', false) :: (high, highQuoted) :: after =>
            if high == ']' && !highQuoted then
              (ranges? fuel false rest).map fun (more, end') => ((c, c) :: more, end')
            else (ranges? fuel false after).map fun (more, end') => ((c, high) :: more, end')
          | _ => (ranges? fuel false rest).map fun (more, end') => ((c, c) :: more, end')

/-- The pattern that marked characters make. `fuel` is at least their number. -/
def ofMarksWithin : (fuel : Nat) → List Mark → Pattern
  | 0, _ => []
  | _, [] => []
  | fuel + 1, (c, true) :: rest => .exactly c :: ofMarksWithin fuel rest
  | fuel + 1, ('*', false) :: rest => .anyText :: ofMarksWithin fuel rest
  | fuel + 1, ('?', false) :: rest => .anyOne :: ofMarksWithin fuel rest
  | fuel + 1, ('\\', false) :: (c, _) :: rest => .exactly c :: ofMarksWithin fuel rest
  | fuel + 1, ('[', false) :: rest =>
    let isNegated := match rest with
      | ('!', false) :: _ => true
      | ('^', false) :: _ => true
      | _ => false
    match ranges? fuel true (if isNegated then rest.drop 1 else rest) with
    | some (ranges, after) => .oneOf isNegated ranges :: ofMarksWithin fuel after
    | none => .exactly '[' :: ofMarksWithin fuel rest
  | fuel + 1, (c, false) :: rest => .exactly c :: ofMarksWithin fuel rest

/-- The pattern that marked characters make. -/
def ofMarks (marks : List Mark) : Pattern := ofMarksWithin (marks.length + 1) marks

/-- Whether a pattern stands for anything but one text. -/
def isProper (pattern : Pattern) : Bool :=
  pattern.any fun part =>
    match part with
    | .exactly _ => false
    | _ => true

/-- The text without the piece at its front that fits: the shortest one, or the longest. -/
def cutFront (pattern : Pattern) (isLongest : Bool) (text : List Char) : List Char :=
  let lengths := List.range (text.length + 1)
  let lengths := if isLongest then lengths.reverse else lengths
  match lengths.find? fun length => pattern.accepts (text.take length) with
  | some length => text.drop length
  | none => text

/-- The text without the piece at its back that fits: the shortest one, or the longest. -/
def cutBack (pattern : Pattern) (isLongest : Bool) (text : List Char) : List Char :=
  let starts := List.range (text.length + 1)
  let starts := if isLongest then starts else starts.reverse
  match starts.find? fun start => pattern.accepts (text.drop start) with
  | some start => text.take start
  | none => text

/-- The length of the longest piece at the front of a text that fits. -/
def longest? (pattern : Pattern) (text : List Char) : Option Nat :=
  (List.range (text.length + 1)).reverse.find? fun length => pattern.accepts (text.take length)

/-- A text with the pieces that fit replaced by what `put` makes of them: the first one or all of them.
`fuel` is more than the length of the text. -/
def replaceWithin (pattern : Pattern) (put : List Char → List Char) (isEvery : Bool) :
    (fuel : Nat) → List Char → List Char
  | 0, text => text
  | _, [] => []
  | fuel + 1, c :: text =>
    match pattern.longest? (c :: text) with
    | some (n + 1) =>
      let rest := (c :: text).drop (n + 1)
      put ((c :: text).take (n + 1)) ++
        if isEvery then replaceWithin pattern put isEvery fuel rest else rest
    | _ => c :: replaceWithin pattern put isEvery fuel text

end Pattern

end RunMeter.Shell
