import RunMeter.Shell.Print
import RunMeter.Shell.Tool.Basic

/-!
# Translating characters

`tr` replaces, deletes or squeezes the characters of sets. A set is written as single characters,
escapes, ranges, named classes and repetitions.
-/

set_option autoImplicit false

namespace RunMeter.Shell.Tool

/-- A part of a set of characters. -/
inductive SetPart
  | one (c : Char)
  | range (first last : Char)
  | named (name : String)
  /-- A character repeated; with no count, up to the length of the other set. -/
  | repeated (c : Char) (count : Option Nat)
deriving DecidableEq, Repr

/-- Whether a character belongs to a named class. -/
def inClass? (name : String) (c : Char) : Option Bool :=
  match name with
  | "alnum" => some c.isAlphanum
  | "alpha" => some c.isAlpha
  | "blank" => some (c == ' ' || c == '\t')
  | "cntrl" => some (c.toNat < 32 || c.toNat = 127)
  | "digit" => some c.isDigit
  | "graph" => some ('!' ≤ c && c ≤ '~')
  | "lower" => some c.isLower
  | "print" => some (' ' ≤ c && c ≤ '~')
  | "punct" => some ('!' ≤ c && c ≤ '~' && !c.isAlphanum)
  | "space" => some (c == ' ' || ('\t' ≤ c && c ≤ '\r'))
  | "upper" => some c.isUpper
  | "xdigit" =>
    some (c.isDigit || ('a' ≤ c && c ≤ 'f') || ('A' ≤ c && c ≤ 'F'))
  | _ => none

/-- All octets. -/
def allOctets : List Char := (List.range 256).map Char.ofNat

/-- The characters of a named class in order. -/
def classMembers (name : String) : List Char :=
  allOctets.filter fun c => (inClass? name c).getD false

/-- The characters of a set with their escapes read; each with whether it was escaped. `fuel` is more
than the length. -/
def setMarks : (fuel : Nat) → List Char → List (Char × Bool)
  | 0, _ => []
  | _, [] => []
  | _ + 1, ['\\'] => [('\\', true)]
  | fuel + 1, '\\' :: c :: rest =>
    match c with
    | 'a' => ('\x07', true) :: setMarks fuel rest
    | 'b' => ('\x08', true) :: setMarks fuel rest
    | 'f' => ('\x0c', true) :: setMarks fuel rest
    | 'n' => ('\n', true) :: setMarks fuel rest
    | 'r' => ('\r', true) :: setMarks fuel rest
    | 't' => ('\t', true) :: setMarks fuel rest
    | 'v' => ('\x0b', true) :: setMarks fuel rest
    | c =>
      if '0' ≤ c && c ≤ '7' then
        let (three, after) := Print.octal 3 0 (c :: rest)
        let (value, after) := if three < 256 then (three, after) else Print.octal 2 0 (c :: rest)
        (Char.ofNat value, true) :: setMarks fuel after
      else (c, true) :: setMarks fuel rest
  | fuel + 1, c :: rest => (c, false) :: setMarks fuel rest

/-- What is wrong with the sets. -/
inductive SetFault
  | reversed (first last : Char)
  | unknownClass (name : String)
  | emptyClass
  | badRepeat (count : String)
deriving DecidableEq, Repr

/-- A character as it is shown in a complaint. -/
def shownMember (c : Char) : String :=
  if ' ' ≤ c && c ≤ '~' then String.ofList [c]
  else
    match c with
    | '\x07' => "\\a"
    | '\x08' => "\\b"
    | '\x0c' => "\\f"
    | '\n' => "\\n"
    | '\r' => "\\r"
    | '\t' => "\\t"
    | '\x0b' => "\\v"
    | c =>
      let digits := Nat.toDigits 8 c.toNat
      "\\" ++ String.ofList (List.replicate (3 - digits.length) '0' ++ digits)

/-- The wording of a fault. -/
def SetFault.message : SetFault → String
  | .reversed first last =>
    "range-endpoints of '" ++ shownMember first ++ "-" ++ shownMember last ++
      "' are in reverse collating sequence order"
  | .unknownClass name => "invalid character class '" ++ name ++ "'"
  | .emptyClass => "missing character class name '[::]'"
  | .badRepeat count => "invalid repeat count '" ++ count ++ "' in [c*n] construct"

/-- Reads a set. `fuel` is more than the number of its characters. -/
def setParts : (fuel : Nat) → List (Char × Bool) → Except SetFault (List SetPart)
  | 0, _ => .ok []
  | _, [] => .ok []
  | fuel + 1, (c, wasEscaped) :: rest => do
    let named : Option (Except SetFault SetPart × List (Char × Bool)) :=
      if c != '[' || wasEscaped then none
      else
        match rest with
        | (':', false) :: more =>
          let name := more.takeWhile fun m => m != (':', false)
          match more.drop name.length with
          | (':', false) :: (']', false) :: after =>
            let text := String.ofList (name.map (·.1))
            if text.isEmpty then some (.error .emptyClass, after)
            else if (inClass? text 'a').isNone then some (.error (.unknownClass text), after)
            else some (.ok (.named text), after)
          | _ => none
        | ('=', false) :: (d, _) :: ('=', false) :: (']', false) :: after => some (.ok (.one d), after)
        | (d, _) :: ('*', false) :: more =>
          let digits := (more.takeWhile fun (m, isEscaped) => m.isDigit && !isEscaped).map (·.1)
          match more.drop digits.length with
          | (']', false) :: after =>
            let count := match digits with
              | [] => none
              | '0' :: octal => some (octal.foldl (fun n m => n * 8 + (m.toNat - 48)) 0)
              | digits => some (Decimal.value digits)
            some (.ok (.repeated d (if count == some 0 then none else count)), after)
          | _ => none
        | _ => none
    match named with
    | some (.error fault, _) => .error fault
    | some (.ok part, after) => do
      let more ← setParts fuel after
      .ok (part :: more)
    | none =>
      match rest with
      | ('-', false) :: (last, _) :: after =>
        if last < c then .error (.reversed c last)
        else do
          let more ← setParts fuel after
          .ok (.range c last :: more)
      | _ => do
        let more ← setParts fuel rest
        .ok (.one c :: more)

/-- The members of a set in order. An open repetition fills it up to `length`. -/
def setMembers (length : Nat) (parts : List SetPart) : List Char :=
  let size (part : SetPart) : Nat := match part with
    | .one _ => 1
    | .range first last => last.toNat - first.toNat + 1
    | .named name => (classMembers name).length
    | .repeated _ count => count.getD 0
  let missing := length - (parts.map size).foldl (· + ·) 0
  parts.flatMap fun part =>
    match part with
    | .one c => [c]
    | .range first last =>
      (List.range (last.toNat - first.toNat + 1)).map fun i => Char.ofNat (first.toNat + i)
    | .named name => classMembers name
    | .repeated c count => List.replicate (count.getD missing) c

/-- A text in which runs of one character of a set are reduced to one. -/
def squeezed (isMember : Char → Bool) (text : List Char) : List Char :=
  (text.foldl
    (fun ((done, last) : List Char × Option Char) c =>
      if isMember c && last == some c then (done, last) else (c :: done, some c))
    ([], none)).1.reverse

/-- The table of a translation: the octet that each octet becomes. Where classes of cases stand
opposite each other, letters keep their places. -/
def translation (sources targets : List Char) : Array Char :=
  let last := targets.getLast?
  (sources.zipIdx).foldl
    (fun table (c, i) =>
      match (targets[i]?).orElse fun _ => last with
      | some target => table.set! c.toNat target
      | none => table)
    allOctets.toArray

/-- Replaces, deletes or squeezes characters of the standard input. -/
def tr (args : List String) (run : Run) : Run :=
  let table : OptionTable :=
    { short := "cCdst"
      long :=
        [("complement", .nothing, 'c'), ("delete", .nothing, 'd'),
          ("squeeze-repeats", .nothing, 's'), ("truncate-set1", .nothing, 't')]
      stopsEarly := true }
  withOptions table 1 args run fun given run =>
    let deletes := given.has 'd'
    let squeezes := given.has 's'
    let translates := !deletes && given.operands.length = 2
    let set (text : String) : Except SetFault (List SetPart) :=
      let marks := setMarks (text.length + 1) text.toList
      setParts (marks.length + 1) marks
    match given.operands with
    | [] => misuse run "missing operand"
    | first :: rest =>
      if rest.isEmpty && !deletes && !squeezes then
        misuse run ("missing operand after '" ++ first ++
          "'\nTwo strings must be given when translating.")
      else if rest.isEmpty && deletes && squeezes then
        misuse run ("missing operand after '" ++ first ++
          "'\nTwo strings must be given when both deleting and squeezing repeats.")
      else if rest.length ≥ 1 && deletes && !squeezes then
        misuse run ("extra operand '" ++ rest.headD "" ++
          "'\nOnly one string may be given when deleting without squeezing repeats.")
      else if rest.length ≥ 2 then extraOperand run (rest.getD 1 "")
      else
        match set first, set (rest.headD "") with
        | .error fault, _ => fail run fault.message
        | _, .error fault => fail run fault.message
        | .ok parts, .ok others =>
          let isComplement := given.hasAny ['c', 'C']
          let members := setMembers 0 parts
          let sources := if isComplement then allOctets.filter fun c => !members.contains c else members
          let targets := setMembers sources.length others
          if translates && targets.isEmpty && !given.has 't' && !sources.isEmpty then
            fail run "when not truncating set1, string2 must be non-empty"
          else
            match contents run "-" with
            | (.error fault, run) => fail run ("read error: " ++ faultText fault)
            | (.ok text, run) =>
              let inSources := (translation sources (sources.map fun _ => '\x01')).toList.zipIdx.map
                fun (c, i) => sources.contains (Char.ofNat i) && c == '\x01'
              let inSources := inSources.toArray
              let isSource (c : Char) : Bool := inSources.getD c.toNat false
              let inTargets : Array Bool :=
                (allOctets.map fun c => targets.contains c).toArray
              let isTarget (c : Char) : Bool := inTargets.getD c.toNat false
              let characters := text.toList
              let result :=
                if deletes then
                  let kept := characters.filter fun c => !isSource c
                  if squeezes then squeezed isTarget kept else kept
                else if translates then
                  let sources := if given.has 't' then sources.take targets.length else sources
                  let map := translation sources targets
                  let translated := characters.map fun c => map.getD c.toNat c
                  if squeezes then squeezed isTarget translated else translated
                else squeezed isSource characters
              (run.print (String.ofList result)).ended 0

end RunMeter.Shell.Tool
