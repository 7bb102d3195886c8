import RunMeter.Shell.Digest
import RunMeter.Shell.Tool.Basic

/-!
# Checksums

Tools that print the digests of files, and that check files against digests printed before.
-/

set_option autoImplicit false

namespace RunMeter.Shell.Tool

/-- The octets of a text as numbers. -/
def octetNumbers (text : String) : List Nat := text.toList.map Char.toNat

/-- A digest with its name. -/
structure DigestKind where
  name : String
  of : List Nat → List Nat
  /-- The number of octets of a digest. -/
  size : Nat

/-- The digest that a tool prints. -/
def digestKind (tool : String) : DigestKind :=
  match tool with
  | "sha1sum" | "sha1" => { name := "SHA1", of := Digest.sha1, size := 20 }
  | "sha224sum" | "sha224" => { name := "SHA224", of := Digest.sha224, size := 28 }
  | "sha256sum" | "sha256" => { name := "SHA256", of := Digest.sha256, size := 32 }
  | "sha384sum" | "sha384" => { name := "SHA384", of := Digest.sha384, size := 48 }
  | "sha512sum" | "sha512" => { name := "SHA512", of := Digest.sha512, size := 64 }
  | _ => { name := "MD5", of := Digest.md5, size := 16 }

/-- A name with the characters escaped that a line of digests cannot hold, and the mark of that. -/
def digestName (name : String) : String × String :=
  let escaped := String.join (name.toList.map fun c =>
    if c == '\\' then "\\\\" else if c == '\n' then "\\n" else if c == '\r' then "\\r"
    else String.ofList [c])
  (escaped, if escaped == name then "" else "\\")

/-- The line for a file and its digest. -/
def digestLine (kind : DigestKind) (given : Given) (name digest : String) : String :=
  let isPlain := given.has 'z'
  let (escaped, lead) := if isPlain then (name, "") else digestName name
  let text :=
    if given.has 'T' then kind.name ++ " (" ++ escaped ++ ") = " ++ digest
    else digest ++ (if given.has 'b' then " *" else "  ") ++ escaped
  lead ++ text ++ (if isPlain then "\x00" else "\n")

/-- The digest and the name on a line of digests. -/
def digestEntry? (kind : DigestKind) (line : String) : Option (String × String) :=
  let isDigest (text : List Char) : Bool :=
    text.length = 2 * kind.size && text.all fun c =>
      c.isDigit || ('a' ≤ c && c ≤ 'f') || ('A' ≤ c && c ≤ 'F')
  let lower (text : List Char) : String := String.ofList (text.map Char.toLower)
  let text := (line.toList.dropWhile fun c => c == ' ' || c == '\t')
  let text := match text with
    | '\\' :: rest => rest
    | text => text
  let lead := (kind.name ++ " (").toList
  if lead.isPrefixOf text then
    let rest := text.drop lead.length
    let digest := (rest.reverse.takeWhile (· != ' ')).reverse
    let name := rest.take (rest.length - digest.length - 4)
    if isDigest digest && ") = ".toList == (rest.drop name.length).take 4 then
      some (lower digest, String.ofList name)
    else none
  else
    let digest := text.takeWhile fun c => c != ' ' && c != '\t'
    match text.drop digest.length with
    | _ :: mark :: name =>
      if isDigest digest && (mark == ' ' || mark == '*') && !name.isEmpty then
        some (lower digest, String.ofList name)
      else none
    | _ => none

/-- What checking a list of digests has found. -/
structure DigestCheck where
  formatted : Nat := 0
  unformatted : Nat := 0
  unread : Nat := 0
  failed : Nat := 0

/-- Checks the files named on the lines of a list of digests. -/
def checkDigests (kind : DigestKind) (given : Given) (name : String) (run : Run) : Run :=
  match contents run name with
  | (.error fault, run) => fail run (shown name ++ ": " ++ faultText fault)
  | (.ok text, run) =>
    let isSilent := given.has 'S'
    let label := if name == "-" then "'standard input'" else shown name
    let report (file verdict : String) (run : Run) : Run :=
      if isSilent then run else run.print (file ++ ": " ++ verdict ++ "\n")
    let check (state : DigestCheck × Run) (entry : String × Nat) : DigestCheck × Run :=
      let (line, place) := entry
      let (found, run) := state
      if line.startsWith "#" then state
      else
        match digestEntry? kind line with
        | none =>
          ({ found with unformatted := found.unformatted + 1 },
            if given.has 'w' then
              fail run (label ++ ": " ++ toString (place + 1) ++ ": improperly formatted " ++ kind.name ++
                " checksum line") |>.ended 0
            else run)
        | some (digest, file) =>
          let found := { found with formatted := found.formatted + 1 }
          match contents run file with
          | (.error fault, run) =>
            if given.has 'I' && fault == .notFound then (found, run)
            else
              ({ found with unread := found.unread + 1 },
                report file "FAILED open or read" (fail run (shown file ++ ": " ++ faultText fault)))
          | (.ok text, run) =>
            if Digest.hexText (kind.of (octetNumbers text)) == digest then
              (found, if given.has 'q' then run else report file "OK" run)
            else ({ found with failed := found.failed + 1 }, report file "FAILED" run)
    let (found, run) := ((recordsOf '\n' text).zipIdx).foldl check ({}, run)
    if found.formatted = 0 then fail run (label ++ ": no properly formatted checksum lines found")
    else
      let warn (count : Nat) (one many : String) (run : Run) : Run :=
        if count = 0 || isSilent then run
        else run.write 2 (run.process.name ++ ": WARNING: " ++ toString count ++ " " ++
          (if count = 1 then one else many) ++ "\n")
      let run := warn found.unformatted "line is improperly formatted" "lines are improperly formatted" run
      let run := warn found.unread "listed file could not be read" "listed files could not be read" run
      let run := warn found.failed "computed checksum did NOT match" "computed checksums did NOT match" run
      let isBad := found.unread > 0 || found.failed > 0 || (found.unformatted > 0 && given.has 's')
      if isBad then run.ended 1 else run

/-- The long options of the tools that print digests. -/
def digestOptions : List (String × Valuation × Char) :=
  [("binary", .nothing, 'b'), ("text", .nothing, 't'), ("check", .nothing, 'c'), ("tag", .nothing, 'T'),
    ("zero", .nothing, 'z'), ("warn", .nothing, 'w'), ("status", .nothing, 'S'),
    ("quiet", .nothing, 'q'), ("strict", .nothing, 's'), ("ignore-missing", .nothing, 'I')]

/-- Prints or checks the digests of a kind. -/
def printDigests (kind : DigestKind) (given : Given) (run : Run) : Run :=
  let names := if given.operands.isEmpty then ["-"] else given.operands
  if given.has 'c' then
    names.foldl (fun run name => if run.goesOn then checkDigests kind given name run else run)
      (run.ended 0)
  else
    forFiles shown
      (fun run name text =>
        run.print (digestLine kind given name (Digest.hexText (kind.of (octetNumbers text)))))
      names run

/-- Prints the digests of files. -/
def digests (tool : String) (args : List String) (run : Run) : Run :=
  withOptions { short := "bctwz", long := digestOptions } 1 args run fun given run =>
    printDigests (digestKind tool) given run

/-- Prints the cyclic checks of files, or other sums. -/
def cksum (args : List String) (run : Run) : Run :=
  let table : OptionTable :=
    { short := "a:bctwzl:"
      long := [("algorithm", .required, 'a'), ("untagged", .nothing, 'U')] ++ digestOptions }
  withOptions table 1 args run fun given run =>
    match given.value? 'a' with
    | none | some "crc" =>
      let isNamed := !given.operands.isEmpty
      forFiles shown
        (fun run name text =>
          let octets := octetNumbers text
          run.print (toString (Digest.cyclicCheck octets) ++ " " ++ toString octets.length ++
            (if isNamed then " " ++ name else "") ++ "\n"))
        given.operands run
    | some name =>
      if ["md5", "sha1", "sha224", "sha256", "sha384", "sha512"].contains name then
        let options := if given.has 'U' then given.options else ('T', none) :: given.options
        printDigests (digestKind name) { given with options } run
      else misuse run ("invalid argument " ++ quoted name ++ " for '--algorithm'")

/-- Prints the sums of files, each with the number of its blocks. -/
def sum (args : List String) (run : Run) : Run :=
  withOptions { short := "rs", long := [("sysv", .nothing, 's')] } 1 args run fun given run =>
    let isPlain := given.last? ['r', 's'] == some 's'
    let isNamed := !given.operands.isEmpty
    forFiles shown
      (fun run name text =>
        let octets := octetNumbers text
        let size := octets.length
        let lead :=
          if isPlain then
            toString (Digest.plainSum octets) ++ " " ++ toString ((size + 511) / 512)
          else
            let digits := toString (Digest.turningSum octets)
            let blocks := toString ((size + 1023) / 1024)
            String.ofList (List.replicate (5 - digits.length) '0') ++ digits ++ " " ++
              leftPadded 5 blocks
        run.print (lead ++ (if isNamed then " " ++ name else "") ++ "\n"))
      given.operands run

end RunMeter.Shell.Tool
