import RunMeter.Number.Power

/-!
# Digests

Numbers of a fixed size that stand for texts of any length. Most of them are computed block by block:
the text is filled up with its own length, every block is spread over a schedule of words, and the
words are mixed one after another into a state that starts from fixed values. The fixed values of the
larger digests are the leading binary places of roots of primes, so they are computed here.
-/

set_option autoImplicit false

namespace RunMeter.Shell.Digest

/-! ## Words -/

/-- The word of some octets, the first of them highest. -/
def wordOf (w : Nat) (octets : List Nat) : BitVec w :=
  BitVec.ofNat w (octets.foldl (fun n octet => n * 256 + octet) 0)

/-- The octets of a number, the highest first. -/
def octetsOf (count n : Nat) : List Nat :=
  (List.range count).map fun i => n / 256 ^ (count - 1 - i) % 256

/-- Divides a list into pieces of a length; the last may be shorter. -/
def pieces {α : Type} (length : Nat) (list : List α) : List (List α) :=
  (List.range ((list.length + length - 1) / length)).map fun i =>
    (list.drop (i * length)).take length

/-- Octets written with two digits each. -/
def hexText (octets : List Nat) : String :=
  String.ofList (octets.flatMap fun octet =>
    [Nat.digitChar (octet / 16), Nat.digitChar (octet % 16)])

/-- A text filled up to whole blocks: one bit that is set, then zeros, then the length in bits. -/
def filled (block lengthOctets : Nat) (highFirst : Bool) (octets : List Nat) : List Nat :=
  let used := octets.length + 1 + lengthOctets
  let zeros := (block - used % block) % block
  let length := octetsOf lengthOctets (8 * octets.length)
  octets ++ 128 :: List.replicate zeros 0 ++ (if highFirst then length else length.reverse)

/-! ## Fixed values -/

/-- The greatest number below `high` whose power is not above `n`, found by halving. `fuel` is the
number of its binary digits. -/
def rootBelow (power n : Nat) : (fuel : Nat) → (root : Nat) → Nat
  | 0, root => root
  | fuel + 1, root =>
    let next := root + 2 ^ fuel
    rootBelow power n fuel (if next ^ power ≤ n then next else root)

/-- The first binary places of a root of a number behind the point. -/
def rootPlaces (power w n : Nat) : BitVec w :=
  BitVec.ofNat w (rootBelow power (n * 2 ^ (power * w)) (w + 5) 0)

/-- The first primes. -/
def primes (count : Nat) : List Nat :=
  ((List.range 500).filter fun n => 2 ≤ n && (List.range n).all fun d => d < 2 || n % d != 0).take count

/-! ## The larger digests -/

/-- How the words of a digest are mixed: by which distances they are turned and shifted. -/
structure Mixing where
  rounds : Nat
  /-- The turns of the sum with the state's first word, and of that with its fifth one. -/
  first : Nat × Nat × Nat
  fifth : Nat × Nat × Nat
  /-- Two turns and a shift for the words of the schedule. -/
  early : Nat × Nat × Nat
  late : Nat × Nat × Nat

/-- The mixing of words of 32 bits. -/
def Mixing.short : Mixing :=
  { rounds := 64, first := (2, 13, 22), fifth := (6, 11, 25), early := (7, 18, 3), late := (17, 19, 10) }

/-- The mixing of words of 64 bits. -/
def Mixing.long : Mixing :=
  { rounds := 80, first := (28, 34, 39), fifth := (14, 18, 41), early := (1, 8, 7), late := (19, 61, 6) }

namespace Mixing

/-- A word turned by three distances. -/
def turned {w : Nat} (distances : Nat × Nat × Nat) (x : BitVec w) : BitVec w :=
  x.rotateRight distances.1 ^^^ x.rotateRight distances.2.1 ^^^ x.rotateRight distances.2.2

/-- A word turned by two distances and shifted by a third. -/
def shifted {w : Nat} (distances : Nat × Nat × Nat) (x : BitVec w) : BitVec w :=
  x.rotateRight distances.1 ^^^ x.rotateRight distances.2.1 ^^^ (x >>> distances.2.2)

/-- The schedule of a block. -/
def schedule {w : Nat} (mixing : Mixing) (block : Array (BitVec w)) : Array (BitVec w) :=
  (List.range (mixing.rounds - 16)).foldl
    (fun words i =>
      let at' (back : Nat) : BitVec w := words.getD (i + 16 - back) 0
      words.push (shifted mixing.late (at' 2) + at' 7 + shifted mixing.early (at' 15) + at' 16))
    block

/-- Mixes a block into a state. -/
def absorb {w : Nat} (mixing : Mixing) (constants : Array (BitVec w)) (state : List (BitVec w))
    (block : List Nat) : List (BitVec w) :=
  let words := mixing.schedule ((pieces (w / 8) block).map (wordOf w)).toArray
  let mixed := (List.range mixing.rounds).foldl
    (fun state i =>
      match state with
      | [a, b, c, d, e, f, g, h] =>
        let choice := (e &&& f) ^^^ (~~~e &&& g)
        let majority := (a &&& b) ^^^ (a &&& c) ^^^ (b &&& c)
        let one := h + turned mixing.fifth e + choice + constants.getD i 0 + words.getD i 0
        let two := turned mixing.first a + majority
        [one + two, a, b, c, d + one, e, f, g]
      | state => state)
    state
  state.zipWith (· + ·) mixed

/-- The digest of octets: as many octets of the last state as are wanted. -/
def digest (w : Nat) (mixing : Mixing) (start : List (BitVec w)) (size : Nat) (octets : List Nat) :
    List Nat :=
  let block := 2 * w
  let constants := ((primes mixing.rounds).map (rootPlaces 3 w)).toArray
  let state := (pieces block (filled block (w / 4) true octets)).foldl (mixing.absorb constants) start
  (state.flatMap fun word => octetsOf (w / 8) word.toNat).take size

end Mixing

/-- The digest of 256 bits. -/
def sha256 : List Nat → List Nat :=
  Mixing.short.digest 32 ((primes 8).map (rootPlaces 2 32)) 32

/-- The digest of 224 bits, which starts from the low halves of the values for 384 bits. -/
def sha224 : List Nat → List Nat :=
  Mixing.short.digest 32
    (((primes 16).drop 8).map fun p => BitVec.ofNat 32 (rootPlaces 2 64 p).toNat) 28

/-- The digest of 512 bits. -/
def sha512 : List Nat → List Nat :=
  Mixing.long.digest 64 ((primes 8).map (rootPlaces 2 64)) 64

/-- The digest of 384 bits. -/
def sha384 : List Nat → List Nat :=
  Mixing.long.digest 64 (((primes 16).drop 8).map (rootPlaces 2 64)) 48

/-! ## The smaller digests -/

/-- The words that both smaller digests start from. -/
def smallStart : List (BitVec 32) := [0x67452301, 0xefcdab89, 0x98badcfe, 0x10325476]

/-- Mixes a block into the state of the digest of 160 bits. -/
def absorb160 (state : List (BitVec 32)) (block : List Nat) : List (BitVec 32) :=
  let words := (List.range 64).foldl
    (fun (words : Array (BitVec 32)) i =>
      let at' (back : Nat) : BitVec 32 := words.getD (i + 16 - back) 0
      words.push ((at' 3 ^^^ at' 8 ^^^ at' 14 ^^^ at' 16).rotateLeft 1))
    ((pieces 4 block).map (wordOf 32)).toArray
  let mixed := (List.range 80).foldl
    (fun state i =>
      match state with
      | [a, b, c, d, e] =>
        let (f, constant) : BitVec 32 × BitVec 32 :=
          if i < 20 then ((b &&& c) ||| (~~~b &&& d), 0x5a827999)
          else if i < 40 then (b ^^^ c ^^^ d, 0x6ed9eba1)
          else if i < 60 then ((b &&& c) ||| (b &&& d) ||| (c &&& d), 0x8f1bbcdc)
          else (b ^^^ c ^^^ d, 0xca62c1d6)
        [a.rotateLeft 5 + f + e + constant + words.getD i 0, a, b.rotateLeft 30, c, d]
      | state => state)
    state
  state.zipWith (· + ·) mixed

/-- The digest of 160 bits. -/
def sha1 (octets : List Nat) : List Nat :=
  let state := (pieces 64 (filled 64 8 true octets)).foldl absorb160 (smallStart ++ [0xc3d2e1f0])
  state.flatMap fun word => octetsOf 4 word.toNat

/-- The places of the sine that the digest of 128 bits uses. -/
def sinePlaces (i : Nat) : BitVec 32 :=
  BitVec.ofNat 32 (Float.floor (Float.abs (Float.sin (Float.ofNat (i + 1))) * 4294967296.0)).toUInt64.toNat

/-- By how much the words are turned in a round. -/
def turnOf (i : Nat) : Nat :=
  let row : List Nat := match i / 16 with
    | 0 => [7, 12, 17, 22]
    | 1 => [5, 9, 14, 20]
    | 2 => [4, 11, 16, 23]
    | _ => [6, 10, 15, 21]
  row.getD (i % 4) 0

/-- Mixes a block into the state of the digest of 128 bits. -/
def absorb128 (constants : Array (BitVec 32)) (state : List (BitVec 32)) (block : List Nat) :
    List (BitVec 32) :=
  let words := ((pieces 4 block).map fun octets => wordOf 32 octets.reverse).toArray
  let mixed := (List.range 64).foldl
    (fun state i =>
      match state with
      | [a, b, c, d] =>
        let (f, place) : BitVec 32 × Nat := match i / 16 with
          | 0 => ((b &&& c) ||| (~~~b &&& d), i)
          | 1 => ((d &&& b) ||| (~~~d &&& c), 5 * i + 1)
          | 2 => (b ^^^ c ^^^ d, 3 * i + 5)
          | _ => (c ^^^ (b ||| ~~~d), 7 * i)
        let sum := a + f + constants.getD i 0 + words.getD (place % 16) 0
        [d, b + sum.rotateLeft (turnOf i), b, c]
      | state => state)
    state
  state.zipWith (· + ·) mixed

/-- The digest of 128 bits. -/
def md5 (octets : List Nat) : List Nat :=
  let constants := ((List.range 64).map sinePlaces).toArray
  let state := (pieces 64 (filled 64 8 false octets)).foldl (absorb128 constants) smallStart
  state.flatMap fun word => (octetsOf 4 word.toNat).reverse

/-! ## Sums -/

/-- One octet into the remainder that a cyclic check keeps. -/
def cyclicStep (remainder : BitVec 32) (octet : Nat) : BitVec 32 :=
  (List.range 8).foldl
    (fun (rest : BitVec 32) _ => if rest.msb then (rest <<< 1) ^^^ 0x04c11db7 else rest <<< 1)
    (remainder ^^^ (BitVec.ofNat 32 octet <<< 24))

/-- The octets of a length, the lowest first and no more than are needed. -/
def lengthOctets : (fuel : Nat) → Nat → List Nat
  | 0, _ => []
  | fuel + 1, n => if n = 0 then [] else n % 256 :: lengthOctets fuel (n / 256)

/-- The cyclic check of octets and of their number. -/
def cyclicCheck (octets : List Nat) : Nat :=
  (~~~((octets ++ lengthOctets 16 octets.length).foldl cyclicStep 0)).toNat

/-- The sum that is turned by one bit before every octet. -/
def turningSum (octets : List Nat) : Nat :=
  (octets.foldl
    (fun (sum : BitVec 16) octet => sum.rotateRight 1 + BitVec.ofNat 16 octet) 0).toNat

/-- The plain sum, its carries added in. -/
def plainSum (octets : List Nat) : Nat :=
  let sum := (octets.foldl (· + ·) 0) % 2 ^ 32
  let once := sum % 65536 + sum / 65536
  once % 65536 + once / 65536

end RunMeter.Shell.Digest
