/-!
# JSON values

A JSON document as a value. The members of an object keep the order in which they were first
inserted, and a key holds one value: inserting it again replaces the value where it stands.
-/

set_option autoImplicit false

namespace RunMeter

/-- A JSON number: a natural number, the negative of one, or a double. -/
inductive JsonNumber
  | natural (n : Nat)
  | negative (n : Nat)
  | real (x : Float)
deriving Repr, Inhabited

/-- A JSON value. -/
inductive Json
  | null
  | bool (b : Bool)
  | number (n : JsonNumber)
  | string (s : String)
  | array (items : List Json)
  | object (members : List (String × Json))
deriving Repr, Inhabited

/-- The nearest double. -/
def JsonNumber.toFloat : JsonNumber → Float
  | .natural n => (UInt64.ofNat n).toFloat
  | .negative n => -(UInt64.ofNat n).toFloat
  | .real x => x

namespace Json

/-- A natural number. -/
def natural (n : Nat) : Json := .number (.natural n)

/-- A double. What is no finite number has no JSON form but null. -/
def real (x : Float) : Json := if x.isFinite then .number (.real x) else .null

/-- Sets the value of a key: where it stands, or at the end if it is new. -/
def setMember (key : String) (value : Json) : List (String × Json) → List (String × Json)
  | [] => [(key, value)]
  | (k, v) :: rest =>
    if k = key then (k, value) :: rest else (k, v) :: setMember key value rest

/-- The object that results from inserting the members one after another. -/
def ofMembers (members : List (String × Json)) : Json :=
  .object (members.foldl (fun object (key, value) => setMember key value object) [])

/-- The value of a key of an object; null where there is none. -/
def member (key : String) : Json → Json
  | .object members => (members.lookup key).getD .null
  | _ => .null

/-- The natural number that a value is, if it is one. -/
def natural? : Json → Option Nat
  | .number (.natural n) => some n
  | _ => none

theorem natural_inj {m n : Nat} (h : natural m = natural n) : m = n :=
  Option.some.inj (congrArg natural? h)

end Json

end RunMeter
