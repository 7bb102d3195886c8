/-!
# TOML tables

A document is built up definition by definition, and a definition may not go back on an earlier one:
a key has one value, a table one header, a table written with dotted keys is not reopened by a
header, and a closed value (scalar, array or inline table) is never extended. `Node` records what
each key stands for so far, and the operations here enforce these rules.
-/

set_option autoImplicit false

namespace RunMeter.Toml

/-- What a key of a table stands for. Strings, whole numbers and arrays carry their content; the
other scalars only occur where any value is accepted. -/
inductive Node
  | string (s : String)
  | integer (n : Int)
  /-- A date, a time of day, or both. -/
  | moment
  | scalar
  | array (items : List Node)
  /-- A table; `isImplicit` if no definition of its own has named it yet, `isDotted` if it came
  from a dotted key, `isInline` if it was written between braces. -/
  | table (isImplicit isDotted isInline : Bool) (members : List (String × Node))
  /-- An array of tables, the last one first. -/
  | tables (last : List (String × Node)) (before : List (List (String × Node)))
deriving Repr, Inhabited

/-- The members of a table. -/
abbrev Members := List (String × Node)

/-- Replaces the node of a key that is there, or adds one at the end. -/
def put (key : String) (node : Node) : Members → Members
  | [] => [(key, node)]
  | (k, n) :: rest => if k = key then (k, node) :: rest else (k, n) :: put key node rest

/-- Follows `path` into nested tables, making the missing ones, and applies `change` to the members
of the table at its end. `change` also learns whether that table came from a dotted key. With
`dotted`, the path is the front of a dotted key: it makes dotted tables and enters only tables that
no header has named. -/
def descend? (dotted : Bool) (change : (isDotted : Bool) → Members → Option Members) :
    (path : List String) → (isDotted : Bool) → Members → Option Members
  | [], isDotted, members => change isDotted members
  | key :: path, _, members =>
    match members.lookup key with
    | none => do
      let inner ← descend? dotted change path dotted []
      some (put key (.table true dotted false inner) members)
    | some (.table isImplicit isDotted false inner) =>
      if dotted && !isImplicit then none
      else do
        let inner ← descend? dotted change path isDotted inner
        some (put key (.table isImplicit isDotted false inner) members)
    | some (.tables last before) => do
      let last ← descend? dotted change path false last
      some (put key (.tables last before) members)
    | some _ => none

/-- Defines a new key. -/
def define? (key : String) (node : Node) (members : Members) : Option Members :=
  if (members.lookup key).isSome then none else some (members ++ [(key, node)])

/-- Defines the value of a key, which may be dotted: `front` are the parts before the last. -/
def defineAt? (front : List String) (key : String) (node : Node) (members : Members) :
    Option Members :=
  descend? true
    (fun isDotted members =>
      -- a table that a header has already opened is not extended by a dotted key
      if isDotted == front.isEmpty then none else define? key node members)
    front false members

/-- Opens the table that a header names. -/
def openTable? (front : List String) (key : String) (root : Members) : Option Members :=
  descend? false
    (fun _ members =>
      match members.lookup key with
      | none => some (members ++ [(key, .table false false false [])])
      | some (.table true false false inner) => some (put key (.table false false false inner) members)
      | some _ => none)
    front false root

/-- Appends an empty table to the array of tables that a header names. -/
def openTables? (front : List String) (key : String) (root : Members) : Option Members :=
  descend? false
    (fun _ members =>
      match members.lookup key with
      | none => some (members ++ [(key, .tables [] [])])
      | some (.tables last before) => some (put key (.tables [] (last :: before)) members)
      | some _ => none)
    front false root

/-- Defines a value inside the table that the last header opened. -/
def defineUnder? (header : List String) (front : List String) (key : String) (node : Node)
    (root : Members) : Option Members :=
  descend? false (fun _ members => defineAt? front key node members) header false root

/-- The members of an inline table from its definitions. -/
def inlineMembers? : (definitions : List (List String × String × Node)) → Members → Option Members
  | [], members => some members
  | (front, key, node) :: rest, members => do
    let members ← defineAt? front key node members
    inlineMembers? rest members

end RunMeter.Toml
