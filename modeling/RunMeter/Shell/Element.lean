import RunMeter.Shell.Arithmetic
import RunMeter.Shell.Expansion
import RunMeter.Shell.Tool.Names

/-!
# Elements of variables

In the extended dialect a variable may hold a list, and a name may be followed by a subscript in square
brackets. Subscripts are expressions, or any texts if the list is kept by keys. Here is how elements
are looked up and set, and how expressions are evaluated whose names may be those of elements.
-/

set_option autoImplicit false

namespace RunMeter.Shell.Run

/-- A name and the subscript behind it, if there is one. -/
def splitSubscript (text : String) : String × Option String :=
  let name := text.toList.takeWhile (· != '[')
  match text.toList.drop name.length with
  | '[' :: rest =>
    if rest.getLast? == some ']' then (String.ofList name, some (String.ofList rest.dropLast))
    else (text, none)
  | _ => (text, none)

/-- How far references may lead, and how deep subscripts may stand in each other. -/
def maxDepth : Nat := 32

/-- The name that is meant by a name that may be a reference. -/
def meant (run : Run) (name : String) : (fuel : Nat) → String
  | 0 => name
  | fuel + 1 =>
    match run.process.bindings.lookup name with
    | some { isReference := true, value := some target, .. } => run.meant target fuel
    | _ => name

/-- A variable with texts as its list. -/
def listOf (texts : List String) : Variable :=
  { value := texts.head?, items := some (texts.mapIdx fun i text => (toString i, text)) }

/-- The variable with a name. Some tell about the state of the shell. -/
def binding? (run : Run) (name : String) : Option Variable :=
  let process := run.process
  match process.isExtended, name with
  | true, "PIPESTATUS" => some (listOf (process.outcomes.map toString))
  | true, "FUNCNAME" => if process.callers.isEmpty then none else some (listOf process.callers)
  | true, "GROUPS" => some (listOf ["0"])
  | true, "DIRSTACK" => some (listOf (Tool.pathText process.place :: process.visited))
  | _, _ => process.bindings.lookup name

/-- The subscript that a number means: one below zero counts from behind the last element. -/
def placeIn (entry : Variable) (n : Int) : Option String :=
  let last := (entry.elements.getLast?.bind fun (key, _) => key.toNat?).map fun k => (k : Int) + 1
  let place := if n < 0 then n + last.getD 0 else n
  if place < 0 then none else some (toString place)

/-- The value of a parameter, a variable or an element. Assignments in a subscript have no effect. -/
def held? (run : Run) : (fuel : Nat) → (text : String) → Option String
  | 0, _ => none
  | fuel + 1, text =>
    let (name, subscript) := splitSubscript (run.meant text maxDepth)
    match subscript with
    | none =>
      match run.parameter? name with
      | some value => some value
      | none => (run.binding? name).bind (·.value)
    | some subscript =>
      (run.binding? name).bind fun entry =>
        if entry.isKeyed then entry.elements.lookup subscript
        else
          match Arithmetic.evaluate { dialect := .extended, lookup := run.held? fuel } subscript with
          | .ok (n, _) => (placeIn entry n).bind fun key => entry.elements.lookup key
          | .error _ => none

/-- How expressions are evaluated. -/
def rules (run : Run) : Arithmetic.Rules :=
  { dialect := run.process.dialect, lookup := run.held? maxDepth }

/-- The wording for a variable that must not change. -/
def constantText (name : String) : String := name ++ ": readonly variable"

/-- Puts a value into a variable, or into an element of it. -/
def store (run : Run) (name : String) (key : Option String) (value : String) : Except String Run :=
  let entry := (run.process.bindings.lookup name).getD { value := none }
  if entry.isConstant then .error (constantText name)
  else
    match key with
    | none => .ok (run.onProcess fun process => process.assign name value)
    | some key =>
      .ok (run.onProcess fun process => process.restore name (some (entry.setItem key value)))

/-- The wording of a fault in an expression. -/
def faultyText (text : String) (fault : Arithmetic.Fault) : String :=
  fault.extendedMessage (String.ofList (text.toList.dropWhile fun c => isBlank c || c == '\n'))

/-- Puts a number into a variable or an element, which a text names. -/
def storeNumber (run : Run) (text : String) (value : Int) : Except String Run :=
  let (name, subscript) := splitSubscript (run.meant text maxDepth)
  match subscript with
  | none => run.store name none (toString value)
  | some subscript =>
    let entry := (run.process.bindings.lookup name).getD { value := none }
    if entry.isKeyed then run.store name (some subscript) (toString value)
    else
      match Arithmetic.evaluate run.rules subscript with
      | .error fault => .error (faultyText subscript fault)
      | .ok (n, _) =>
        match placeIn entry n with
        | some key => run.store name (some key) (toString value)
        | none => .error (text ++ ": bad array subscript")

/-- The value of an expression, and the run after the assignments in it. A complaint about the expression
begins with `lead`. -/
def calculate (run : Run) (text : String) (lead : String := "") : Except String (Int × Run) := do
  match Arithmetic.evaluate run.rules text with
  | .error fault => .error (lead ++ faultyText text fault)
  | .ok (value, assigned) =>
    let run ← assigned.foldrM (fun (name, value) run => storeNumber run name value) run
    .ok (value, run)

/-- The subscript by which an element is kept. -/
def keyOf (run : Run) (name subscript : String) : Except String (String × Run) := do
  let entry := (run.binding? name).getD { value := none }
  if entry.isKeyed then .ok (subscript, run)
  else
    let (n, run) ← run.calculate subscript
    match placeIn entry n with
    | some key => .ok (key, run)
    | none => .error (name ++ "[" ++ subscript ++ "]: bad array subscript")

/-- A value with the letters that a variable keeps. -/
def cased (entry : Variable) (value : String) : String :=
  match entry.raises with
  | none => value
  | some true => value.map Char.toUpper
  | some false => value.map Char.toLower

/-- Gives a variable or an element a value in the way that the variable asks for, perhaps behind the
old value. -/
def put (run : Run) (name : String) (key : Option String) (appends : Bool) (value : String) :
    Except String Run := do
  let entry := (run.process.bindings.lookup name).getD { value := none }
  let old := match key with
    | none => entry.value
    | some key => entry.elements.lookup key
  if entry.isConstant then .error (constantText name)
  else if entry.isNumeric then
    let (before, run) ← if appends then run.calculate (old.getD "0") else .ok (0, run)
    let (n, run) ← run.calculate value
    run.store name key (toString (Arithmetic.wrap (before + n)))
  else run.store name key (cased entry (if appends then old.getD "" ++ value else value))

/-- Gives a variable or an element, which a text names, a value. -/
def putText (run : Run) (text : String) (appends : Bool) (value : String) : Except String Run := do
  let (name, subscript) := splitSubscript (run.meant text maxDepth)
  match subscript with
  | none => run.put name none appends value
  | some subscript =>
    let (key, run) ← run.keyOf name subscript
    run.put name (some key) appends value

/-- Gives a variable a list. Items without subscripts follow the ones before, or are keys and values in
turn if the list is kept by keys. -/
def putList (run : Run) (text : String) (appends : Bool) (items : List (Option String × String)) :
    Except String Run := do
  let name := run.meant text maxDepth
  let before := (run.process.bindings.lookup name).getD { value := none }
  if before.isConstant then .error (constantText name)
  else
    let start := if appends then before.elements else []
    let begun := run.onProcess fun process => process.restore name (some (before.withItems start))
    if before.isKeyed && items.all fun (key, _) => key.isNone then
      let rec pairs : List String → List (String × String)
        | key :: value :: rest => (key, value) :: pairs rest
        | [key] => [(key, "")]
        | [] => []
      (pairs (items.map (·.2))).foldlM (fun run (key, value) => run.put name (some key) false value)
        begun
    else
      let next := (start.getLast?.bind fun (key, _) => key.toNat?.map (· + 1)).getD 0
      let (run, _) ← items.foldlM
        (fun ((run, next) : Run × Nat) (subscript, value) =>
          match subscript with
          | some subscript => do
            let (key, run) ← run.keyOf name subscript
            let run ← run.put name (some key) false value
            .ok (run, key.toNat?.getD next + 1)
          | none =>
            if before.isKeyed then
              .ok (run.complain
                (name ++ ": " ++ value ++ ": must use subscript when assigning associative array"), next)
            else do
              let run ← run.put name (some (toString next)) false value
              .ok (run, next + 1))
        (begun, next)
      .ok run

end RunMeter.Shell.Run
