/-!
# Series

Every usable sample yields values under keys. `SeriesSet` gathers them: one series per key, in the
order in which the keys first appear, with the values in recording order. The keys of the first
sample are what the later ones are compared with; a sample that differs is counted as inconsistent
and its values are kept all the same.
-/

set_option autoImplicit false

namespace RunMeter

/-- What a value is recorded under: a name and the depth at which it occurs. -/
structure MetricKey where
  name : String
  depth : Nat
deriving DecidableEq, Repr

/-- The key of a metric that has one value per sample. -/
def MetricKey.scalar (name : String) : MetricKey := { name, depth := 0 }

/-- The values recorded under one key. -/
structure Series where
  key : MetricKey
  values : List Float
deriving Repr

/-- What has been recorded so far. -/
structure SeriesSet where
  series : List Series := []
  /-- The keys of the first usable sample. -/
  expected : Option (List MetricKey) := none
  usable : Nat := 0
  excluded : Nat := 0
  inconsistent : Nat := 0
deriving Repr

/-- Appends a value to the series of its key, which is made if it is new. -/
def Series.add (key : MetricKey) (value : Float) : List Series → List Series
  | [] => [{ key, values := [value] }]
  | s :: rest =>
    if s.key = key then { s with values := s.values ++ [value] } :: rest
    else s :: Series.add key value rest

/-- Whether two key lists have the same length and every key of the first is in the second. -/
def sameKeys (first second : List MetricKey) : Bool :=
  first.length == second.length && first.all fun key => second.contains key

namespace SeriesSet

/-- Nothing recorded. -/
def empty : SeriesSet := {}

/-- Whether the keys of a sample agree with those of the first one. -/
def isConsistent (set : SeriesSet) (keys : List MetricKey) : Bool :=
  set.expected.all fun expected => sameKeys expected keys

/-- Records the values of a usable sample, and tells whether its keys were the expected ones. -/
def record (set : SeriesSet) (values : List (MetricKey × Float)) : Bool × SeriesSet :=
  let keys := values.map (·.1)
  let consistent := set.isConsistent keys
  (consistent,
    { series := values.foldl (fun series (key, value) => Series.add key value series) set.series
      expected := some (set.expected.getD keys)
      usable := set.usable + 1
      excluded := set.excluded
      inconsistent := set.inconsistent + if consistent then 0 else 1 })

/-- Counts a sample that yielded nothing. -/
def exclude (set : SeriesSet) : SeriesSet := { set with excluded := set.excluded + 1 }

/-- The series of a key. -/
def get? (set : SeriesSet) (key : MetricKey) : Option Series :=
  set.series.find? fun s => s.key == key

end SeriesSet

end RunMeter
