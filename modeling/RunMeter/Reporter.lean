/-!
# Reporters

A report is printed for people or as JSON. Settings and flags name the reporter; only flags may be
read without regard to case, and only of ASCII letters.
-/

set_option autoImplicit false

namespace RunMeter

/-- How reports are printed. -/
inductive Reporter
  | pretty
  | json
deriving DecidableEq, Repr

namespace Reporter

/-- The name of a reporter. -/
def name : Reporter → String
  | .pretty => "pretty"
  | .json => "json"

/-- All reporters. -/
def all : List Reporter := [.pretty, .json]

/-- The reporter with a name. -/
def ofName? (name : String) : Option Reporter := all.find? fun reporter => reporter.name == name

/-- The reporter with a name, whatever the case of its letters. -/
def ofNameIgnoringCase? (name : String) : Option Reporter :=
  ofName? (String.ofList (name.toList.map Char.toLower))

end Reporter

end RunMeter
