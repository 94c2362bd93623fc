/-
Problems that a compilation reports about a statement. A problem does not stop the compilation.
-/
import NestedQuery.Identifier
import NestedQuery.Location

namespace NestedQuery

/-- What is wrong. -/
inductive Fault where
  | undefinedVariable (name : String) (caseSensitive : Bool)
  | variablePreviouslyDefined (name : String)
  deriving DecidableEq

/-- A fault and where it was found. -/
structure Problem where
  location : Location
  fault : Fault
  deriving DecidableEq

/-- How grave a problem is. -/
inductive Severity where
  | error
  deriving DecidableEq

namespace Fault

/-- A reference by `name` found nothing. -/
def undefined (name : Identifier) : Fault := .undefinedVariable name.text name.case.isSensitive

/-- `name` was declared a second time in one frame. -/
def previouslyDefined (name : Identifier) : Fault := .variablePreviouslyDefined name.text

def message : Fault → String
  | .undefinedVariable name caseSensitive =>
    "No such variable named '" ++ name ++ "'" ++ (if caseSensitive then " (case-sensitive)" else "")
  | .variablePreviouslyDefined name => "The variable '" ++ name ++ "' was already defined in this scope"

/-- Every fault is an error. -/
def severity : Fault → Severity
  | .undefinedVariable .. => .error
  | .variablePreviouslyDefined .. => .error

end Fault

def Severity.text : Severity → String
  | .error => "error"

/-- The place and the message. -/
def Problem.message (p : Problem) : String := p.location.text ++ ": " ++ p.fault.message

end NestedQuery
