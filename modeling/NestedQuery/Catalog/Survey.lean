/-
Putting a list of questions to a catalog and keeping them beside the answers.
-/
import NestedQuery.Catalog.Basic

namespace NestedQuery

/-- The questions put to a catalog and its answers, both in order. -/
structure Survey where
  questions : List Identifier
  answers : List (Option String)

namespace Survey

def run (c : Catalog) (questions : List Identifier) : Survey := ⟨questions, questions.map c.lookup⟩

/-- A name was asked for, in any spelling of its ASCII letters. -/
def asked (s : Survey) (name : String) : Bool := s.questions.any (Text.eqIgnoreAsciiCase ·.text name)

end Survey

end NestedQuery
