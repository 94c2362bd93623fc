/-
Identifiers: a text and the rule by which it names things. A quoted identifier names its exact text,
a bare one ignores case.
-/
import NestedQuery.Text.LowerCase

namespace NestedQuery

/-- Whether the case of letters counts. -/
inductive CaseRule where
  | sensitive
  | insensitive
  deriving DecidableEq, Inhabited

def CaseRule.isSensitive : CaseRule → Bool
  | .sensitive => true
  | .insensitive => false

structure Identifier where
  text : String
  case : CaseRule
  deriving DecidableEq, Inhabited

namespace Identifier

/-- An identifier written between double quotes. -/
def quoted (text : String) : Identifier := ⟨text, .sensitive⟩

/-- An identifier written without quotes. -/
def bare (text : String) : Identifier := ⟨text, .insensitive⟩

/-- The identifier, used as a reference, names `name`. -/
def names (i : Identifier) (name : String) : Bool :=
  match i.case with
  | .sensitive => i.text == name
  | .insensitive => Text.eqIgnoreCase i.text name

/-- Two declarations clash: their texts are equal when case is ignored, whatever their rules. -/
def sameName (i j : Identifier) : Bool := Text.eqIgnoreCase i.text j.text

/-- The identifier as it is shown, a quoted one between quotes. -/
def display (i : Identifier) : String :=
  match i.case with
  | .sensitive => "\"" ++ i.text ++ "\""
  | .insensitive => i.text

theorem names_bare (text name : String) : (bare text).names name = Text.eqIgnoreCase text name := rfl

theorem names_quoted (text name : String) : (quoted text).names name = (text == name) := rfl

/-- Every identifier names its own text. -/
theorem names_text (i : Identifier) : i.names i.text = true := by
  cases h : i.case <;> simp [Identifier.names, h, Text.eqIgnoreCase_refl]

/-- What an identifier names is its text when case is ignored. -/
theorem eqIgnoreCase_of_names {i : Identifier} {name : String} (h : i.names name = true) :
    Text.eqIgnoreCase i.text name = true := by
  cases hc : i.case with
  | sensitive =>
    simp only [Identifier.names, hc, beq_iff_eq] at h
    rw [h]
    exact Text.eqIgnoreCase_refl name
  | insensitive => simpa [Identifier.names, hc] using h

end Identifier

end NestedQuery
