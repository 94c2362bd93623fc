/-
Names for what has no alias. A variable lends its own name, a path the name of its last step, and
anything else is named by its position: `_1`, `_2`, and so on. A group key without an alias is located
at its first variable.
-/
import NestedQuery.Syntax.Basic

namespace NestedQuery.Syntax

/-! ## Derived names -/

/-- The name that the last step of a path lends: a field name, or a string between brackets. -/
def PathStep.derivedName? : PathStep → Option Identifier
  | .field name => some name
  | .index (.lit (.string key)) => some (.quoted key)
  | _ => none

/-- The name that an expression lends. -/
def Expr.derivedName? : Expr → Option Identifier
  | .var v => some v.name
  | .path _ steps => steps.getLast?.bind PathStep.derivedName?
  | _ => none

/-- The name of a position, counted from one. -/
def positional (ordinal : Nat) : String := "_" ++ toString ordinal

/-- The alias of a FROM item or group key that has none. -/
def Expr.impliedAlias (e : Expr) (ordinal : Nat) : Identifier :=
  e.derivedName?.getD (.bare (positional ordinal))

/-- The field name of a SELECT item that has no alias. -/
def Expr.impliedField (e : Expr) (ordinal : Nat) : String :=
  match e.derivedName? with
  | some name => name.text
  | none => positional ordinal

/-! ## The first variable -/

mutual

/-- The location of the leftmost variable outside of nested queries. -/
def Expr.firstVar? : Expr → Option Location
  | .lit _ => none
  | .var v => some v.location
  | .path root steps => root.firstVar?.or (firstVarSteps? steps)
  | .unary _ operand => operand.firstVar?
  | .binary _ lhs rhs => lhs.firstVar?.or rhs.firstVar?
  | .call _ args => firstVarList? args
  | .callAgg _ _ arg => arg.firstVar?
  | .case operand branches otherwise =>
    (firstVarOption? operand).or ((firstVarBranches? branches).or (firstVarOption? otherwise))
  | .collection _ values => firstVarList? values
  | .struct fields => firstVarFields? fields
  | .cast value _ => value.firstVar?
  | .select _ => none
  | .bagOp .. => none

def firstVarList? : List Expr → Option Location
  | [] => none
  | e :: es => e.firstVar?.or (firstVarList? es)

def firstVarOption? : Option Expr → Option Location
  | none => none
  | some e => e.firstVar?

def firstVarSteps? : List PathStep → Option Location
  | [] => none
  | .index key :: steps => key.firstVar?.or (firstVarSteps? steps)
  | _ :: steps => firstVarSteps? steps

def firstVarBranches? : List CaseBranch → Option Location
  | [] => none
  | ⟨condition, result⟩ :: branches =>
    condition.firstVar?.or (result.firstVar?.or (firstVarBranches? branches))

def firstVarFields? : List StructField → Option Location
  | [] => none
  | ⟨key, value⟩ :: fields => key.firstVar?.or (value.firstVar?.or (firstVarFields? fields))

end

/-- Where a group key is: its own location, else that of its first variable, else unknown. -/
def GroupKey.place (k : GroupKey) : Location := (k.location.or k.expr.firstVar?).getD {}

end NestedQuery.Syntax
