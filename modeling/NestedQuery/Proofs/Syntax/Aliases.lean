/-
Changes of the aliases that a statement gives. An alias is given by AS, AT or BY, in a LET binding, a GROUP BY clause, a
SELECT item or the source of a mutation. The names and places that are derived from expressions do not depend on the
aliases inside of them.
-/
import NestedQuery.Syntax.Naming
import Mathlib.Logic.Basic

namespace NestedQuery.Syntax

mutual

/-- Applies `f` to every alias. -/
def Expr.mapAliases (f : Alias → Alias) : Expr → Expr
  | .lit value => .lit value
  | .var v => .var v
  | .path root steps => .path (root.mapAliases f) (mapAliasesSteps f steps)
  | .unary op operand => .unary op (operand.mapAliases f)
  | .binary op lhs rhs => .binary op (lhs.mapAliases f) (rhs.mapAliases f)
  | .call name args => .call name (mapAliasesList f args)
  | .callAgg name quantifier arg => .callAgg name quantifier (arg.mapAliases f)
  | .case operand branches otherwise =>
    .case (mapAliasesOption f operand) (mapAliasesBranches f branches) (mapAliasesOption f otherwise)
  | .collection kind values => .collection kind (mapAliasesList f values)
  | .struct fields => .struct (mapAliasesFields f fields)
  | .cast value asType => .cast (value.mapAliases f) asType
  | .select block => .select (block.mapAliases f)
  | .bagOp op quantifier left right => .bagOp op quantifier (left.mapAliases f) (right.mapAliases f)

def mapAliasesList (f : Alias → Alias) : List Expr → List Expr
  | [] => []
  | e :: es => e.mapAliases f :: mapAliasesList f es

def mapAliasesOption (f : Alias → Alias) : Option Expr → Option Expr
  | none => none
  | some e => some (e.mapAliases f)

def mapAliasesSteps (f : Alias → Alias) : List PathStep → List PathStep
  | [] => []
  | .field name :: steps => .field name :: mapAliasesSteps f steps
  | .index key :: steps => .index (key.mapAliases f) :: mapAliasesSteps f steps
  | .wildcard :: steps => .wildcard :: mapAliasesSteps f steps
  | .unpivot :: steps => .unpivot :: mapAliasesSteps f steps

def mapAliasesBranches (f : Alias → Alias) : List CaseBranch → List CaseBranch
  | [] => []
  | ⟨condition, result⟩ :: branches => ⟨condition.mapAliases f, result.mapAliases f⟩ :: mapAliasesBranches f branches

def mapAliasesFields (f : Alias → Alias) : List StructField → List StructField
  | [] => []
  | ⟨key, value⟩ :: fields => ⟨key.mapAliases f, value.mapAliases f⟩ :: mapAliasesFields f fields

def Select.mapAliases (f : Alias → Alias) : Select → Select
  | ⟨quantifier, projection, source, lets, filter, groupBy, having, orderBy, limit, offset⟩ =>
    ⟨quantifier, projection.mapAliases f, mapAliasesSource f source, mapAliasesLets f lets, mapAliasesOption f filter,
      mapAliasesGroup f groupBy, mapAliasesOption f having, mapAliasesOrder f orderBy, mapAliasesOption f limit,
      mapAliasesOption f offset⟩

def mapAliasesSource (f : Alias → Alias) : Option FromSource → Option FromSource
  | none => none
  | some source => some (source.mapAliases f)

def FromSource.mapAliases (f : Alias → Alias) : FromSource → FromSource
  | .scan ⟨expr, asAlias, atAlias, byAlias, location⟩ =>
    .scan ⟨expr.mapAliases f, asAlias.map f, atAlias.map f, byAlias.map f, location⟩
  | .unpivot ⟨expr, asAlias, atAlias, byAlias, location⟩ =>
    .unpivot ⟨expr.mapAliases f, asAlias.map f, atAlias.map f, byAlias.map f, location⟩
  | .join kind left right predicate =>
    .join kind (left.mapAliases f) (right.mapAliases f) (mapAliasesOption f predicate)

def mapAliasesLets (f : Alias → Alias) : List LetBinding → List LetBinding
  | [] => []
  | ⟨expr, asAlias⟩ :: lets => ⟨expr.mapAliases f, f asAlias⟩ :: mapAliasesLets f lets

def mapAliasesGroup (f : Alias → Alias) : Option GroupBy → Option GroupBy
  | none => none
  | some ⟨keys, groupAs⟩ => some ⟨mapAliasesKeys f keys, groupAs.map f⟩

def mapAliasesKeys (f : Alias → Alias) : List GroupKey → List GroupKey
  | [] => []
  | ⟨expr, asAlias, location⟩ :: keys => ⟨expr.mapAliases f, asAlias.map f, location⟩ :: mapAliasesKeys f keys

def mapAliasesOrder (f : Alias → Alias) : List OrderItem → List OrderItem
  | [] => []
  | ⟨expr, order, nulls⟩ :: items => ⟨expr.mapAliases f, order, nulls⟩ :: mapAliasesOrder f items

def Projection.mapAliases (f : Alias → Alias) : Projection → Projection
  | .star => .star
  | .list items => .list (mapAliasesItems f items)
  | .value expr => .value (expr.mapAliases f)
  | .pivot value key => .pivot (value.mapAliases f) (key.mapAliases f)

def mapAliasesItems (f : Alias → Alias) : List SelectItem → List SelectItem
  | [] => []
  | .expr expr asAlias :: items => .expr (expr.mapAliases f) (asAlias.map f) :: mapAliasesItems f items
  | .all expr :: items => .all (expr.mapAliases f) :: mapAliasesItems f items

end

def mapAliasesRowSteps (f : Alias → Alias) : List RowStep → List RowStep
  | [] => []
  | .field name :: steps => .field name :: mapAliasesRowSteps f steps
  | .index key :: steps => .index (key.mapAliases f) :: mapAliasesRowSteps f steps

def RowPath.mapAliases (f : Alias → Alias) (p : RowPath) : RowPath := { p with steps := mapAliasesRowSteps f p.steps }

def Assignment.mapAliases (f : Alias → Alias) (a : Assignment) : Assignment :=
  ⟨a.target.mapAliases f, a.value.mapAliases f⟩

def MutationOp.mapAliases (f : Alias → Alias) : MutationOp → MutationOp
  | .insert target values => .insert target (values.mapAliases f)
  | .insertValue target value onConflict => .insertValue target (value.mapAliases f) onConflict
  | .set assignments => .set (assignments.map (Assignment.mapAliases f))
  | .remove path => .remove (path.mapAliases f)

def MutationSource.mapAliases (f : Alias → Alias) (s : MutationSource) : MutationSource :=
  ⟨s.target, s.asAlias.map f, s.atAlias.map f, s.byAlias.map f, mapAliasesOption f s.filter⟩

def Mutation.mapAliases (f : Alias → Alias) (m : Mutation) : Mutation :=
  { m with
    operations := m.operations.map (MutationOp.mapAliases f)
    source := m.source.map (MutationSource.mapAliases f) }

def Statement.mapAliases (f : Alias → Alias) : Statement → Statement
  | .query expr => .query (expr.mapAliases f)
  | .dml mutation => .dml (mutation.mapAliases f)
  | .exec procedure args => .exec procedure (mapAliasesList f args)

/-! ## What does not depend on aliases -/

section

variable (f : Alias → Alias)

mutual

theorem Expr.firstVar?_mapAliases : ∀ e : Expr, (e.mapAliases f).firstVar? = e.firstVar?
  | .lit _ => rfl
  | .var _ => rfl
  | .path root steps => congrArg₂ Option.or root.firstVar?_mapAliases (firstVarSteps?_mapAliases steps)
  | .unary _ operand => operand.firstVar?_mapAliases
  | .binary _ lhs rhs => congrArg₂ Option.or lhs.firstVar?_mapAliases rhs.firstVar?_mapAliases
  | .call _ args => firstVarList?_mapAliases args
  | .callAgg _ _ arg => arg.firstVar?_mapAliases
  | .case operand branches otherwise => congrArg₂ Option.or (firstVarOption?_mapAliases operand)
    (congrArg₂ Option.or (firstVarBranches?_mapAliases branches) (firstVarOption?_mapAliases otherwise))
  | .collection _ values => firstVarList?_mapAliases values
  | .struct fields => firstVarFields?_mapAliases fields
  | .cast value _ => value.firstVar?_mapAliases
  | .select _ => rfl
  | .bagOp .. => rfl

theorem firstVarList?_mapAliases : ∀ es : List Expr, firstVarList? (mapAliasesList f es) = firstVarList? es
  | [] => rfl
  | e :: es => congrArg₂ Option.or e.firstVar?_mapAliases (firstVarList?_mapAliases es)

theorem firstVarOption?_mapAliases : ∀ e : Option Expr, firstVarOption? (mapAliasesOption f e) = firstVarOption? e
  | none => rfl
  | some e => e.firstVar?_mapAliases

theorem firstVarSteps?_mapAliases : ∀ steps : List PathStep,
    firstVarSteps? (mapAliasesSteps f steps) = firstVarSteps? steps
  | [] => rfl
  | .field _ :: steps => firstVarSteps?_mapAliases steps
  | .index key :: steps => congrArg₂ Option.or key.firstVar?_mapAliases (firstVarSteps?_mapAliases steps)
  | .wildcard :: steps => firstVarSteps?_mapAliases steps
  | .unpivot :: steps => firstVarSteps?_mapAliases steps

theorem firstVarBranches?_mapAliases : ∀ branches : List CaseBranch,
    firstVarBranches? (mapAliasesBranches f branches) = firstVarBranches? branches
  | [] => rfl
  | ⟨condition, result⟩ :: branches => congrArg₂ Option.or condition.firstVar?_mapAliases
    (congrArg₂ Option.or result.firstVar?_mapAliases (firstVarBranches?_mapAliases branches))

theorem firstVarFields?_mapAliases : ∀ fields : List StructField,
    firstVarFields? (mapAliasesFields f fields) = firstVarFields? fields
  | [] => rfl
  | ⟨key, value⟩ :: fields => congrArg₂ Option.or key.firstVar?_mapAliases
    (congrArg₂ Option.or value.firstVar?_mapAliases (firstVarFields?_mapAliases fields))

end

/-- The change of one step of a path. -/
def PathStep.mapAliases : PathStep → PathStep
  | .index key => .index (key.mapAliases f)
  | step => step

theorem mapAliasesSteps_eq_map : ∀ steps : List PathStep, mapAliasesSteps f steps = steps.map (PathStep.mapAliases f)
  | [] => rfl
  | .field _ :: steps => congrArg (_ :: ·) (mapAliasesSteps_eq_map steps)
  | .index _ :: steps => congrArg (_ :: ·) (mapAliasesSteps_eq_map steps)
  | .wildcard :: steps => congrArg (_ :: ·) (mapAliasesSteps_eq_map steps)
  | .unpivot :: steps => congrArg (_ :: ·) (mapAliasesSteps_eq_map steps)

theorem PathStep.derivedName?_mapAliases (step : PathStep) : (step.mapAliases f).derivedName? = step.derivedName? := by
  cases step with
  | index key => cases key <;> rfl
  | field | wildcard | unpivot => rfl

theorem Expr.derivedName?_mapAliases (e : Expr) : (e.mapAliases f).derivedName? = e.derivedName? := by
  cases e with
  | path root steps =>
    show (mapAliasesSteps f steps).getLast?.bind _ = steps.getLast?.bind _
    rw [mapAliasesSteps_eq_map, List.getLast?_map]
    cases steps.getLast? with
    | none => rfl
    | some step => exact step.derivedName?_mapAliases f
  | _ => rfl

theorem Expr.impliedAlias_mapAliases (e : Expr) (ordinal : Nat) :
    (e.mapAliases f).impliedAlias ordinal = e.impliedAlias ordinal := by
  unfold Expr.impliedAlias
  rw [Expr.derivedName?_mapAliases]

theorem Expr.impliedField_mapAliases (e : Expr) (ordinal : Nat) :
    (e.mapAliases f).impliedField ordinal = e.impliedField ordinal := by
  unfold Expr.impliedField
  rw [Expr.derivedName?_mapAliases]

end

end NestedQuery.Syntax
