/-
Choosing a strategy for the operators that have none, as a change that is made to the strategy of every operator.
Nothing else of a plan changes.
-/
import NestedQuery.Plan.Basic

namespace NestedQuery.Plan

variable {V : Type}

/-! ## Changes of strategies -/

mutual

/-- Applies `f` to the strategy of every operator. -/
def Expr.mapStrategies (f : Option Strategy → Option Strategy) : Expr V → Expr V
  | .lit value => .lit value
  | .var v => .var v
  | .path root steps => .path (root.mapStrategies f) (mapStrategiesSteps f steps)
  | .unary op operand => .unary op (operand.mapStrategies f)
  | .binary op lhs rhs => .binary op (lhs.mapStrategies f) (rhs.mapStrategies f)
  | .call name args => .call name (mapStrategiesList f args)
  | .callAgg name quantifier arg => .callAgg name quantifier (arg.mapStrategies f)
  | .case operand branches otherwise =>
    .case (mapStrategiesOption f operand) (mapStrategiesBranches f branches) (mapStrategiesOption f otherwise)
  | .collection kind values => .collection kind (mapStrategiesList f values)
  | .struct fields => .struct (mapStrategiesFields f fields)
  | .cast value asType => .cast (value.mapStrategies f) asType
  | .query relation => .query (relation.mapStrategies f)

def mapStrategiesList (f : Option Strategy → Option Strategy) : List (Expr V) → List (Expr V)
  | [] => []
  | e :: es => e.mapStrategies f :: mapStrategiesList f es

def mapStrategiesOption (f : Option Strategy → Option Strategy) : Option (Expr V) → Option (Expr V)
  | none => none
  | some e => some (e.mapStrategies f)

def mapStrategiesSteps (f : Option Strategy → Option Strategy) : List (PathStep V) → List (PathStep V)
  | [] => []
  | .key key case :: steps => .key (key.mapStrategies f) case :: mapStrategiesSteps f steps
  | .wildcard :: steps => .wildcard :: mapStrategiesSteps f steps
  | .unpivot :: steps => .unpivot :: mapStrategiesSteps f steps

def mapStrategiesBranches (f : Option Strategy → Option Strategy) : List (CaseBranch V) → List (CaseBranch V)
  | [] => []
  | ⟨condition, result⟩ :: branches =>
    ⟨condition.mapStrategies f, result.mapStrategies f⟩ :: mapStrategiesBranches f branches

def mapStrategiesFields (f : Option Strategy → Option Strategy) : List (StructField V) → List (StructField V)
  | [] => []
  | ⟨key, value⟩ :: fields => ⟨key.mapStrategies f, value.mapStrategies f⟩ :: mapStrategiesFields f fields

def Relation.mapStrategies (f : Option Strategy → Option Strategy) : Relation V → Relation V
  | ⟨op, strategy⟩ => ⟨op.mapStrategies f, f strategy⟩

def RelOp.mapStrategies (f : Option Strategy → Option Strategy) : RelOp V → RelOp V
  | .unit => .unit
  | .scan expr asDecl atDecl byDecl => .scan (expr.mapStrategies f) asDecl atDecl byDecl
  | .unpivot expr asDecl atDecl byDecl => .unpivot (expr.mapStrategies f) asDecl atDecl byDecl
  | .filter predicate source => .filter (predicate.mapStrategies f) (source.mapStrategies f)
  | .join kind left right predicate =>
    .join kind (left.mapStrategies f) (right.mapStrategies f) (mapStrategiesOption f predicate)
  | .letting source bindings => .letting (source.mapStrategies f) (mapStrategiesNamed f bindings)
  | .aggregate source keys groupAs => .aggregate (source.mapStrategies f) (mapStrategiesNamed f keys) groupAs
  | .sort source keys => .sort (source.mapStrategies f) (mapStrategiesSortKeys f keys)
  | .offset source rowCount => .offset (source.mapStrategies f) (rowCount.mapStrategies f)
  | .limit source rowCount => .limit (source.mapStrategies f) (rowCount.mapStrategies f)
  | .project source projection quantifier =>
    .project (source.mapStrategies f) (projection.mapStrategies f) quantifier
  | .setOp op quantifier left right => .setOp op quantifier (left.mapStrategies f) (right.mapStrategies f)

def mapStrategiesNamed (f : Option Strategy → Option Strategy) : List (Named V) → List (Named V)
  | [] => []
  | ⟨expr, decl⟩ :: rest => ⟨expr.mapStrategies f, decl⟩ :: mapStrategiesNamed f rest

def mapStrategiesSortKeys (f : Option Strategy → Option Strategy) : List (SortKey V) → List (SortKey V)
  | [] => []
  | ⟨expr, order, nulls⟩ :: rest => ⟨expr.mapStrategies f, order, nulls⟩ :: mapStrategiesSortKeys f rest

def Projection.mapStrategies (f : Option Strategy → Option Strategy) : Projection V → Projection V
  | .value expr => .value (expr.mapStrategies f)
  | .struct items => .struct (mapStrategiesItems f items)
  | .pivot value key => .pivot (value.mapStrategies f) (key.mapStrategies f)

def mapStrategiesItems (f : Option Strategy → Option Strategy) : List (ProjectItem V) → List (ProjectItem V)
  | [] => []
  | .expr expr field :: items => .expr (expr.mapStrategies f) field :: mapStrategiesItems f items
  | .all expr :: items => .all (expr.mapStrategies f) :: mapStrategiesItems f items

end

def Statement.mapStrategies (f : Option Strategy → Option Strategy) : Statement V → Statement V
  | .query expr => .query (expr.mapStrategies f)
  | .dml mutations => .dml (mutations.map fun m => { m with rows := m.rows.mapStrategies f })
  | .dmlCommands commands => .dmlCommands (commands.map fun c => { c with rows := c.rows.mapStrategies f })
  | .exec procedure args => .exec procedure (mapStrategiesList f args)

/-! ## Missing strategies -/

/-- The strategy chosen, or `s` if there is none. -/
def Strategy.ifNone (s : Strategy) (chosen : Option Strategy) : Option Strategy := some (chosen.getD s)

/-- Gives `s` to every operator that has no strategy. -/
def Expr.fill (s : Strategy) (e : Expr V) : Expr V := e.mapStrategies s.ifNone

def Statement.fill (s : Strategy) (statement : Statement V) : Statement V := statement.mapStrategies s.ifNone

end NestedQuery.Plan
