/-
The outline of a statement: its variables as they are written, in the order in which its clauses take
effect, and before the variables of a block the block itself. References that nobody writes stand where
the plan needs them: those of `SELECT *` at the projection of its block, and those to the rows of a source
at the changes of a batch.
-/
import NestedQuery.Reference
import NestedQuery.Syntax.Naming

namespace NestedQuery.Syntax

/-! ## Names of locals -/

/-- The name given, or without one the name implied. -/
def nameOr (a : Option Alias) (implied : Identifier) : Identifier :=
  match a with
  | some a => a.name
  | none => implied

/-- The names of the AS locals of a FROM clause from left to right; `before` items stand to its left. -/
def FromSource.names (before : Nat) : FromSource → List Identifier
  | .scan ⟨expr, asAlias, _, _, _⟩ => [nameOr asAlias (expr.impliedAlias (before + 1))]
  | .unpivot ⟨expr, asAlias, _, _, _⟩ => [nameOr asAlias (expr.impliedAlias (before + 1))]
  | .join _ left right _ => left.names before ++ right.names (before + (left.names before).length)

/-- The names of the locals of group keys; `ordinal` is the position of the first. -/
def keyNames (ordinal : Nat) : List GroupKey → List Identifier
  | [] => []
  | key :: keys => nameOr key.asAlias (key.expr.impliedAlias ordinal) :: keyNames (ordinal + 1) keys

theorem keyNames_length : ∀ (ordinal : Nat) (keys : List GroupKey), (keyNames ordinal keys).length = keys.length
  | _, [] => rfl
  | ordinal, _ :: keys => congrArg (· + 1) (keyNames_length (ordinal + 1) keys)

/-- The names of the locals of a GROUP BY clause: those of its keys, then that of the group. -/
def GroupBy.names (g : GroupBy) : List Identifier := keyNames 1 g.keys ++ (g.groupAs.map (·.name)).toList

/-- The names of the locals that `SELECT *` stands for. -/
def starNames (source : Option FromSource) (groupBy : Option GroupBy) : List Identifier :=
  match groupBy, source with
  | some g, _ => g.names
  | none, some source => source.names 0
  | none, none => []

/-! ## Changes of a batch -/

/-- One change of a row: a value for the part at a path, or the removal of that part. -/
structure Edit where
  path : RowPath
  value : Option Expr

/-- What a batch does: the edits of a run of SET and REMOVE operations, the deletion of rows, and insertions. -/
inductive Change where
  | update (edits : List Edit)
  | delete (root : Var)
  | insert (target : Var) (values : Expr)
  | insertValue (target : Var) (value : Expr) (onConflict : Option OnConflict)

/-- The path means the whole row: it has no steps and, under a source, starts at the row. -/
def RowPath.isWholeRow (source : Option MutationSource) (path : RowPath) : Bool :=
  path.steps.isEmpty &&
    match source with
    | some s => path.root.name.names s.rowVar.name.text
    | none => true

/-- The updates that a run of edits makes: one under a source, one for each edit without a source. -/
def updates (source : Option MutationSource) (edits : List Edit) : List Change :=
  match source with
  | some _ => if edits.isEmpty then [] else [.update edits]
  | none => edits.map fun edit => .update [edit]

/-- The changes of a batch, after `pending` edits that are still to be applied. -/
def changes (source : Option MutationSource) (pending : List Edit) : List MutationOp → List Change
  | [] => updates source pending
  | .set assignments :: ops =>
    changes source (pending ++ assignments.map fun a => ⟨a.target, some a.value⟩) ops
  | .remove path :: ops =>
    if path.isWholeRow source then updates source pending ++ .delete path.root :: changes source [] ops
    else changes source (pending ++ [⟨path, none⟩]) ops
  | .insert target values :: ops =>
    updates source pending ++ .insert target values :: changes source [] ops
  | .insertValue target value onConflict :: ops =>
    updates source pending ++ .insertValue target value onConflict :: changes source [] ops

/-! ## Outlines -/

/-- What becomes of the rows of a source. -/
inductive RowUse where
  | edited
  | deleted
  /-- Many rows are inserted for each of them. -/
  | inserting
  /-- One row is inserted for each of them. -/
  | insertingValue

/-- What stands at a place of a statement. -/
inductive Mark where
  /-- A variable as it is written. -/
  | var (var : Var) (role : Role)
  /-- A reference to the local of the given name, which nobody writes. -/
  | generated (name : Identifier)
  /-- The collection that a mutation changes. -/
  | target (var : Var)
  | select (block : Select)
  /-- The block that goes through the rows of a source. -/
  | rows (use : RowUse) (source : MutationSource)

mutual

/-- The outline of an expression; the role is that of a variable which is the whole expression. -/
def Expr.outline (role : Role) : Expr → List Mark
  | .lit _ => []
  | .var v => [.var v role]
  | .path root steps => root.outline .expression ++ outlineSteps steps
  | .unary _ operand => operand.outline .expression
  | .binary _ lhs rhs => lhs.outline .expression ++ rhs.outline .expression
  | .call _ args => outlineList args
  | .callAgg _ _ arg => arg.outline .expression
  | .case operand branches otherwise => outlineOption operand ++ outlineBranches branches ++ outlineOption otherwise
  | .collection _ values => outlineList values
  | .struct fields => outlineFields fields
  | .cast value _ => value.outline .expression
  | .select block => block.outline
  | .bagOp _ _ left right => left.outline .expression ++ right.outline .expression

def outlineList : List Expr → List Mark
  | [] => []
  | e :: es => e.outline .expression ++ outlineList es

def outlineOption : Option Expr → List Mark
  | none => []
  | some e => e.outline .expression

def outlineSteps : List PathStep → List Mark
  | [] => []
  | .field _ :: steps => outlineSteps steps
  | .index key :: steps => key.outline .expression ++ outlineSteps steps
  | .wildcard :: steps => outlineSteps steps
  | .unpivot :: steps => outlineSteps steps

def outlineBranches : List CaseBranch → List Mark
  | [] => []
  | ⟨condition, result⟩ :: branches =>
    condition.outline .expression ++ result.outline .expression ++ outlineBranches branches

def outlineFields : List StructField → List Mark
  | [] => []
  | ⟨key, value⟩ :: fields => key.outline .expression ++ value.outline .expression ++ outlineFields fields

/-- The clauses of a block in the order in which they take effect. -/
def Select.outline : Select → List Mark
  | ⟨quantifier, projection, source, lets, filter, groupBy, having, orderBy, limit, offset⟩ =>
    .select ⟨quantifier, projection, source, lets, filter, groupBy, having, orderBy, limit, offset⟩ ::
      (outlineSource source ++ outlineLets lets ++ outlineOption filter ++ outlineGroup groupBy ++
        outlineOption having ++ outlineOrder orderBy ++ outlineOption offset ++ outlineOption limit ++
        projection.outline (starNames source groupBy))

def outlineSource : Option FromSource → List Mark
  | none => []
  | some source => source.outline

def FromSource.outline : FromSource → List Mark
  | .scan ⟨expr, _, _, _, _⟩ => expr.outline .fromSource
  | .unpivot ⟨expr, _, _, _, _⟩ => expr.outline .fromSource
  | .join _ left right predicate => left.outline ++ right.outline ++ outlineOption predicate

def outlineLets : List LetBinding → List Mark
  | [] => []
  | ⟨expr, _⟩ :: lets => expr.outline .expression ++ outlineLets lets

def outlineGroup : Option GroupBy → List Mark
  | none => []
  | some ⟨keys, _⟩ => outlineKeys keys

def outlineKeys : List GroupKey → List Mark
  | [] => []
  | ⟨expr, _, _⟩ :: keys => expr.outline .expression ++ outlineKeys keys

def outlineOrder : List OrderItem → List Mark
  | [] => []
  | ⟨expr, _, _⟩ :: items => expr.outline .expression ++ outlineOrder items

/-- The outline of a projection; `star` are the names that `*` stands for. -/
def Projection.outline (star : List Identifier) : Projection → List Mark
  | .star => star.map .generated
  | .list items => outlineItems items
  | .value expr => expr.outline .expression
  | .pivot value key => value.outline .expression ++ key.outline .expression

def outlineItems : List SelectItem → List Mark
  | [] => []
  | .expr expr _ :: items => expr.outline .expression ++ outlineItems items
  | .all expr :: items => expr.outline .expression ++ outlineItems items

end

def MutationSource.outline (s : MutationSource) : List Mark := .var s.target .fromSource :: outlineOption s.filter

def outlineRowSteps : List RowStep → List Mark
  | [] => []
  | .field _ :: steps => outlineRowSteps steps
  | .index key :: steps => key.outline .expression ++ outlineRowSteps steps

def Edit.outline (edit : Edit) : List Mark := outlineRowSteps edit.path.steps ++ outlineOption edit.value

/-- The target of a change, then its rows. Without a source there are no rows to edit or to delete. -/
def Change.outline : Option MutationSource → Change → List Mark
  | some s, .update edits =>
    .target s.target :: .rows .edited s :: (s.outline ++ .generated s.rowVar.name :: edits.flatMap Edit.outline)
  | some s, .delete _ => .target s.target :: .rows .deleted s :: (s.outline ++ [.generated s.rowVar.name])
  | some s, .insert target values =>
    .target target :: .rows .inserting s ::
      (s.outline ++ values.outline .expression ++ [.generated (values.impliedAlias 2)])
  | some s, .insertValue target value _ =>
    .target target :: .rows .insertingValue s :: (s.outline ++ value.outline .expression)
  | none, .update edits => edits.map fun edit => .target edit.path.root
  | none, .delete root => [.target root]
  | none, .insert target values => .target target :: values.outline .expression
  | none, .insertValue target value _ => .target target :: value.outline .expression

def Statement.outline : Statement → List Mark
  | .query expr => expr.outline .expression
  | .dml m => (changes m.source [] m.operations).flatMap (Change.outline m.source)
  | .exec _ args => outlineList args

end NestedQuery.Syntax
