/-
The locals that a statement declares, in the order in which planning declares them: each with the name that is given or
implied, and the place where it is declared. The clauses of a block take effect in their own order, the source of a
FROM item comes before its locals, and all keys of a GROUP BY clause come before the locals of the clause.
-/
import NestedQuery.Proofs.Syntax.Outline

namespace NestedQuery.Syntax

/-- The locals of group keys; `ordinal` is the position of the first. -/
def keyAliases (ordinal : Nat) : List GroupKey → List Alias
  | [] => []
  | key :: keys =>
    key.asAlias.getD ⟨key.expr.impliedAlias ordinal, key.place⟩ :: keyAliases (ordinal + 1) keys

mutual

def Expr.declared : Expr → List Alias
  | .lit _ => []
  | .var _ => []
  | .path root steps => root.declared ++ declaredSteps steps
  | .unary _ operand => operand.declared
  | .binary _ lhs rhs => lhs.declared ++ rhs.declared
  | .call _ args => declaredList args
  | .callAgg _ _ arg => arg.declared
  | .case operand branches otherwise =>
    declaredOption operand ++ (declaredBranches branches ++ declaredOption otherwise)
  | .collection _ values => declaredList values
  | .struct fields => declaredFields fields
  | .cast value _ => value.declared
  | .select block => block.declared
  | .bagOp _ _ left right => left.declared ++ right.declared

def declaredList : List Expr → List Alias
  | [] => []
  | e :: es => e.declared ++ declaredList es

def declaredOption : Option Expr → List Alias
  | none => []
  | some e => e.declared

def declaredSteps : List PathStep → List Alias
  | [] => []
  | .field _ :: steps => declaredSteps steps
  | .index key :: steps => key.declared ++ declaredSteps steps
  | .wildcard :: steps => declaredSteps steps
  | .unpivot :: steps => declaredSteps steps

def declaredBranches : List CaseBranch → List Alias
  | [] => []
  | ⟨condition, result⟩ :: branches => condition.declared ++ (result.declared ++ declaredBranches branches)

def declaredFields : List StructField → List Alias
  | [] => []
  | ⟨key, value⟩ :: fields => key.declared ++ (value.declared ++ declaredFields fields)

def Select.declared : Select → List Alias
  | ⟨_, projection, source, lets, filter, groupBy, having, orderBy, limit, offset⟩ =>
    declaredSource source ++ (declaredLets lets ++ (declaredOption filter ++ (declaredGroup groupBy ++
      (declaredOption having ++ (declaredOrder orderBy ++ (declaredOption offset ++ (declaredOption limit ++
        projection.declared)))))))

def declaredSource : Option FromSource → List Alias
  | none => []
  | some source => source.declared 0

/-- The locals of a FROM clause; `before` items stand to its left. -/
def FromSource.declared (before : Nat) : FromSource → List Alias
  | .scan ⟨expr, asAlias, atAlias, byAlias, location⟩ =>
    expr.declared ++ asAlias.getD ⟨expr.impliedAlias (before + 1), location⟩ :: (atAlias.toList ++ byAlias.toList)
  | .unpivot ⟨expr, asAlias, atAlias, byAlias, location⟩ =>
    expr.declared ++ asAlias.getD ⟨expr.impliedAlias (before + 1), location⟩ :: (atAlias.toList ++ byAlias.toList)
  | .join _ left right predicate =>
    left.declared before ++ (right.declared (before + (left.names before).length) ++ declaredOption predicate)

def declaredLets : List LetBinding → List Alias
  | [] => []
  | ⟨expr, asAlias⟩ :: lets => expr.declared ++ asAlias :: declaredLets lets

def declaredGroup : Option GroupBy → List Alias
  | none => []
  | some ⟨keys, groupAs⟩ => declaredKeys keys ++ (keyAliases 1 keys ++ groupAs.toList)

def declaredKeys : List GroupKey → List Alias
  | [] => []
  | ⟨expr, _, _⟩ :: keys => expr.declared ++ declaredKeys keys

def declaredOrder : List OrderItem → List Alias
  | [] => []
  | ⟨expr, _, _⟩ :: items => expr.declared ++ declaredOrder items

def Projection.declared : Projection → List Alias
  | .star => []
  | .list items => declaredItems items
  | .value expr => expr.declared
  | .pivot value key => value.declared ++ key.declared

def declaredItems : List SelectItem → List Alias
  | [] => []
  | .expr expr _ :: items => expr.declared ++ declaredItems items
  | .all expr :: items => expr.declared ++ declaredItems items

end

/-- The row has the alias of the source, or its own name without one. -/
def MutationSource.declared (s : MutationSource) : List Alias :=
  ⟨s.rowVar.name, s.rowVar.location⟩ :: (s.atAlias.toList ++ (s.byAlias.toList ++ declaredOption s.filter))

def declaredRowSteps : List RowStep → List Alias
  | [] => []
  | .field _ :: steps => declaredRowSteps steps
  | .index key :: steps => key.declared ++ declaredRowSteps steps

def declaredAssignments : List Assignment → List Alias
  | [] => []
  | ⟨target, value⟩ :: rest => (declaredRowSteps target.steps ++ value.declared) ++ declaredAssignments rest

/-- The rows inserted under a source are the second item of a FROM clause, which has no alias of its own. -/
def insertedAlias (source : Option MutationSource) (values : Expr) : List Alias :=
  match source with
  | none => []
  | some s => [⟨values.impliedAlias 2, values.firstVar?.getD s.rowVar.location⟩]

def MutationOp.declared (source : Option MutationSource) : MutationOp → List Alias
  | .set assignments => declaredAssignments assignments
  | .remove path => declaredRowSteps path.steps
  | .insert _ values => values.declared ++ insertedAlias source values
  | .insertValue _ value _ => value.declared

def Mutation.declared (m : Mutation) : List Alias :=
  (m.source.map MutationSource.declared).getD [] ++ m.operations.flatMap (MutationOp.declared m.source)

def Statement.declared : Statement → List Alias
  | .query expr => expr.declared
  | .dml m => m.declared
  | .exec _ args => declaredList args

end NestedQuery.Syntax
