/-
Replacing what the variables of a plan carry. The replacement may have effects, which happen in the
order in which a plan is read; all else of the plan stays.
-/
import NestedQuery.Plan.Basic

namespace NestedQuery.Plan

variable {V W : Type} {m : Type → Type} [Monad m]

mutual

def Expr.mapVarsM (f : V → m W) : Expr V → m (Expr W)
  | .lit value => pure (.lit value)
  | .var v => return .var (← f v)
  | .path root steps => do
    let root ← root.mapVarsM f
    let steps ← mapVarsSteps f steps
    return .path root steps
  | .unary op operand => return .unary op (← operand.mapVarsM f)
  | .binary op lhs rhs => do
    let lhs ← lhs.mapVarsM f
    let rhs ← rhs.mapVarsM f
    return .binary op lhs rhs
  | .call name args => return .call name (← mapVarsList f args)
  | .callAgg name quantifier arg => return .callAgg name quantifier (← arg.mapVarsM f)
  | .case operand branches otherwise => do
    let operand ← mapVarsOption f operand
    let branches ← mapVarsBranches f branches
    let otherwise ← mapVarsOption f otherwise
    return .case operand branches otherwise
  | .collection kind values => return .collection kind (← mapVarsList f values)
  | .struct fields => return .struct (← mapVarsFields f fields)
  | .cast value asType => return .cast (← value.mapVarsM f) asType
  | .query relation => return .query (← relation.mapVarsM f)

def mapVarsList (f : V → m W) : List (Expr V) → m (List (Expr W))
  | [] => pure []
  | e :: es => do
    let e ← e.mapVarsM f
    let es ← mapVarsList f es
    return e :: es

def mapVarsOption (f : V → m W) : Option (Expr V) → m (Option (Expr W))
  | none => pure none
  | some e => return some (← e.mapVarsM f)

def mapVarsSteps (f : V → m W) : List (PathStep V) → m (List (PathStep W))
  | [] => pure []
  | .key key case :: steps => do
    let key ← key.mapVarsM f
    let steps ← mapVarsSteps f steps
    return .key key case :: steps
  | .wildcard :: steps => return .wildcard :: (← mapVarsSteps f steps)
  | .unpivot :: steps => return .unpivot :: (← mapVarsSteps f steps)

def mapVarsBranches (f : V → m W) : List (CaseBranch V) → m (List (CaseBranch W))
  | [] => pure []
  | ⟨condition, result⟩ :: branches => do
    let condition ← condition.mapVarsM f
    let result ← result.mapVarsM f
    let branches ← mapVarsBranches f branches
    return ⟨condition, result⟩ :: branches

def mapVarsFields (f : V → m W) : List (StructField V) → m (List (StructField W))
  | [] => pure []
  | ⟨key, value⟩ :: fields => do
    let key ← key.mapVarsM f
    let value ← value.mapVarsM f
    let fields ← mapVarsFields f fields
    return ⟨key, value⟩ :: fields

def Relation.mapVarsM (f : V → m W) : Relation V → m (Relation W)
  | ⟨.unit, s⟩ => pure ⟨.unit, s⟩
  | ⟨.scan expr asDecl atDecl byDecl, s⟩ => return ⟨.scan (← expr.mapVarsM f) asDecl atDecl byDecl, s⟩
  | ⟨.unpivot expr asDecl atDecl byDecl, s⟩ => return ⟨.unpivot (← expr.mapVarsM f) asDecl atDecl byDecl, s⟩
  | ⟨.filter predicate source, s⟩ => do
    let source ← source.mapVarsM f
    let predicate ← predicate.mapVarsM f
    return ⟨.filter predicate source, s⟩
  | ⟨.join kind left right predicate, s⟩ => do
    let left ← left.mapVarsM f
    let right ← right.mapVarsM f
    let predicate ← mapVarsOption f predicate
    return ⟨.join kind left right predicate, s⟩
  | ⟨.letting source bindings, s⟩ => do
    let source ← source.mapVarsM f
    let bindings ← mapVarsNamed f bindings
    return ⟨.letting source bindings, s⟩
  | ⟨.aggregate source keys groupAs, s⟩ => do
    let source ← source.mapVarsM f
    let keys ← mapVarsNamed f keys
    return ⟨.aggregate source keys groupAs, s⟩
  | ⟨.sort source keys, s⟩ => do
    let source ← source.mapVarsM f
    let keys ← mapVarsSortKeys f keys
    return ⟨.sort source keys, s⟩
  | ⟨.offset source rowCount, s⟩ => do
    let source ← source.mapVarsM f
    let rowCount ← rowCount.mapVarsM f
    return ⟨.offset source rowCount, s⟩
  | ⟨.limit source rowCount, s⟩ => do
    let source ← source.mapVarsM f
    let rowCount ← rowCount.mapVarsM f
    return ⟨.limit source rowCount, s⟩
  | ⟨.project source projection quantifier, s⟩ => do
    let source ← source.mapVarsM f
    let projection ← projection.mapVarsM f
    return ⟨.project source projection quantifier, s⟩
  | ⟨.setOp op quantifier left right, s⟩ => do
    let left ← left.mapVarsM f
    let right ← right.mapVarsM f
    return ⟨.setOp op quantifier left right, s⟩

def mapVarsNamed (f : V → m W) : List (Named V) → m (List (Named W))
  | [] => pure []
  | ⟨expr, decl⟩ :: rest => do
    let expr ← expr.mapVarsM f
    let rest ← mapVarsNamed f rest
    return ⟨expr, decl⟩ :: rest

def mapVarsSortKeys (f : V → m W) : List (SortKey V) → m (List (SortKey W))
  | [] => pure []
  | ⟨expr, order, nulls⟩ :: rest => do
    let expr ← expr.mapVarsM f
    let rest ← mapVarsSortKeys f rest
    return ⟨expr, order, nulls⟩ :: rest

def Projection.mapVarsM (f : V → m W) : Projection V → m (Projection W)
  | .value expr => return .value (← expr.mapVarsM f)
  | .struct items => return .struct (← mapVarsItems f items)
  | .pivot value key => do
    let value ← value.mapVarsM f
    let key ← key.mapVarsM f
    return .pivot value key

def mapVarsItems (f : V → m W) : List (ProjectItem V) → m (List (ProjectItem W))
  | [] => pure []
  | .expr expr field :: items => do
    let expr ← expr.mapVarsM f
    let items ← mapVarsItems f items
    return .expr expr field :: items
  | .all expr :: items => do
    let expr ← expr.mapVarsM f
    let items ← mapVarsItems f items
    return .all expr :: items

end

/-- The target of a mutation is replaced before the variables of its rows. -/
def mapVarsMutations (f : V → m W) : List (Mutation V) → m (List (Mutation W))
  | [] => pure []
  | ⟨action, target, rows⟩ :: rest => do
    let target ← f target
    let rows ← rows.mapVarsM f
    let rest ← mapVarsMutations f rest
    return ⟨action, target, rows⟩ :: rest

def mapVarsCommands (f : V → m W) : List (Command V) → m (List (Command W))
  | [] => pure []
  | ⟨action, targetId, rows⟩ :: rest => do
    let rows ← rows.mapVarsM f
    let rest ← mapVarsCommands f rest
    return ⟨action, targetId, rows⟩ :: rest

def Statement.mapVarsM (f : V → m W) : Statement V → m (Statement W)
  | .query expr => return .query (← expr.mapVarsM f)
  | .dml mutations => return .dml (← mapVarsMutations f mutations)
  | .dmlCommands commands => return .dmlCommands (← mapVarsCommands f commands)
  | .exec procedure args => return .exec procedure (← mapVarsList f args)

/-- Counts the calls before this one. -/
def nextNumber : StateM Nat Nat := modifyGet fun n => (n, n + 1)

/-- The variables replaced by their positions in the order of reading. -/
def Statement.numbered (s : Statement V) : Statement Nat := ((s.mapVarsM fun _ => nextNumber).run 0).1

end NestedQuery.Plan
