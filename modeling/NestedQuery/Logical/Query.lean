/-
Planning expressions and SELECT blocks. A block is planned in the order in which its clauses take
effect: FROM, LET, WHERE, GROUP BY, HAVING, ORDER BY, OFFSET, LIMIT, SELECT. Each FROM item, each LET
binding and the GROUP BY clause opens a frame inside the one before, and all of them stay open to the
end of the block. The source of a FROM item is planned before the frame of the item opens, so it sees
the items to its left.
-/
import NestedQuery.Logical.Builder
import NestedQuery.Plan.Basic
import NestedQuery.Syntax.Naming

namespace NestedQuery.Logical

open Plan (Relation)

/-! ## Steps of a block -/

/-- The AS local of a FROM item and the frame of the item. -/
structure SourceAlias where
  decl : Declaration
  scope : Nat

def addFilter (predicate : Option (Plan.Expr Reference)) (source : Relation Reference) : Relation Reference :=
  match predicate with
  | some p => .of (.filter p source)
  | none => source

def addLets (bindings : List (Plan.Named Reference)) (source : Relation Reference) : Relation Reference :=
  if bindings.isEmpty then source else .of (.letting source bindings)

def addSort (keys : List (Plan.SortKey Reference)) (source : Relation Reference) : Relation Reference :=
  if keys.isEmpty then source else .of (.sort source keys)

def addOffset (rowCount : Option (Plan.Expr Reference)) (source : Relation Reference) : Relation Reference :=
  match rowCount with
  | some n => .of (.offset source n)
  | none => source

def addLimit (rowCount : Option (Plan.Expr Reference)) (source : Relation Reference) : Relation Reference :=
  match rowCount with
  | some n => .of (.limit source n)
  | none => source

/-- The keys of a group with their locals, and the local of the group itself. -/
structure Grouping where
  keys : List (Plan.Named Reference)
  groupAs : Option Declaration

/-- The locals of a grouping in the order of their declarations. -/
def Grouping.decls (g : Grouping) : List Declaration := g.keys.map (·.decl) ++ g.groupAs.toList

def addGroup (grouping : Option Grouping) (source : Relation Reference) : Relation Reference :=
  match grouping with
  | some g => .of (.aggregate source g.keys g.groupAs)
  | none => source

/-- Declares the locals of group keys; `ordinal` is the position of the first. -/
def declareKeys (ordinal : Nat) : List Syntax.GroupKey → Build (List Declaration)
  | [] => pure []
  | key :: keys => do
    let decl ← declareOr key.asAlias (key.expr.impliedAlias ordinal) key.place
    let decls ← declareKeys (ordinal + 1) keys
    return decl :: decls

/-- Pairs expressions with the locals declared for them. -/
def nameAll (exprs : List (Plan.Expr Reference)) (decls : List Declaration) : List (Plan.Named Reference) :=
  List.zipWith Plan.Named.mk exprs decls

/-- What `SELECT *` stands for: the group keys and the group by name, or without a grouping the fields
of every FROM item. -/
def star (aliases : List SourceAlias) (grouping : Option Grouping) (scope : Nat) : Plan.Projection Reference :=
  match grouping with
  | some g => .struct (g.decls.map fun d => .expr (.var (d.reference scope)) d.name.text)
  | none => .struct (aliases.map fun a => .all (.var (a.decl.reference a.scope)))

/-- The field name of a SELECT item. -/
def fieldName (asAlias : Option Syntax.Alias) (e : Syntax.Expr) (ordinal : Nat) : String :=
  match asAlias with
  | some a => a.name.text
  | none => e.impliedField ordinal

/-! ## Planning -/

mutual

/-- Plans an expression. The role is that of a variable which is the whole expression; a variable inside
of it always has the role of an expression. -/
def planExpr (role : Role) : Syntax.Expr → Build (Plan.Expr Reference)
  | .lit value => pure (.lit value)
  | .var v => return .var (← reference v role)
  | .path root steps => do
    let root ← planExpr .expression root
    let steps ← planSteps steps
    return .path root steps
  | .unary op operand => return .unary op (← planExpr .expression operand)
  | .binary op lhs rhs => do
    let lhs ← planExpr .expression lhs
    let rhs ← planExpr .expression rhs
    return .binary op lhs rhs
  | .call name args => return .call name (← planExprs args)
  | .callAgg name quantifier arg => return .callAgg name quantifier (← planExpr .expression arg)
  | .case operand branches otherwise => do
    let operand ← planOption operand
    let branches ← planBranches branches
    let otherwise ← planOption otherwise
    return .case operand branches otherwise
  | .collection kind values => return .collection kind (← planExprs values)
  | .struct fields => return .struct (← planFields fields)
  | .cast value asType => return .cast (← planExpr .expression value) asType
  | .select block => return .query (← planSelect block)
  | .bagOp op quantifier left right => do
    let left ← planExpr .expression left
    let right ← planExpr .expression right
    return .query (.of (.setOp op quantifier left right))

def planExprs : List Syntax.Expr → Build (List (Plan.Expr Reference))
  | [] => pure []
  | e :: es => do
    let e ← planExpr .expression e
    let es ← planExprs es
    return e :: es

def planOption : Option Syntax.Expr → Build (Option (Plan.Expr Reference))
  | none => pure none
  | some e => return some (← planExpr .expression e)

/-- A field name becomes a string key with the name's own case rule; any other key counts exactly. -/
def planSteps : List Syntax.PathStep → Build (List (Plan.PathStep Reference))
  | [] => pure []
  | .field name :: steps => return .key (.string name.text) name.case :: (← planSteps steps)
  | .index key :: steps => do
    let key ← planExpr .expression key
    let steps ← planSteps steps
    return .key key .sensitive :: steps
  | .wildcard :: steps => return .wildcard :: (← planSteps steps)
  | .unpivot :: steps => return .unpivot :: (← planSteps steps)

def planBranches : List Syntax.CaseBranch → Build (List (Plan.CaseBranch Reference))
  | [] => pure []
  | ⟨condition, result⟩ :: branches => do
    let condition ← planExpr .expression condition
    let result ← planExpr .expression result
    let branches ← planBranches branches
    return ⟨condition, result⟩ :: branches

def planFields : List Syntax.StructField → Build (List (Plan.StructField Reference))
  | [] => pure []
  | ⟨key, value⟩ :: fields => do
    let key ← planExpr .expression key
    let value ← planExpr .expression value
    let fields ← planFields fields
    return ⟨key, value⟩ :: fields

/-- Plans a SELECT block in a frame of its own. -/
def planSelect : Syntax.Select → Build (Relation Reference)
  | ⟨quantifier, projection, source, lets, filter, groupBy, having, orderBy, limit, offset⟩ =>
    inFrame .query do
      let (rows, aliases) ← planSource source
      let bindings ← planLets lets
      let condition ← planOption filter
      let grouping ← planGroup groupBy
      let having ← planOption having
      let keys ← planOrder orderBy
      let offset ← planOption offset
      let limit ← planOption limit
      let projection ← planProjection aliases grouping projection
      let rows := addGroup grouping (addFilter condition (addLets bindings rows))
      let rows := addLimit limit (addOffset offset (addSort keys (addFilter having rows)))
      return .of (.project rows projection quantifier)

/-- A block without FROM has one row. -/
def planSource : Option Syntax.FromSource → Build (Relation Reference × List SourceAlias)
  | none => pure (.of .unit, [])
  | some source => planFrom 0 source

/-- Plans a FROM clause; `before` items stand to its left. Gives the AS locals from left to right. -/
def planFrom (before : Nat) : Syntax.FromSource → Build (Relation Reference × List SourceAlias)
  | .scan ⟨expr, asAlias, atAlias, byAlias, location⟩ => do
    let source ← planExpr .fromSource expr
    let scope ← openFrame .fromItem
    let asDecl ← declareOr asAlias (expr.impliedAlias (before + 1)) location
    let atDecl ← declareOption atAlias
    let byDecl ← declareOption byAlias
    return (.of (.scan source asDecl atDecl byDecl), [⟨asDecl, scope⟩])
  | .unpivot ⟨expr, asAlias, atAlias, byAlias, location⟩ => do
    let source ← planExpr .fromSource expr
    let scope ← openFrame .fromItem
    let asDecl ← declareOr asAlias (expr.impliedAlias (before + 1)) location
    let atDecl ← declareOption atAlias
    let byDecl ← declareOption byAlias
    return (.of (.unpivot source asDecl atDecl byDecl), [⟨asDecl, scope⟩])
  | .join kind left right predicate => do
    let (left, leftAliases) ← planFrom before left
    let (right, rightAliases) ← planFrom (before + leftAliases.length) right
    let predicate ← planOption predicate
    return (.of (.join kind left right predicate), leftAliases ++ rightAliases)

/-- Each binding sees the ones before it. -/
def planLets : List Syntax.LetBinding → Build (List (Plan.Named Reference))
  | [] => pure []
  | ⟨expr, asAlias⟩ :: lets => do
    let value ← planExpr .expression expr
    let _ ← openFrame .letBinding
    let decl ← declareAlias asAlias
    let lets ← planLets lets
    return ⟨value, decl⟩ :: lets

/-- No key sees the local of another: the keys are planned before the frame of the group opens. -/
def planGroup : Option Syntax.GroupBy → Build (Option Grouping)
  | none => pure none
  | some ⟨keys, groupAs⟩ => do
    let exprs ← planKeys keys
    let _ ← openFrame .groupBy
    let decls ← declareKeys 1 keys
    let groupAs ← declareOption groupAs
    return some ⟨nameAll exprs decls, groupAs⟩

def planKeys : List Syntax.GroupKey → Build (List (Plan.Expr Reference))
  | [] => pure []
  | ⟨expr, _, _⟩ :: keys => do
    let e ← planExpr .expression expr
    let es ← planKeys keys
    return e :: es

def planOrder : List Syntax.OrderItem → Build (List (Plan.SortKey Reference))
  | [] => pure []
  | ⟨expr, order, nulls⟩ :: items => do
    let e ← planExpr .expression expr
    let keys ← planOrder items
    return ⟨e, order, nulls⟩ :: keys

def planProjection (aliases : List SourceAlias) (grouping : Option Grouping) :
    Syntax.Projection → Build (Plan.Projection Reference)
  | .star => return star aliases grouping (← currentScope)
  | .list items => return .struct (← planItems 1 items)
  | .value expr => return .value (← planExpr .expression expr)
  | .pivot value key => do
    let value ← planExpr .expression value
    let key ← planExpr .expression key
    return .pivot value key

/-- Plans SELECT items; `ordinal` is the position of the first. -/
def planItems (ordinal : Nat) : List Syntax.SelectItem → Build (List (Plan.ProjectItem Reference))
  | [] => pure []
  | .expr expr asAlias :: items => do
    let e ← planExpr .expression expr
    let rest ← planItems (ordinal + 1) items
    return .expr e (fieldName asAlias expr ordinal) :: rest
  | .all expr :: items => do
    let e ← planExpr .expression expr
    let rest ← planItems (ordinal + 1) items
    return .all e :: rest

end

end NestedQuery.Logical
