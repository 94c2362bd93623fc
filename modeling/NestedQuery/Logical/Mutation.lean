/-
Planning a batch of mutations. Under a source, a mutation takes its rows from the rows of the source.
A run of SET and REMOVE operations makes one update: its new row is the old one with the edits applied
one after the other, as calls of `set_path` and `remove_path`.
-/
import NestedQuery.Logical.Query

namespace NestedQuery.Logical

/-- The collection whose rows a batch goes through: its target, the local that holds a row, the frame of
that local, and the rows themselves. -/
structure MutationRows where
  target : Syntax.Var
  rowDecl : Declaration
  scope : Nat
  rows : Plan.Relation Reference

/-- One change of a row: a value for the part at a path, or the removal of that part. -/
structure RowEdit where
  root : Syntax.Var
  keys : List (Plan.Expr Reference)
  value : Option (Plan.Expr Reference)

/-- The row after an edit. -/
def RowEdit.apply (edit : RowEdit) (row : Plan.Expr Reference) : Plan.Expr Reference :=
  let keys := Plan.Expr.collection .list edit.keys
  match edit.value with
  | some value => .call "set_path" [row, keys, value]
  | none => .call "remove_path" [row, keys]

namespace MutationRows

/-- The variable that holds a row. -/
def row (r : MutationRows) : Plan.Expr Reference := .var (r.rowDecl.reference r.scope)

/-- `SELECT VALUE value FROM source WHERE condition`. -/
def selectValue (r : MutationRows) (value : Plan.Expr Reference) : Plan.Expr Reference :=
  .query (.of (.project r.rows (.value value) .all))

/-- A path that starts at this variable starts at the row itself. -/
def isRow (r : MutationRows) (root : Syntax.Var) : Bool := root.name.names r.rowDecl.name.text

end MutationRows

/-! ## Parts -/

/-- A mutation of the collection that `target` names. -/
def mutation (action : Plan.Action) (target : Syntax.Var) (rows : Plan.Expr Reference) :
    Build (Plan.Mutation Reference) :=
  return ⟨action, ← reference target .dmlTarget, rows⟩

def planRows (source : Syntax.MutationSource) : Build MutationRows := do
  let target ← reference source.target .fromSource
  let scope ← openFrame .dmlSource
  let rowDecl ← declareOr source.asAlias source.target.name source.target.location
  let atDecl ← declareOption source.atAlias
  let byDecl ← declareOption source.byAlias
  let condition ← planOption source.filter
  return ⟨source.target, rowDecl, scope, addFilter condition (.of (.scan (.var target) rowDecl atDecl byDecl))⟩

def planRowSteps : List Syntax.RowStep → Build (List (Plan.Expr Reference))
  | [] => pure []
  | .field name :: steps => return .string name.text :: (← planRowSteps steps)
  | .index key :: steps => do
    let key ← planExpr .expression key
    let keys ← planRowSteps steps
    return key :: keys

/-- The root of a path is itself a key when it is not the row variable: `SET a = 1` sets a field. -/
def rootKeys (rows : Option MutationRows) (root : Syntax.Var) : List (Plan.Expr Reference) :=
  match rows with
  | some r => if r.isRow root then [] else [.string root.name.text]
  | none => []

def planEdit (rows : Option MutationRows) (path : Syntax.RowPath) (value : Option Syntax.Expr) :
    Build RowEdit := do
  let keys ← planRowSteps path.steps
  let value ← planOption value
  return ⟨path.root, rootKeys rows path.root ++ keys, value⟩

def planAssignments (rows : Option MutationRows) : List Syntax.Assignment → Build (List RowEdit)
  | [] => pure []
  | ⟨target, value⟩ :: rest => do
    let edit ← planEdit rows target (some value)
    let edits ← planAssignments rows rest
    return edit :: edits

/-- The rows of an insertion under a source: the inserted rows for each row of the source, in a frame of
their own. They are the second item of a FROM clause that starts with the source. -/
def insertPerRow (r : MutationRows) (values : Syntax.Expr) : Build (Plan.Expr Reference) := do
  let rows ← planExpr .expression values
  let location := values.firstVar?.getD r.rowDecl.location
  inFrame .fromItem do
    let decl ← declare (values.impliedAlias 2) location
    let scope ← currentScope
    let each := Plan.Relation.of (.join .cross r.rows (.of (.scan rows decl none none)) none)
    return .query (.of (.project each (.value (.var (decl.reference scope))) .all))

/-- The rows of an insertion of many rows. -/
def planInserted (rows : Option MutationRows) (values : Syntax.Expr) : Build (Plan.Expr Reference) :=
  match rows with
  | some r => insertPerRow r values
  | none => planExpr .expression values

/-- The rows of an insertion of one row: one for each row of the source, or just one without a source. -/
def insertedValue (rows : Option MutationRows) (value : Plan.Expr Reference) : Plan.Expr Reference :=
  match rows with
  | some r => r.selectValue value
  | none => .singletonBag value

/-- What an insertion does when a row is already there. -/
def conflictAction : Option OnConflict → Plan.Action
  | some .doReplaceExcluded => .replace
  | some .doUpdateExcluded => .update
  | some .doNothing => .insert
  | none => .insert

/-- An update for each edit on its own. Without a source there are no rows to edit. -/
def updateEach : List RowEdit → Build (List (Plan.Mutation Reference))
  | [] => pure []
  | edit :: edits => do
    let update ← mutation .update edit.root .emptyBag
    let updates ← updateEach edits
    return update :: updates

/-- The updates that a run of edits makes: under a source one, without edits none. -/
def flush (rows : Option MutationRows) (edits : List RowEdit) : Build (List (Plan.Mutation Reference)) :=
  if edits.isEmpty then pure []
  else
    match rows with
    | some r => do
      let row := edits.foldl (fun row edit => edit.apply row) r.row
      return [← mutation .update r.target (r.selectValue row)]
    | none => updateEach edits

/-! ## Batches -/

/-- Plans operations after `edits` that are still to be applied. -/
def planOps (rows : Option MutationRows) (edits : List RowEdit) :
    List Syntax.MutationOp → Build (List (Plan.Mutation Reference))
  | [] => flush rows edits
  | .set assignments :: ops => do
    let more ← planAssignments rows assignments
    planOps rows (edits ++ more) ops
  | .remove path :: ops =>
    if path.steps.isEmpty then
      match rows with
      | some r =>
        if r.isRow path.root then do
          let updates ← flush rows edits
          let deletion ← mutation .delete r.target (r.selectValue r.row)
          let rest ← planOps rows [] ops
          return updates ++ deletion :: rest
        else do
          let edit ← planEdit rows path none
          planOps rows (edits ++ [edit]) ops
      | none => do
        let updates ← flush rows edits
        let deletion ← mutation .delete path.root .emptyBag
        let rest ← planOps rows [] ops
        return updates ++ deletion :: rest
    else do
      let edit ← planEdit rows path none
      planOps rows (edits ++ [edit]) ops
  | .insert target values :: ops => do
    let updates ← flush rows edits
    let inserted ← planInserted rows values
    let insertion ← mutation .insert target inserted
    let rest ← planOps rows [] ops
    return updates ++ insertion :: rest
  | .insertValue target value onConflict :: ops => do
    let updates ← flush rows edits
    let value ← planExpr .expression value
    let insertion ← mutation (conflictAction onConflict) target (insertedValue rows value)
    let rest ← planOps rows [] ops
    return updates ++ insertion :: rest

def planRowsOption : Option Syntax.MutationSource → Build (Option MutationRows)
  | none => pure none
  | some source => return some (← planRows source)

/-- Plans a batch in a frame of its own. -/
def planMutation (m : Syntax.Mutation) : Build (List (Plan.Mutation Reference)) :=
  inFrame .query do
    let rows ← planRowsOption m.source
    planOps rows [] m.operations

end NestedQuery.Logical
