/-
A plan inside of a larger one. Where a plan is put, its declarations take other numbers and its references look from
other frames; all else of it stays.
-/
import NestedQuery.Proofs.Plan.Replacement
import NestedQuery.Proofs.Scope.Embedding

namespace NestedQuery.Plan

open Scope (Embedding)

variable {V : Type}

/-! ## Changes of declarations -/

mutual

/-- Applies `f` to every declaration. -/
def Expr.mapDecls (f : Declaration → Declaration) : Expr V → Expr V
  | .lit value => .lit value
  | .var v => .var v
  | .path root steps => .path (root.mapDecls f) (mapDeclsSteps f steps)
  | .unary op operand => .unary op (operand.mapDecls f)
  | .binary op lhs rhs => .binary op (lhs.mapDecls f) (rhs.mapDecls f)
  | .call name args => .call name (mapDeclsList f args)
  | .callAgg name quantifier arg => .callAgg name quantifier (arg.mapDecls f)
  | .case operand branches otherwise =>
    .case (mapDeclsOption f operand) (mapDeclsBranches f branches) (mapDeclsOption f otherwise)
  | .collection kind values => .collection kind (mapDeclsList f values)
  | .struct fields => .struct (mapDeclsFields f fields)
  | .cast value asType => .cast (value.mapDecls f) asType
  | .query relation => .query (relation.mapDecls f)

def mapDeclsList (f : Declaration → Declaration) : List (Expr V) → List (Expr V)
  | [] => []
  | e :: es => e.mapDecls f :: mapDeclsList f es

def mapDeclsOption (f : Declaration → Declaration) : Option (Expr V) → Option (Expr V)
  | none => none
  | some e => some (e.mapDecls f)

def mapDeclsSteps (f : Declaration → Declaration) : List (PathStep V) → List (PathStep V)
  | [] => []
  | .key key case :: steps => .key (key.mapDecls f) case :: mapDeclsSteps f steps
  | .wildcard :: steps => .wildcard :: mapDeclsSteps f steps
  | .unpivot :: steps => .unpivot :: mapDeclsSteps f steps

def mapDeclsBranches (f : Declaration → Declaration) : List (CaseBranch V) → List (CaseBranch V)
  | [] => []
  | ⟨condition, result⟩ :: branches => ⟨condition.mapDecls f, result.mapDecls f⟩ :: mapDeclsBranches f branches

def mapDeclsFields (f : Declaration → Declaration) : List (StructField V) → List (StructField V)
  | [] => []
  | ⟨key, value⟩ :: fields => ⟨key.mapDecls f, value.mapDecls f⟩ :: mapDeclsFields f fields

def Relation.mapDecls (f : Declaration → Declaration) : Relation V → Relation V
  | ⟨.unit, s⟩ => ⟨.unit, s⟩
  | ⟨.scan expr asDecl atDecl byDecl, s⟩ => ⟨.scan (expr.mapDecls f) (f asDecl) (atDecl.map f) (byDecl.map f), s⟩
  | ⟨.unpivot expr asDecl atDecl byDecl, s⟩ => ⟨.unpivot (expr.mapDecls f) (f asDecl) (atDecl.map f) (byDecl.map f), s⟩
  | ⟨.filter predicate source, s⟩ => ⟨.filter (predicate.mapDecls f) (source.mapDecls f), s⟩
  | ⟨.join kind left right predicate, s⟩ =>
    ⟨.join kind (left.mapDecls f) (right.mapDecls f) (mapDeclsOption f predicate), s⟩
  | ⟨.letting source bindings, s⟩ => ⟨.letting (source.mapDecls f) (mapDeclsNamed f bindings), s⟩
  | ⟨.aggregate source keys groupAs, s⟩ =>
    ⟨.aggregate (source.mapDecls f) (mapDeclsNamed f keys) (groupAs.map f), s⟩
  | ⟨.sort source keys, s⟩ => ⟨.sort (source.mapDecls f) (mapDeclsSortKeys f keys), s⟩
  | ⟨.offset source rowCount, s⟩ => ⟨.offset (source.mapDecls f) (rowCount.mapDecls f), s⟩
  | ⟨.limit source rowCount, s⟩ => ⟨.limit (source.mapDecls f) (rowCount.mapDecls f), s⟩
  | ⟨.project source projection quantifier, s⟩ =>
    ⟨.project (source.mapDecls f) (projection.mapDecls f) quantifier, s⟩
  | ⟨.setOp op quantifier left right, s⟩ => ⟨.setOp op quantifier (left.mapDecls f) (right.mapDecls f), s⟩

def mapDeclsNamed (f : Declaration → Declaration) : List (Named V) → List (Named V)
  | [] => []
  | ⟨expr, decl⟩ :: rest => ⟨expr.mapDecls f, f decl⟩ :: mapDeclsNamed f rest

def mapDeclsSortKeys (f : Declaration → Declaration) : List (SortKey V) → List (SortKey V)
  | [] => []
  | ⟨expr, order, nulls⟩ :: rest => ⟨expr.mapDecls f, order, nulls⟩ :: mapDeclsSortKeys f rest

def Projection.mapDecls (f : Declaration → Declaration) : Projection V → Projection V
  | .value expr => .value (expr.mapDecls f)
  | .struct items => .struct (mapDeclsItems f items)
  | .pivot value key => .pivot (value.mapDecls f) (key.mapDecls f)

def mapDeclsItems (f : Declaration → Declaration) : List (ProjectItem V) → List (ProjectItem V)
  | [] => []
  | .expr expr field :: items => .expr (expr.mapDecls f) field :: mapDeclsItems f items
  | .all expr :: items => .all (expr.mapDecls f) :: mapDeclsItems f items

end

theorem mapDeclsNamed_decl (f : Declaration → Declaration) (bindings : List (Named V)) :
    (mapDeclsNamed f bindings).map (·.decl) = (bindings.map (·.decl)).map f := by
  induction bindings with
  | nil => rfl
  | cons binding rest ih =>
    obtain ⟨_, decl⟩ := binding
    exact congrArg (f decl :: ·) ih

/-! ## Embedding of plans -/

section

variable (e : Embedding)

/-- The plan with the numbers that it has where it is put. -/
def Expr.embed (x : Expr Reference) : Expr Reference := (x.map (Reference.embed e)).mapDecls (Declaration.embed e)

def embedList (xs : List (Expr Reference)) : List (Expr Reference) :=
  mapDeclsList (Declaration.embed e) (mapList (Reference.embed e) xs)

def embedOption (x : Option (Expr Reference)) : Option (Expr Reference) :=
  mapDeclsOption (Declaration.embed e) (mapOption (Reference.embed e) x)

def embedSteps (xs : List (PathStep Reference)) : List (PathStep Reference) :=
  mapDeclsSteps (Declaration.embed e) (mapSteps (Reference.embed e) xs)

def embedBranches (xs : List (CaseBranch Reference)) : List (CaseBranch Reference) :=
  mapDeclsBranches (Declaration.embed e) (mapBranches (Reference.embed e) xs)

def embedFields (xs : List (StructField Reference)) : List (StructField Reference) :=
  mapDeclsFields (Declaration.embed e) (mapFields (Reference.embed e) xs)

def Relation.embed (r : Relation Reference) : Relation Reference :=
  (r.map (Reference.embed e)).mapDecls (Declaration.embed e)

def embedNamed (xs : List (Named Reference)) : List (Named Reference) :=
  mapDeclsNamed (Declaration.embed e) (mapNamed (Reference.embed e) xs)

def embedSortKeys (xs : List (SortKey Reference)) : List (SortKey Reference) :=
  mapDeclsSortKeys (Declaration.embed e) (mapSortKeys (Reference.embed e) xs)

def Projection.embed (p : Projection Reference) : Projection Reference :=
  (p.map (Reference.embed e)).mapDecls (Declaration.embed e)

def embedItems (xs : List (ProjectItem Reference)) : List (ProjectItem Reference) :=
  mapDeclsItems (Declaration.embed e) (mapItems (Reference.embed e) xs)

end

end NestedQuery.Plan
