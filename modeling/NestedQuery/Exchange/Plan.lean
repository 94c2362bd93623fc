/-
The JSON form of plans, for any form of the variables in them.
-/
import NestedQuery.Exchange.Reference
import NestedQuery.Logical.Plan
import NestedQuery.Resolved.Plan

namespace NestedQuery

namespace Plan

variable {V : Type}

/-! ## Writing -/

mutual

def Expr.toJson (var : V → Json) : Expr V → Json
  | .lit value => .obj [("lit", value.toJson)]
  | .var v => .obj [("var", var v)]
  | .path root steps =>
    .obj [("path", .obj [("root", root.toJson var), ("steps", .arr (stepsToJson var steps))])]
  | .unary op operand => .obj [("unary", .obj [("op", op.toJson), ("operand", operand.toJson var)])]
  | .binary op lhs rhs =>
    .obj [("binary", .obj [("op", op.toJson), ("lhs", lhs.toJson var), ("rhs", rhs.toJson var)])]
  | .call name args => .obj [("call", .obj [("name", .str name), ("args", .arr (exprsToJson var args))])]
  | .callAgg name quantifier arg =>
    .obj [("call_agg", .obj [("name", .str name), ("quantifier", quantifier.toJson), ("arg", arg.toJson var)])]
  | .case operand branches otherwise =>
    .obj [("case", .obj [("operand", optionToJson var operand),
      ("branches", .arr (branchesToJson var branches)), ("default", optionToJson var otherwise)])]
  | .collection kind values =>
    .obj [("collection", .obj [("kind", kind.toJson), ("values", .arr (exprsToJson var values))])]
  | .struct fields => .obj [("struct", .obj [("fields", .arr (fieldsToJson var fields))])]
  | .cast value asType => .obj [("cast", .obj [("value", value.toJson var), ("as_type", .str asType)])]
  | .query relation => .obj [("query", relation.toJson var)]

def exprsToJson (var : V → Json) : List (Expr V) → List Json
  | [] => []
  | e :: es => e.toJson var :: exprsToJson var es

def optionToJson (var : V → Json) : Option (Expr V) → Json
  | none => .null
  | some e => e.toJson var

def stepsToJson (var : V → Json) : List (PathStep V) → List Json
  | [] => []
  | .key key case :: steps =>
    .obj [("key", .obj [("key", key.toJson var), ("case", case.toJson)])] :: stepsToJson var steps
  | .wildcard :: steps => .str "wildcard" :: stepsToJson var steps
  | .unpivot :: steps => .str "unpivot" :: stepsToJson var steps

def branchesToJson (var : V → Json) : List (CaseBranch V) → List Json
  | [] => []
  | ⟨condition, result⟩ :: branches =>
    .obj [("condition", condition.toJson var), ("result", result.toJson var)] :: branchesToJson var branches

def fieldsToJson (var : V → Json) : List (StructField V) → List Json
  | [] => []
  | ⟨key, value⟩ :: fields =>
    .obj [("key", key.toJson var), ("value", value.toJson var)] :: fieldsToJson var fields

def Relation.toJson (var : V → Json) : Relation V → Json
  | ⟨op, strategy⟩ =>
    .obj [("kind", op.toJson var), ("impl_tag", .ofOption (fun s => .str s.name) strategy)]

def RelOp.toJson (var : V → Json) : RelOp V → Json
  | .unit => .str "unit"
  | .scan expr asDecl atDecl byDecl =>
    .obj [("scan", .obj [("expr", expr.toJson var), ("as_decl", asDecl.toJson),
      ("at_decl", .ofOption Declaration.toJson atDecl), ("by_decl", .ofOption Declaration.toJson byDecl)])]
  | .unpivot expr asDecl atDecl byDecl =>
    .obj [("unpivot", .obj [("expr", expr.toJson var), ("as_decl", asDecl.toJson),
      ("at_decl", .ofOption Declaration.toJson atDecl), ("by_decl", .ofOption Declaration.toJson byDecl)])]
  | .filter predicate source =>
    .obj [("filter", .obj [("predicate", predicate.toJson var), ("source", source.toJson var)])]
  | .join kind left right predicate =>
    .obj [("join", .obj [("kind", kind.toJson), ("left", left.toJson var), ("right", right.toJson var),
      ("predicate", optionToJson var predicate)])]
  | .letting source bindings =>
    .obj [("let", .obj [("source", source.toJson var), ("bindings", .arr (namedToJson var "value" bindings))])]
  | .aggregate source keys groupAs =>
    .obj [("aggregate", .obj [("source", source.toJson var), ("keys", .arr (namedToJson var "expr" keys)),
      ("group_as", .ofOption Declaration.toJson groupAs)])]
  | .sort source keys =>
    .obj [("sort", .obj [("source", source.toJson var), ("specs", .arr (sortKeysToJson var keys))])]
  | .offset source rowCount =>
    .obj [("offset", .obj [("source", source.toJson var), ("row_count", rowCount.toJson var)])]
  | .limit source rowCount =>
    .obj [("limit", .obj [("source", source.toJson var), ("row_count", rowCount.toJson var)])]
  | .project source projection quantifier =>
    .obj [("project", .obj [("source", source.toJson var), ("projection", projection.toJson var),
      ("quantifier", quantifier.toJson)])]
  | .setOp op quantifier left right =>
    .obj [("set_op", .obj [("op", op.toJson), ("quantifier", quantifier.toJson), ("left", left.toJson var),
      ("right", right.toJson var)])]

/-- The expression is the member `label`. -/
def namedToJson (var : V → Json) (label : String) : List (Named V) → List Json
  | [] => []
  | ⟨expr, decl⟩ :: rest =>
    .obj [(label, expr.toJson var), ("decl", decl.toJson)] :: namedToJson var label rest

def sortKeysToJson (var : V → Json) : List (SortKey V) → List Json
  | [] => []
  | ⟨expr, order, nulls⟩ :: keys =>
    .obj [("expr", expr.toJson var), ("order", .ofOption SortOrder.toJson order),
      ("nulls", .ofOption NullsOrder.toJson nulls)] :: sortKeysToJson var keys

def Projection.toJson (var : V → Json) : Projection V → Json
  | .value expr => .obj [("value", expr.toJson var)]
  | .struct items => .obj [("struct", .arr (itemsToJson var items))]
  | .pivot value key => .obj [("pivot", .obj [("value", value.toJson var), ("key", key.toJson var)])]

def itemsToJson (var : V → Json) : List (ProjectItem V) → List Json
  | [] => []
  | .expr expr field :: items =>
    .obj [("expr", .obj [("expr", expr.toJson var), ("alias", .str field)])] :: itemsToJson var items
  | .all expr :: items => .obj [("all", expr.toJson var)] :: itemsToJson var items

end

def Mutation.toJson (var : V → Json) (m : Mutation V) : Json :=
  .obj [("action", m.action.toJson), ("target", var m.target), ("rows", m.rows.toJson var)]

def Command.toJson (var : V → Json) (c : Command V) : Json :=
  .obj [("action", .str c.action), ("target_unique_id", .str c.targetId), ("rows", c.rows.toJson var)]

def Statement.toJson (var : V → Json) : Statement V → Json
  | .query expr => .obj [("query", expr.toJson var)]
  | .dml mutations => .obj [("dml", .ofList (Mutation.toJson var) mutations)]
  | .dmlCommands commands => .obj [("dml_commands", .ofList (Command.toJson var) commands)]
  | .exec procedure args =>
    .obj [("exec", .obj [("procedure", .str procedure), ("args", .arr (exprsToJson var args))])]

/-! ## Reading

Each reader of a part takes the readers of what is in it. -/

namespace Read

def pathStep (form : Json.Form) (expr : Decoder (Expr V)) : Decoder (PathStep V) := fun j => do
  let choice ← j.choice?
  match choice.name, choice.content with
  | "key", some c => do
    let r ← c.content? form ["key", "case"]
    return .key (← r.required "key" expr) (← r.required "case" CaseRule.ofJson?)
  | "wildcard", _ => if choice.isBare then some .wildcard else none
  | "unpivot", _ => if choice.isBare then some .unpivot else none
  | _, _ => none

def caseBranch (expr : Decoder (Expr V)) : Decoder (CaseBranch V) := fun j => do
  let r ← j.record? ["condition", "result"]
  return ⟨← r.required "condition" expr, ← r.required "result" expr⟩

def structField (expr : Decoder (Expr V)) : Decoder (StructField V) := fun j => do
  let r ← j.record? ["key", "value"]
  return ⟨← r.required "key" expr, ← r.required "value" expr⟩

/-- The expression is the member `label`. -/
def named (expr : Decoder (Expr V)) (label : String) : Decoder (Named V) := fun j => do
  let r ← j.record? [label, "decl"]
  return ⟨← r.required label expr, ← r.required "decl" Declaration.ofJson?⟩

def sortKey (expr : Decoder (Expr V)) : Decoder (SortKey V) := fun j => do
  let r ← j.record? ["expr", "order", "nulls"]
  return ⟨← r.required "expr" expr, ← r.nullable "order" SortOrder.ofJson?,
    ← r.nullable "nulls" NullsOrder.ofJson?⟩

def projectItem (form : Json.Form) (expr : Decoder (Expr V)) : Decoder (ProjectItem V) := fun j => do
  let choice ← j.choice?
  match choice.name, choice.content with
  | "expr", some c => do
    let r ← c.content? form ["expr", "alias"]
    return .expr (← r.required "expr" expr) (← r.required "alias" Decoder.string)
  | "all", some c => return .all (← expr c)
  | _, _ => none

def projection (form : Json.Form) (expr : Decoder (Expr V)) : Decoder (Projection V) := fun j => do
  let choice ← j.choice?
  match choice.name, choice.content with
  | "value", some c => return .value (← expr c)
  | "struct", some c => return .struct (← Decoder.list (projectItem form expr) c)
  | "pivot", some c => do
    let r ← c.content? form ["value", "key"]
    return .pivot (← r.required "value" expr) (← r.required "key" expr)
  | _, _ => none

/-- An operator with content. -/
def relOpOf (form : Json.Form) (expr : Decoder (Expr V)) (relation : Decoder (Relation V)) (name : String) :
    Decoder (RelOp V) := fun content =>
  match name with
  | "scan" => do
    let r ← content.content? form ["expr", "as_decl", "at_decl", "by_decl"]
    return .scan (← r.required "expr" expr) (← r.required "as_decl" Declaration.ofJson?)
      (← r.nullable "at_decl" Declaration.ofJson?) (← r.nullable "by_decl" Declaration.ofJson?)
  | "unpivot" => do
    let r ← content.content? form ["expr", "as_decl", "at_decl", "by_decl"]
    return .unpivot (← r.required "expr" expr) (← r.required "as_decl" Declaration.ofJson?)
      (← r.nullable "at_decl" Declaration.ofJson?) (← r.nullable "by_decl" Declaration.ofJson?)
  | "filter" => do
    let r ← content.content? form ["predicate", "source"]
    return .filter (← r.required "predicate" expr) (← r.required "source" relation)
  | "join" => do
    let r ← content.content? form ["kind", "left", "right", "predicate"]
    return .join (← r.required "kind" JoinKind.ofJson?) (← r.required "left" relation)
      (← r.required "right" relation) (← r.nullable "predicate" expr)
  | "let" => do
    let r ← content.content? form ["source", "bindings"]
    return .letting (← r.required "source" relation) (← r.required "bindings" (Decoder.list (named expr "value")))
  | "aggregate" => do
    let r ← content.content? form ["source", "keys", "group_as"]
    return .aggregate (← r.required "source" relation) (← r.required "keys" (Decoder.list (named expr "expr")))
      (← r.nullable "group_as" Declaration.ofJson?)
  | "sort" => do
    let r ← content.content? form ["source", "specs"]
    return .sort (← r.required "source" relation) (← r.required "specs" (Decoder.list (sortKey expr)))
  | "offset" => do
    let r ← content.content? form ["source", "row_count"]
    return .offset (← r.required "source" relation) (← r.required "row_count" expr)
  | "limit" => do
    let r ← content.content? form ["source", "row_count"]
    return .limit (← r.required "source" relation) (← r.required "row_count" expr)
  | "project" => do
    let r ← content.content? form ["source", "projection", "quantifier"]
    return .project (← r.required "source" relation) (← r.required "projection" (projection form expr))
      (← r.required "quantifier" SetQuantifier.ofJson?)
  | "set_op" => do
    let r ← content.content? form ["op", "quantifier", "left", "right"]
    return .setOp (← r.required "op" SetOpKind.ofJson?) (← r.required "quantifier" SetQuantifier.ofJson?)
      (← r.required "left" expr) (← r.required "right" expr)
  | _ => none

def relOp (form : Json.Form) (expr : Decoder (Expr V)) (relation : Decoder (Relation V)) : Decoder (RelOp V) :=
  fun j => do
  let choice ← j.choice?
  match choice.name, choice.content with
  | "unit", _ => if choice.isBare then some .unit else none
  | name, some c => relOpOf form expr relation name c
  | _, none => none

/-- The relations inside of a relation stand deeper than it. -/
def relation (form : Json.Form) (expr : Decoder (Expr V)) : Nat → Decoder (Relation V)
  | 0 => fun _ => none
  | levels + 1 => fun j => do
    let r ← j.record? ["kind", "impl_tag"]
    return ⟨← r.required "kind" (relOp form expr (relation form expr levels)),
      (← r.nullable "impl_tag" Decoder.string).map Strategy.mk⟩

/-- An expression whose parts are read by `expr` and `relation`. -/
def exprOf (form : Json.Form) (var : Decoder V) (expr : Decoder (Expr V)) (relation : Decoder (Relation V)) :
    Decoder (Expr V) := fun j => do
  let choice ← j.choice?
  let content ← choice.content
  match choice.name with
  | "lit" => return .lit (← Literal.ofJson? content)
  | "var" => return .var (← var content)
  | "path" => do
    let r ← content.content? form ["root", "steps"]
    return .path (← r.required "root" expr) (← r.required "steps" (Decoder.list (pathStep form expr)))
  | "unary" => do
    let r ← content.content? form ["op", "operand"]
    return .unary (← r.required "op" UnaryOp.ofJson?) (← r.required "operand" expr)
  | "binary" => do
    let r ← content.content? form ["op", "lhs", "rhs"]
    return .binary (← r.required "op" BinaryOp.ofJson?) (← r.required "lhs" expr) (← r.required "rhs" expr)
  | "call" => do
    let r ← content.content? form ["name", "args"]
    return .call (← r.required "name" Decoder.string) (← r.required "args" (Decoder.list expr))
  | "call_agg" => do
    let r ← content.content? form ["name", "quantifier", "arg"]
    return .callAgg (← r.required "name" Decoder.string) (← r.required "quantifier" SetQuantifier.ofJson?)
      (← r.required "arg" expr)
  | "case" => do
    let r ← content.content? form ["operand", "branches", "default"]
    return .case (← r.nullable "operand" expr) (← r.required "branches" (Decoder.list (caseBranch expr)))
      (← r.nullable "default" expr)
  | "collection" => do
    let r ← content.content? form ["kind", "values"]
    return .collection (← r.required "kind" CollectionKind.ofJson?) (← r.required "values" (Decoder.list expr))
  | "struct" => do
    let r ← content.content? form ["fields"]
    return .struct (← r.required "fields" (Decoder.list (structField expr)))
  | "cast" => do
    let r ← content.content? form ["value", "as_type"]
    return .cast (← r.required "value" expr) (← r.required "as_type" Decoder.string)
  | "query" => return .query (← relation content)
  | _ => none

/-- An expression that nests less than `levels` deep. -/
def expr (form : Json.Form) (var : Decoder V) : Nat → Decoder (Expr V)
  | 0 => fun _ => none
  | levels + 1 => exprOf form var (expr form var levels) (relation form (expr form var levels) levels)

end Read

def Expr.ofJson? (form : Json.Form) (var : Decoder V) : Decoder (Expr V) := fun j => Read.expr form var (j.depth + 1) j

def Mutation.ofJson? (form : Json.Form) (var : Decoder V) : Decoder (Mutation V) := fun j => do
  let r ← j.record? ["action", "target", "rows"]
  return ⟨← r.required "action" Action.ofJson?, ← r.required "target" var,
    ← r.required "rows" (Expr.ofJson? form var)⟩

def Command.ofJson? (form : Json.Form) (var : Decoder V) : Decoder (Command V) := fun j => do
  let r ← j.record? ["action", "target_unique_id", "rows"]
  return ⟨← r.required "action" Decoder.string, ← r.required "target_unique_id" Decoder.string,
    ← r.required "rows" (Expr.ofJson? form var)⟩

def Statement.ofJson? (form : Json.Form) (var : Decoder V) : Decoder (Statement V) := fun j => do
  let choice ← j.choice?
  let content ← choice.content
  match choice.name with
  | "query" => return .query (← Expr.ofJson? form var content)
  | "dml" => return .dml (← Decoder.list (Mutation.ofJson? form var) content)
  | "dml_commands" => return .dmlCommands (← Decoder.list (Command.ofJson? form var) content)
  | "exec" => do
    let r ← content.content? form ["procedure", "args"]
    return .exec (← r.required "procedure" Decoder.string) (← r.required "args" (Decoder.list (Expr.ofJson? form var)))
  | _ => none

end Plan

/-! ## Whole plans -/

namespace LogicalPlan

def toJson (p : LogicalPlan) : Json :=
  .obj [("statement", p.statement.toJson Reference.toJson), ("locals", .ofList Local.toJson p.locals),
    ("scopes", p.scopes.toJson)]

def ofJson? (form : Json.Form) : Decoder LogicalPlan := fun j => do
  let r ← j.record? ["statement", "locals", "scopes"]
  return ⟨← r.required "statement" (Plan.Statement.ofJson? form Reference.ofJson?),
    ← r.required "locals" (Decoder.list Local.ofJson?), ← r.required "scopes" Scope.Tree.ofJson?⟩

end LogicalPlan

namespace ResolvedPlan

def toJson (p : ResolvedPlan) : Json :=
  .obj [("statement", p.statement.toJson Binding.toJson), ("locals", .ofList Local.toJson p.locals)]

def ofJson? (form : Json.Form) : Decoder ResolvedPlan := fun j => do
  let r ← j.record? ["statement", "locals"]
  return ⟨← r.required "statement" (Plan.Statement.ofJson? form (Binding.ofJson? form)),
    ← r.required "locals" (Decoder.list Local.ofJson?)⟩

end ResolvedPlan

end NestedQuery
