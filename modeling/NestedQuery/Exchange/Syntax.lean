/-
The JSON form of statements. Reading follows the nesting of the document, which bounds the recursion: a
part of an expression stands at least one level deeper than the expression.
-/
import NestedQuery.Exchange.Reference
import NestedQuery.Syntax.Basic

namespace NestedQuery.Syntax

namespace Var

def toJson (v : Var) : Json :=
  .obj [("name", v.name.toJson), ("qualifier", v.qualifier.toJson), ("location", v.location.toJson)]

def ofJson? : Decoder Var := fun j => do
  let r ← j.record? ["name", "qualifier", "location"]
  return ⟨← r.required "name" Identifier.ofJson?,
    ← r.withDefault "qualifier" .default ScopeQualifier.ofJson?,
    ← r.withDefault "location" {} Location.ofJson?⟩

end Var

namespace Alias

def toJson (a : Alias) : Json := .obj [("name", a.name.toJson), ("location", a.location.toJson)]

def ofJson? : Decoder Alias := fun j => do
  let r ← j.record? ["name", "location"]
  return ⟨← r.required "name" Identifier.ofJson?, ← r.withDefault "location" {} Location.ofJson?⟩

end Alias

/-! ## Writing -/

mutual

def Expr.toJson : Expr → Json
  | .lit value => .obj [("lit", value.toJson)]
  | .var v => .obj [("var", v.toJson)]
  | .path root steps => .obj [("path", .obj [("root", root.toJson), ("steps", .arr (stepsToJson steps))])]
  | .unary op operand => .obj [("unary", .obj [("op", op.toJson), ("operand", operand.toJson)])]
  | .binary op lhs rhs =>
    .obj [("binary", .obj [("op", op.toJson), ("lhs", lhs.toJson), ("rhs", rhs.toJson)])]
  | .call name args => .obj [("call", .obj [("name", .str name), ("args", .arr (exprsToJson args))])]
  | .callAgg name quantifier arg =>
    .obj [("call_agg", .obj [("name", .str name), ("quantifier", quantifier.toJson), ("arg", arg.toJson)])]
  | .case operand branches otherwise =>
    .obj [("case", .obj [("operand", optionToJson operand), ("branches", .arr (branchesToJson branches)),
      ("default", optionToJson otherwise)])]
  | .collection kind values =>
    .obj [("collection", .obj [("kind", kind.toJson), ("values", .arr (exprsToJson values))])]
  | .struct fields => .obj [("struct", .obj [("fields", .arr (fieldsToJson fields))])]
  | .cast value asType => .obj [("cast", .obj [("value", value.toJson), ("as_type", .str asType)])]
  | .select block => .obj [("select", block.toJson)]
  | .bagOp op quantifier left right =>
    .obj [("bag_op", .obj [("op", op.toJson), ("quantifier", quantifier.toJson), ("left", left.toJson),
      ("right", right.toJson)])]

def exprsToJson : List Expr → List Json
  | [] => []
  | e :: es => e.toJson :: exprsToJson es

def optionToJson : Option Expr → Json
  | none => .null
  | some e => e.toJson

def PathStep.toJson : PathStep → Json
  | .field name => .obj [("field", name.toJson)]
  | .index key => .obj [("index", key.toJson)]
  | .wildcard => .str "wildcard"
  | .unpivot => .str "unpivot"

def stepsToJson : List PathStep → List Json
  | [] => []
  | s :: ss => s.toJson :: stepsToJson ss

def branchesToJson : List CaseBranch → List Json
  | [] => []
  | ⟨condition, result⟩ :: bs =>
    .obj [("condition", condition.toJson), ("result", result.toJson)] :: branchesToJson bs

def fieldsToJson : List StructField → List Json
  | [] => []
  | ⟨key, value⟩ :: fs => .obj [("key", key.toJson), ("value", value.toJson)] :: fieldsToJson fs

def Select.toJson : Select → Json
  | ⟨quantifier, projection, source, lets, filter, groupBy, having, orderBy, limit, offset⟩ =>
    .obj [("quantifier", quantifier.toJson), ("projection", projection.toJson),
      ("from", sourceToJson source), ("let_bindings", .arr (letsToJson lets)),
      ("where_clause", optionToJson filter), ("group_by", groupByToJson groupBy),
      ("having", optionToJson having), ("order_by", .arr (ordersToJson orderBy)),
      ("limit", optionToJson limit), ("offset", optionToJson offset)]

def Projection.toJson : Projection → Json
  | .star => .str "star"
  | .list items => .obj [("list", .arr (itemsToJson items))]
  | .value expr => .obj [("value", expr.toJson)]
  | .pivot value key => .obj [("pivot", .obj [("value", value.toJson), ("key", key.toJson)])]

def itemsToJson : List SelectItem → List Json
  | [] => []
  | .expr expr asAlias :: items =>
    .obj [("expr", .obj [("expr", expr.toJson), ("alias", .ofOption Alias.toJson asAlias)])] ::
      itemsToJson items
  | .all expr :: items => .obj [("all", expr.toJson)] :: itemsToJson items

def FromSource.toJson : FromSource → Json
  | .scan item => .obj [("scan", item.toJson)]
  | .unpivot item => .obj [("unpivot", item.toJson)]
  | .join kind left right predicate =>
    .obj [("join", .obj [("kind", kind.toJson), ("left", left.toJson), ("right", right.toJson),
      ("predicate", optionToJson predicate)])]

def sourceToJson : Option FromSource → Json
  | none => .null
  | some source => source.toJson

def FromItem.toJson : FromItem → Json
  | ⟨expr, asAlias, atAlias, byAlias, location⟩ =>
    .obj [("expr", expr.toJson), ("as_alias", .ofOption Alias.toJson asAlias),
      ("at_alias", .ofOption Alias.toJson atAlias), ("by_alias", .ofOption Alias.toJson byAlias),
      ("location", location.toJson)]

def letsToJson : List LetBinding → List Json
  | [] => []
  | ⟨expr, asAlias⟩ :: lets => .obj [("expr", expr.toJson), ("alias", asAlias.toJson)] :: letsToJson lets

def groupByToJson : Option GroupBy → Json
  | none => .null
  | some ⟨keys, groupAs⟩ =>
    .obj [("keys", .arr (keysToJson keys)), ("group_as", .ofOption Alias.toJson groupAs)]

def keysToJson : List GroupKey → List Json
  | [] => []
  | ⟨expr, asAlias, location⟩ :: keys =>
    .obj [("expr", expr.toJson), ("alias", .ofOption Alias.toJson asAlias),
      ("location", .ofOption Location.toJson location)] :: keysToJson keys

def ordersToJson : List OrderItem → List Json
  | [] => []
  | ⟨expr, order, nulls⟩ :: items =>
    .obj [("expr", expr.toJson), ("order", .ofOption SortOrder.toJson order),
      ("nulls", .ofOption NullsOrder.toJson nulls)] :: ordersToJson items

end

namespace RowStep

def toJson : RowStep → Json
  | .field name => .obj [("field", name.toJson)]
  | .index key => .obj [("index", key.toJson)]

end RowStep

namespace RowPath

def toJson (p : RowPath) : Json :=
  .obj [("root", p.root.toJson), ("steps", .ofList RowStep.toJson p.steps)]

end RowPath

namespace Assignment

def toJson (a : Assignment) : Json := .obj [("target", a.target.toJson), ("value", a.value.toJson)]

end Assignment

namespace MutationOp

def toJson : MutationOp → Json
  | .insert target values => .obj [("insert", .obj [("target", target.toJson), ("values", values.toJson)])]
  | .insertValue target value onConflict =>
    .obj [("insert_value", .obj [("target", target.toJson), ("value", value.toJson),
      ("on_conflict", .ofOption OnConflict.toJson onConflict)])]
  | .set assignments => .obj [("set", .ofList Assignment.toJson assignments)]
  | .remove path => .obj [("remove", path.toJson)]

end MutationOp

namespace MutationSource

def toJson (s : MutationSource) : Json :=
  .obj [("target", s.target.toJson), ("as_alias", .ofOption Alias.toJson s.asAlias),
    ("at_alias", .ofOption Alias.toJson s.atAlias), ("by_alias", .ofOption Alias.toJson s.byAlias),
    ("where_clause", .ofOption Expr.toJson s.filter)]

end MutationSource

namespace Mutation

def toJson (m : Mutation) : Json :=
  .obj [("operations", .ofList MutationOp.toJson m.operations),
    ("source", .ofOption MutationSource.toJson m.source), ("location", m.location.toJson)]

end Mutation

namespace Statement

def toJson : Statement → Json
  | .query expr => .obj [("query", expr.toJson)]
  | .dml mutation => .obj [("dml", mutation.toJson)]
  | .exec procedure args =>
    .obj [("exec", .obj [("procedure", .str procedure), ("args", .ofList Expr.toJson args)])]

end Statement

/-! ## Reading

Each reader of a part takes the reader of the expressions in it. -/

namespace Read

def pathStep (expr : Decoder Expr) : Decoder PathStep := fun j => do
  let choice ← j.choice?
  match choice.name, choice.content with
  | "field", some c => return .field (← Identifier.ofJson? c)
  | "index", some c => return .index (← expr c)
  | "wildcard", _ => if choice.isBare then some .wildcard else none
  | "unpivot", _ => if choice.isBare then some .unpivot else none
  | _, _ => none

def caseBranch (expr : Decoder Expr) : Decoder CaseBranch := fun j => do
  let r ← j.record? ["condition", "result"]
  return ⟨← r.required "condition" expr, ← r.required "result" expr⟩

def structField (expr : Decoder Expr) : Decoder StructField := fun j => do
  let r ← j.record? ["key", "value"]
  return ⟨← r.required "key" expr, ← r.required "value" expr⟩

def selectItem (form : Json.Form) (expr : Decoder Expr) : Decoder SelectItem := fun j => do
  let choice ← j.choice?
  match choice.name, choice.content with
  | "expr", some c => do
    let r ← c.content? form ["expr", "alias"]
    return .expr (← r.required "expr" expr) (← r.nullable "alias" Alias.ofJson?)
  | "all", some c => return .all (← expr c)
  | _, _ => none

def projection (form : Json.Form) (expr : Decoder Expr) : Decoder Projection := fun j => do
  let choice ← j.choice?
  match choice.name, choice.content with
  | "star", _ => if choice.isBare then some .star else none
  | "list", some c => return .list (← Decoder.list (selectItem form expr) c)
  | "value", some c => return .value (← expr c)
  | "pivot", some c => do
    let r ← c.content? form ["value", "key"]
    return .pivot (← r.required "value" expr) (← r.required "key" expr)
  | _, _ => none

def fromItem (expr : Decoder Expr) : Decoder FromItem := fun j => do
  let r ← j.record? ["expr", "as_alias", "at_alias", "by_alias", "location"]
  return ⟨← r.required "expr" expr, ← r.optional "as_alias" Alias.ofJson?,
    ← r.optional "at_alias" Alias.ofJson?, ← r.optional "by_alias" Alias.ofJson?,
    ← r.withDefault "location" {} Location.ofJson?⟩

/-- The sources of a join stand one level deeper than the join. -/
def fromSource (form : Json.Form) (expr : Decoder Expr) : Nat → Decoder FromSource
  | 0 => fun _ => none
  | levels + 1 => fun j => do
    let choice ← j.choice?
    match choice.name, choice.content with
    | "scan", some c => return .scan (← fromItem expr c)
    | "unpivot", some c => return .unpivot (← fromItem expr c)
    | "join", some c => do
      let r ← c.content? form ["kind", "left", "right", "predicate"]
      return .join (← r.required "kind" JoinKind.ofJson?) (← r.required "left" (fromSource form expr levels))
        (← r.required "right" (fromSource form expr levels)) (← r.nullable "predicate" expr)
    | _, _ => none

def letBinding (expr : Decoder Expr) : Decoder LetBinding := fun j => do
  let r ← j.record? ["expr", "alias"]
  return ⟨← r.required "expr" expr, ← r.required "alias" Alias.ofJson?⟩

def groupKey (expr : Decoder Expr) : Decoder GroupKey := fun j => do
  let r ← j.record? ["expr", "alias", "location"]
  return ⟨← r.required "expr" expr, ← r.optional "alias" Alias.ofJson?,
    ← r.optional "location" Location.ofJson?⟩

def groupBy (expr : Decoder Expr) : Decoder GroupBy := fun j => do
  let r ← j.record? ["keys", "group_as"]
  return ⟨← r.required "keys" (Decoder.list (groupKey expr)), ← r.optional "group_as" Alias.ofJson?⟩

def orderItem (expr : Decoder Expr) : Decoder OrderItem := fun j => do
  let r ← j.record? ["expr", "order", "nulls"]
  return ⟨← r.required "expr" expr, ← r.optional "order" SortOrder.ofJson?,
    ← r.optional "nulls" NullsOrder.ofJson?⟩

def select (form : Json.Form) (expr : Decoder Expr) (source : Decoder FromSource) : Decoder Select := fun j => do
  let r ← j.record? ["quantifier", "projection", "from", "let_bindings", "where_clause", "group_by",
    "having", "order_by", "limit", "offset"]
  return ⟨← r.withDefault "quantifier" .all SetQuantifier.ofJson?, ← r.required "projection" (projection form expr),
    ← r.nullable "from" source, ← r.withDefault "let_bindings" [] (Decoder.list (letBinding expr)),
    ← r.optional "where_clause" expr, ← r.optional "group_by" (groupBy expr), ← r.optional "having" expr,
    ← r.withDefault "order_by" [] (Decoder.list (orderItem expr)), ← r.optional "limit" expr,
    ← r.optional "offset" expr⟩

/-- An expression whose parts are read by `expr` and `source`. -/
def exprOf (form : Json.Form) (expr : Decoder Expr) (source : Decoder FromSource) : Decoder Expr := fun j => do
  let choice ← j.choice?
  let content ← choice.content
  match choice.name with
  | "lit" => return .lit (← Literal.ofJson? content)
  | "var" => return .var (← Var.ofJson? content)
  | "path" => do
    let r ← content.content? form ["root", "steps"]
    return .path (← r.required "root" expr) (← r.required "steps" (Decoder.list (pathStep expr)))
  | "unary" => do
    let r ← content.content? form ["op", "operand"]
    return .unary (← r.required "op" UnaryOp.ofJson?) (← r.required "operand" expr)
  | "binary" => do
    let r ← content.content? form ["op", "lhs", "rhs"]
    return .binary (← r.required "op" BinaryOp.ofJson?) (← r.required "lhs" expr) (← r.required "rhs" expr)
  | "call" => do
    let r ← content.content? form ["name", "args"]
    return .call (← r.required "name" Decoder.string) (← r.required "args" (Decoder.list expr))
  | "call_agg" => do
    let r ← content.content? form ["name", "quantifier", "arg"]
    return .callAgg (← r.required "name" Decoder.string) (← r.required "quantifier" SetQuantifier.ofJson?)
      (← r.required "arg" expr)
  | "case" => do
    let r ← content.content? form ["operand", "branches", "default"]
    return .case (← r.nullable "operand" expr) (← r.required "branches" (Decoder.list (caseBranch expr)))
      (← r.nullable "default" expr)
  | "collection" => do
    let r ← content.content? form ["kind", "values"]
    return .collection (← r.required "kind" CollectionKind.ofJson?) (← r.required "values" (Decoder.list expr))
  | "struct" => do
    let r ← content.content? form ["fields"]
    return .struct (← r.required "fields" (Decoder.list (structField expr)))
  | "cast" => do
    let r ← content.content? form ["value", "as_type"]
    return .cast (← r.required "value" expr) (← r.required "as_type" Decoder.string)
  | "select" => return .select (← select form expr source content)
  | "bag_op" => do
    let r ← content.content? form ["op", "quantifier", "left", "right"]
    return .bagOp (← r.required "op" SetOpKind.ofJson?) (← r.required "quantifier" SetQuantifier.ofJson?)
      (← r.required "left" expr) (← r.required "right" expr)
  | _ => none

/-- An expression that nests less than `levels` deep. -/
def expr (form : Json.Form) : Nat → Decoder Expr
  | 0 => fun _ => none
  | levels + 1 => exprOf form (expr form levels) (fromSource form (expr form levels) levels)

end Read

def Expr.ofJson? (form : Json.Form) : Decoder Expr := fun j => Read.expr form (j.depth + 1) j

def RowStep.ofJson? (form : Json.Form) : Decoder RowStep := fun j => do
  let choice ← j.choice?
  match choice.name, choice.content with
  | "field", some c => return .field (← Identifier.ofJson? c)
  | "index", some c => return .index (← Expr.ofJson? form c)
  | _, _ => none

def RowPath.ofJson? (form : Json.Form) : Decoder RowPath := fun j => do
  let r ← j.record? ["root", "steps"]
  return ⟨← r.required "root" Var.ofJson?, ← r.withDefault "steps" [] (Decoder.list (RowStep.ofJson? form))⟩

def Assignment.ofJson? (form : Json.Form) : Decoder Assignment := fun j => do
  let r ← j.record? ["target", "value"]
  return ⟨← r.required "target" (RowPath.ofJson? form), ← r.required "value" (Expr.ofJson? form)⟩

def MutationOp.ofJson? (form : Json.Form) : Decoder MutationOp := fun j => do
  let choice ← j.choice?
  let content ← choice.content
  match choice.name with
  | "insert" => do
    let r ← content.content? form ["target", "values"]
    return .insert (← r.required "target" Var.ofJson?) (← r.required "values" (Expr.ofJson? form))
  | "insert_value" => do
    let r ← content.content? form ["target", "value", "on_conflict"]
    return .insertValue (← r.required "target" Var.ofJson?) (← r.required "value" (Expr.ofJson? form))
      (← r.optional "on_conflict" OnConflict.ofJson?)
  | "set" => return .set (← Decoder.list (Assignment.ofJson? form) content)
  | "remove" => return .remove (← RowPath.ofJson? form content)
  | _ => none

def MutationSource.ofJson? (form : Json.Form) : Decoder MutationSource := fun j => do
  let r ← j.record? ["target", "as_alias", "at_alias", "by_alias", "where_clause"]
  return ⟨← r.required "target" Var.ofJson?, ← r.optional "as_alias" Alias.ofJson?,
    ← r.optional "at_alias" Alias.ofJson?, ← r.optional "by_alias" Alias.ofJson?,
    ← r.optional "where_clause" (Expr.ofJson? form)⟩

def Mutation.ofJson? (form : Json.Form) : Decoder Mutation := fun j => do
  let r ← j.record? ["operations", "source", "location"]
  return ⟨← r.required "operations" (Decoder.list (MutationOp.ofJson? form)),
    ← r.optional "source" (MutationSource.ofJson? form), ← r.withDefault "location" {} Location.ofJson?⟩

def Statement.ofJson? (form : Json.Form) : Decoder Statement := fun j => do
  let choice ← j.choice?
  let content ← choice.content
  match choice.name with
  | "query" => return .query (← Expr.ofJson? form content)
  | "dml" => return .dml (← Mutation.ofJson? form content)
  | "exec" => do
    let r ← content.record? ["procedure", "args"]
    return .exec (← r.required "procedure" Decoder.string)
      (← r.withDefault "args" [] (Decoder.list (Expr.ofJson? form)))
  | _ => none

end NestedQuery.Syntax
