/-
The names of closed choices in exchanged documents. For each choice there is a list of its values and
the name of each; the JSON form of a value is its name.
-/
import NestedQuery.Catalog.Basic
import NestedQuery.Json.Decode
import NestedQuery.Plan.Basic
import NestedQuery.Scope.Tree

namespace NestedQuery

namespace CaseRule

def all : List CaseRule := [.sensitive, .insensitive]

def name : CaseRule → String
  | .sensitive => "sensitive"
  | .insensitive => "insensitive"

def toJson (r : CaseRule) : Json := .str r.name

def ofJson? : Decoder CaseRule := Json.oneOf? all name

end CaseRule

namespace ScopeQualifier

def all : List ScopeQualifier := [.default, .localsOnly]

def name : ScopeQualifier → String
  | .default => "default"
  | .localsOnly => "locals_only"

def toJson (q : ScopeQualifier) : Json := .str q.name

def ofJson? : Decoder ScopeQualifier := Json.oneOf? all name

end ScopeQualifier

namespace Role

def all : List Role := [.expression, .fromSource, .dmlTarget]

def name : Role → String
  | .expression => "expression"
  | .fromSource => "from_source"
  | .dmlTarget => "dml_target"

def toJson (r : Role) : Json := .str r.name

def ofJson? : Decoder Role := Json.oneOf? all name

end Role

namespace BinaryOp

def all : List BinaryOp :=
  [.add, .sub, .mul, .div, .mod, .eq, .notEq, .lt, .ltEq, .gt, .gtEq, .and, .or, .concat, .like, .isIn, .is]

def name : BinaryOp → String
  | .add => "add"
  | .sub => "sub"
  | .mul => "mul"
  | .div => "div"
  | .mod => "mod"
  | .eq => "eq"
  | .notEq => "not_eq"
  | .lt => "lt"
  | .ltEq => "lt_eq"
  | .gt => "gt"
  | .gtEq => "gt_eq"
  | .and => "and"
  | .or => "or"
  | .concat => "concat"
  | .like => "like"
  | .isIn => "in"
  | .is => "is"

def toJson (op : BinaryOp) : Json := .str op.name

def ofJson? : Decoder BinaryOp := Json.oneOf? all name

end BinaryOp

namespace UnaryOp

def all : List UnaryOp := [.neg, .pos, .not]

def name : UnaryOp → String
  | .neg => "neg"
  | .pos => "pos"
  | .not => "not"

def toJson (op : UnaryOp) : Json := .str op.name

def ofJson? : Decoder UnaryOp := Json.oneOf? all name

end UnaryOp

namespace CollectionKind

def all : List CollectionKind := [.list, .bag, .sexp]

def name : CollectionKind → String
  | .list => "list"
  | .bag => "bag"
  | .sexp => "sexp"

def toJson (k : CollectionKind) : Json := .str k.name

def ofJson? : Decoder CollectionKind := Json.oneOf? all name

end CollectionKind

namespace JoinKind

def all : List JoinKind := [.inner, .left, .right, .full, .cross]

def name : JoinKind → String
  | .inner => "inner"
  | .left => "left"
  | .right => "right"
  | .full => "full"
  | .cross => "cross"

def toJson (k : JoinKind) : Json := .str k.name

def ofJson? : Decoder JoinKind := Json.oneOf? all name

end JoinKind

namespace SetOpKind

def all : List SetOpKind := [.union, .intersect, .except]

def name : SetOpKind → String
  | .union => "union"
  | .intersect => "intersect"
  | .except => "except"

def toJson (k : SetOpKind) : Json := .str k.name

def ofJson? : Decoder SetOpKind := Json.oneOf? all name

end SetOpKind

namespace SetQuantifier

def values : List SetQuantifier := [.all, .distinct]

def name : SetQuantifier → String
  | .all => "all"
  | .distinct => "distinct"

def toJson (q : SetQuantifier) : Json := .str q.name

def ofJson? : Decoder SetQuantifier := Json.oneOf? values name

end SetQuantifier

namespace SortOrder

def all : List SortOrder := [.asc, .desc]

def name : SortOrder → String
  | .asc => "asc"
  | .desc => "desc"

def toJson (o : SortOrder) : Json := .str o.name

def ofJson? : Decoder SortOrder := Json.oneOf? all name

end SortOrder

namespace NullsOrder

def all : List NullsOrder := [.first, .last]

def name : NullsOrder → String
  | .first => "first"
  | .last => "last"

def toJson (o : NullsOrder) : Json := .str o.name

def ofJson? : Decoder NullsOrder := Json.oneOf? all name

end NullsOrder

namespace OnConflict

def all : List OnConflict := [.doReplaceExcluded, .doUpdateExcluded, .doNothing]

def name : OnConflict → String
  | .doReplaceExcluded => "do_replace_excluded"
  | .doUpdateExcluded => "do_update_excluded"
  | .doNothing => "do_nothing"

def toJson (c : OnConflict) : Json := .str c.name

def ofJson? : Decoder OnConflict := Json.oneOf? all name

end OnConflict

namespace EntityKind

def all : List EntityKind := [.table, .view, .procedure]

def name : EntityKind → String
  | .table => "table"
  | .view => "view"
  | .procedure => "procedure"

def toJson (k : EntityKind) : Json := .str k.name

def ofJson? : Decoder EntityKind := Json.oneOf? all name

end EntityKind

namespace Scope.FrameKind

def all : List FrameKind := [.statement, .query, .fromItem, .letBinding, .groupBy, .dmlSource]

def name : FrameKind → String
  | .statement => "statement"
  | .query => "query"
  | .fromItem => "from_item"
  | .letBinding => "let"
  | .groupBy => "group_by"
  | .dmlSource => "dml_source"

def toJson (k : FrameKind) : Json := .str k.name

def ofJson? : Decoder FrameKind := Json.oneOf? all name

end Scope.FrameKind

namespace Plan.Action

def all : List Action := [.insert, .delete, .replace, .update]

def toJson (a : Action) : Json := .str a.name

def ofJson? : Decoder Action := Json.oneOf? all name

end Plan.Action

end NestedQuery
