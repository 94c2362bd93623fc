/-
The exchanged form of a statement reads back as the statement. Reading is bounded by the nesting of the document, and
a part of an expression nests less deep than the expression, so the bound that is left always suffices for the part.
-/
import NestedQuery.Exchange.Syntax
import NestedQuery.Proofs.Exchange.Reference

namespace NestedQuery.Syntax

open Decoder (andThen required_of withDefault_of optional_of nullable_of)
open Json (depth_obj_lt depth_arr_lt depthMembers_cons_lt depthItems_cons_lt)

theorem Var.ofJson?_toJson (v : Var) : ofJson? v.toJson = some v :=
  andThen rfl <| andThen (required_of rfl (Identifier.ofJson?_toJson _)) <|
    andThen (withDefault_of rfl (ScopeQualifier.ofJson?_toJson _)) <|
    andThen (withDefault_of rfl (Location.ofJson?_toJson _)) rfl

theorem Alias.ofJson?_toJson (a : Alias) : ofJson? a.toJson = some a :=
  andThen rfl <| andThen (required_of rfl (Identifier.ofJson?_toJson _)) <|
    andThen (withDefault_of rfl (Location.ofJson?_toJson _)) rfl

theorem Alias.nullable_ofOption (a : Option Alias) :
    Decoder.nullable ofJson? (.ofOption toJson a) = some a :=
  Decoder.nullable_ofOption rfl fun a _ => ofJson?_toJson a

/-! ## Expressions and blocks -/

section

variable {form : Json.Form}

theorem Read.expr_null : ∀ n, Read.expr form n .null = none
  | 0 => rfl
  | _ + 1 => rfl

theorem Read.fromSource_null (expr : Decoder Expr) : ∀ n, Read.fromSource form expr n .null = none
  | 0 => rfl
  | _ + 1 => rfl

mutual

/-- Every bound above the nesting of what is written suffices to read it back. -/
theorem expr_reads : ∀ (e : Expr) {n : Nat}, e.toJson.depth < n → Read.expr form n e.toJson = some e
  | _, 0, h => absurd h (Nat.not_lt_zero _)
  | .lit value, _ + 1, _ => andThen rfl <| andThen rfl <| andThen (Literal.ofJson?_toJson value) rfl
  | .var v, _ + 1, _ => andThen rfl <| andThen rfl <| andThen (Var.ofJson?_toJson v) rfl
  | .path root steps, n + 1, h => by
    simp only [Expr.toJson, depth_obj_lt, depthMembers_cons_lt, depth_arr_lt] at h
    have hroot := expr_reads root (show _ < n by omega)
    have hsteps := steps_reads steps (show _ < n by omega)
    -- the name of the alternative, its content and the record in it are found by computing, then come the fields
    exact andThen rfl <| andThen rfl <| andThen rfl <| andThen (required_of rfl hroot) <|
      andThen (required_of rfl hsteps) rfl
  | .unary op operand, n + 1, h => by
    simp only [Expr.toJson, depth_obj_lt, depthMembers_cons_lt] at h
    have hoperand := expr_reads operand (show _ < n by omega)
    exact andThen rfl <| andThen rfl <| andThen rfl <| andThen (required_of rfl (UnaryOp.ofJson?_toJson op)) <|
      andThen (required_of rfl hoperand) rfl
  | .binary op lhs rhs, n + 1, h => by
    simp only [Expr.toJson, depth_obj_lt, depthMembers_cons_lt] at h
    have hlhs := expr_reads lhs (show _ < n by omega)
    have hrhs := expr_reads rhs (show _ < n by omega)
    exact andThen rfl <| andThen rfl <| andThen rfl <| andThen (required_of rfl (BinaryOp.ofJson?_toJson op)) <|
      andThen (required_of rfl hlhs) <| andThen (required_of rfl hrhs) rfl
  | .call name args, n + 1, h => by
    simp only [Expr.toJson, depth_obj_lt, depthMembers_cons_lt, depth_arr_lt] at h
    have hargs := exprs_reads args (show _ < n by omega)
    exact andThen rfl <| andThen rfl <| andThen rfl <| andThen (required_of rfl rfl) <|
      andThen (required_of rfl hargs) rfl
  | .callAgg name quantifier arg, n + 1, h => by
    simp only [Expr.toJson, depth_obj_lt, depthMembers_cons_lt] at h
    have harg := expr_reads arg (show _ < n by omega)
    exact andThen rfl <| andThen rfl <| andThen rfl <| andThen (required_of rfl rfl) <|
      andThen (required_of rfl (SetQuantifier.ofJson?_toJson quantifier)) <| andThen (required_of rfl harg) rfl
  | .case operand branches otherwise, n + 1, h => by
    simp only [Expr.toJson, depth_obj_lt, depthMembers_cons_lt, depth_arr_lt] at h
    have hoperand := option_reads operand (show _ < n by omega)
    have hbranches := branches_reads branches (show _ < n by omega)
    have hotherwise := option_reads otherwise (show _ < n by omega)
    exact andThen rfl <| andThen rfl <| andThen rfl <| andThen (nullable_of rfl hoperand) <|
      andThen (required_of rfl hbranches) <| andThen (nullable_of rfl hotherwise) rfl
  | .collection kind values, n + 1, h => by
    simp only [Expr.toJson, depth_obj_lt, depthMembers_cons_lt, depth_arr_lt] at h
    have hvalues := exprs_reads values (show _ < n by omega)
    exact andThen rfl <| andThen rfl <| andThen rfl <| andThen (required_of rfl (CollectionKind.ofJson?_toJson kind)) <|
      andThen (required_of rfl hvalues) rfl
  | .struct fields, n + 1, h => by
    simp only [Expr.toJson, depth_obj_lt, depthMembers_cons_lt, depth_arr_lt] at h
    have hfields := fields_reads fields (show _ < n by omega)
    exact andThen rfl <| andThen rfl <| andThen rfl <| andThen (required_of rfl hfields) rfl
  | .cast value asType, n + 1, h => by
    simp only [Expr.toJson, depth_obj_lt, depthMembers_cons_lt] at h
    have hvalue := expr_reads value (show _ < n by omega)
    exact andThen rfl <| andThen rfl <| andThen rfl <| andThen (required_of rfl hvalue) <|
      andThen (required_of rfl rfl) rfl
  | .select block, n + 1, h => by
    simp only [Expr.toJson, depth_obj_lt, depthMembers_cons_lt] at h
    exact andThen rfl <| andThen rfl <| andThen (select_reads block (show _ < n by omega)) rfl
  | .bagOp op quantifier left right, n + 1, h => by
    simp only [Expr.toJson, depth_obj_lt, depthMembers_cons_lt] at h
    have hleft := expr_reads left (show _ < n by omega)
    have hright := expr_reads right (show _ < n by omega)
    exact andThen rfl <| andThen rfl <| andThen rfl <| andThen (required_of rfl (SetOpKind.ofJson?_toJson op)) <|
      andThen (required_of rfl (SetQuantifier.ofJson?_toJson quantifier)) <| andThen (required_of rfl hleft) <|
      andThen (required_of rfl hright) rfl

theorem exprs_reads : ∀ (es : List Expr) {n : Nat}, Json.depthItems (exprsToJson es) < n →
    Decoder.list (Read.expr form n) (.arr (exprsToJson es)) = some es
  | [], _, _ => rfl
  | e :: es, n, h => by
    simp only [exprsToJson, depthItems_cons_lt] at h
    exact Decoder.list_cons (expr_reads e (by omega)) (exprs_reads es (by omega))

theorem option_reads : ∀ (e : Option Expr) {n : Nat}, (optionToJson e).depth < n →
    (Read.expr form n).nullable (optionToJson e) = some e
  | none, _, _ => rfl
  | some e, n, h => Decoder.nullable_some (Read.expr_null n) (expr_reads e h)

theorem steps_reads : ∀ (steps : List PathStep) {n : Nat}, Json.depthItems (stepsToJson steps) < n →
    Decoder.list (Read.pathStep (Read.expr form n)) (.arr (stepsToJson steps)) = some steps
  | [], _, _ => rfl
  | s :: ss, n, h => by
    simp only [stepsToJson, depthItems_cons_lt] at h
    exact Decoder.list_cons (step_reads s (by omega)) (steps_reads ss (by omega))

theorem step_reads : ∀ (s : PathStep) {n : Nat}, s.toJson.depth < n →
    Read.pathStep (Read.expr form n) s.toJson = some s
  | .field name, _, _ => andThen rfl <| andThen (Identifier.ofJson?_toJson name) rfl
  | .index key, n, h => by
    simp only [PathStep.toJson, depth_obj_lt, depthMembers_cons_lt] at h
    exact andThen rfl <| andThen (expr_reads key (show _ < n by omega)) rfl
  | .wildcard, _, _ => rfl
  | .unpivot, _, _ => rfl

theorem branches_reads : ∀ (branches : List CaseBranch) {n : Nat}, Json.depthItems (branchesToJson branches) < n →
    Decoder.list (Read.caseBranch (Read.expr form n)) (.arr (branchesToJson branches)) = some branches
  | [], _, _ => rfl
  | ⟨condition, result⟩ :: branches, n, h => by
    simp only [branchesToJson, depthItems_cons_lt, depth_obj_lt, depthMembers_cons_lt] at h
    have hcondition := expr_reads condition (show _ < n by omega)
    have hresult := expr_reads result (show _ < n by omega)
    refine Decoder.list_cons ?_ (branches_reads branches (by omega))
    exact andThen rfl <| andThen (required_of rfl hcondition) <| andThen (required_of rfl hresult) rfl

theorem fields_reads : ∀ (fields : List StructField) {n : Nat}, Json.depthItems (fieldsToJson fields) < n →
    Decoder.list (Read.structField (Read.expr form n)) (.arr (fieldsToJson fields)) = some fields
  | [], _, _ => rfl
  | ⟨key, value⟩ :: fields, n, h => by
    simp only [fieldsToJson, depthItems_cons_lt, depth_obj_lt, depthMembers_cons_lt] at h
    have hkey := expr_reads key (show _ < n by omega)
    have hvalue := expr_reads value (show _ < n by omega)
    refine Decoder.list_cons ?_ (fields_reads fields (by omega))
    exact andThen rfl <| andThen (required_of rfl hkey) <| andThen (required_of rfl hvalue) rfl

theorem select_reads : ∀ (block : Select) {n : Nat}, block.toJson.depth < n →
    Read.select form (Read.expr form n) (Read.fromSource form (Read.expr form n) n) block.toJson = some block
  | ⟨quantifier, projection, source, lets, filter, groupBy, having, orderBy, limit, offset⟩, n, h => by
    simp only [Select.toJson, depth_obj_lt, depthMembers_cons_lt, depth_arr_lt] at h
    have hprojection := projection_reads projection (show _ < n by omega)
    have hsource := source_reads source (show _ < n by omega)
    have hlets := lets_reads lets (show _ < n by omega)
    have hfilter := option_reads filter (show _ < n by omega)
    have hgroupBy := groupBy_reads groupBy (show _ < n by omega)
    have hhaving := option_reads having (show _ < n by omega)
    have horderBy := orders_reads orderBy (show _ < n by omega)
    have hlimit := option_reads limit (show _ < n by omega)
    have hoffset := option_reads offset (show _ < n by omega)
    exact andThen rfl <| andThen (withDefault_of rfl (SetQuantifier.ofJson?_toJson quantifier)) <|
      andThen (required_of rfl hprojection) <| andThen (nullable_of rfl hsource) <|
      andThen (withDefault_of rfl hlets) <| andThen (optional_of rfl hfilter) <| andThen (optional_of rfl hgroupBy) <|
      andThen (optional_of rfl hhaving) <| andThen (withDefault_of rfl horderBy) <| andThen (optional_of rfl hlimit) <|
      andThen (optional_of rfl hoffset) rfl

theorem projection_reads : ∀ (p : Projection) {n : Nat}, p.toJson.depth < n →
    Read.projection form (Read.expr form n) p.toJson = some p
  | .star, _, _ => rfl
  | .list items, n, h => by
    simp only [Projection.toJson, depth_obj_lt, depthMembers_cons_lt, depth_arr_lt] at h
    exact andThen rfl <| andThen (items_reads items (show _ < n by omega)) rfl
  | .value expr, n, h => by
    simp only [Projection.toJson, depth_obj_lt, depthMembers_cons_lt] at h
    exact andThen rfl <| andThen (expr_reads expr (show _ < n by omega)) rfl
  | .pivot value key, n, h => by
    simp only [Projection.toJson, depth_obj_lt, depthMembers_cons_lt] at h
    have hvalue := expr_reads value (show _ < n by omega)
    have hkey := expr_reads key (show _ < n by omega)
    exact andThen rfl <| andThen rfl <| andThen (required_of rfl hvalue) <| andThen (required_of rfl hkey) rfl

theorem items_reads : ∀ (items : List SelectItem) {n : Nat}, Json.depthItems (itemsToJson items) < n →
    Decoder.list (Read.selectItem form (Read.expr form n)) (.arr (itemsToJson items)) = some items
  | [], _, _ => rfl
  | .expr expr asAlias :: items, n, h => by
    simp only [itemsToJson, depthItems_cons_lt, depth_obj_lt, depthMembers_cons_lt] at h
    have hexpr := expr_reads expr (show _ < n by omega)
    refine Decoder.list_cons ?_ (items_reads items (by omega))
    exact andThen rfl <| andThen rfl <| andThen (required_of rfl hexpr) <|
      andThen (nullable_of rfl (Alias.nullable_ofOption asAlias)) rfl
  | .all expr :: items, n, h => by
    simp only [itemsToJson, depthItems_cons_lt, depth_obj_lt, depthMembers_cons_lt] at h
    refine Decoder.list_cons ?_ (items_reads items (by omega))
    exact andThen rfl <| andThen (expr_reads expr (show _ < n by omega)) rfl

theorem source_reads : ∀ (source : Option FromSource) {n : Nat}, (sourceToJson source).depth < n →
    (Read.fromSource form (Read.expr form n) n).nullable (sourceToJson source) = some source
  | none, _, _ => rfl
  | some source, n, h =>
    Decoder.nullable_some (Read.fromSource_null _ n) (from_reads source h (Nat.lt_succ_of_lt h))

theorem from_reads : ∀ (source : FromSource) {n m : Nat}, source.toJson.depth < m → source.toJson.depth < n + 1 →
    Read.fromSource form (Read.expr form n) m source.toJson = some source
  | _, _, 0, h, _ => absurd h (Nat.not_lt_zero _)
  | .scan item, n, m + 1, _, h => by
    simp only [FromSource.toJson, depth_obj_lt, depthMembers_cons_lt] at h
    exact andThen rfl <| andThen (item_reads item (show _ < n by omega)) rfl
  | .unpivot item, n, m + 1, _, h => by
    simp only [FromSource.toJson, depth_obj_lt, depthMembers_cons_lt] at h
    exact andThen rfl <| andThen (item_reads item (show _ < n by omega)) rfl
  | .join kind left right predicate, n, m + 1, hm, hn => by
    -- joins use up the bound `m`, while the expressions in all of them share the bound `n`
    simp only [FromSource.toJson, depth_obj_lt, depthMembers_cons_lt] at hm hn
    have hleft := from_reads left (show _ < m by omega) (show _ < n + 1 by omega)
    have hright := from_reads right (show _ < m by omega) (show _ < n + 1 by omega)
    have hpredicate := option_reads predicate (show _ < n by omega)
    exact andThen rfl <| andThen rfl <| andThen (required_of rfl (JoinKind.ofJson?_toJson kind)) <|
      andThen (required_of rfl hleft) <| andThen (required_of rfl hright) <| andThen (nullable_of rfl hpredicate) rfl

theorem item_reads : ∀ (item : FromItem) {n : Nat}, item.toJson.depth < n →
    Read.fromItem (Read.expr form n) item.toJson = some item
  | ⟨expr, asAlias, atAlias, byAlias, location⟩, n, h => by
    simp only [FromItem.toJson, depth_obj_lt, depthMembers_cons_lt] at h
    have hexpr := expr_reads expr (show _ < n by omega)
    exact andThen rfl <| andThen (required_of rfl hexpr) <|
      andThen (optional_of rfl (Alias.nullable_ofOption asAlias)) <|
      andThen (optional_of rfl (Alias.nullable_ofOption atAlias)) <|
      andThen (optional_of rfl (Alias.nullable_ofOption byAlias)) <|
      andThen (withDefault_of rfl (Location.ofJson?_toJson location)) rfl

theorem lets_reads : ∀ (lets : List LetBinding) {n : Nat}, Json.depthItems (letsToJson lets) < n →
    Decoder.list (Read.letBinding (Read.expr form n)) (.arr (letsToJson lets)) = some lets
  | [], _, _ => rfl
  | ⟨expr, asAlias⟩ :: lets, n, h => by
    simp only [letsToJson, depthItems_cons_lt, depth_obj_lt, depthMembers_cons_lt] at h
    have hexpr := expr_reads expr (show _ < n by omega)
    refine Decoder.list_cons ?_ (lets_reads lets (by omega))
    exact andThen rfl <| andThen (required_of rfl hexpr) <| andThen (required_of rfl (Alias.ofJson?_toJson asAlias)) rfl

theorem groupBy_reads : ∀ (groupBy : Option GroupBy) {n : Nat}, (groupByToJson groupBy).depth < n →
    (Read.groupBy (Read.expr form n)).nullable (groupByToJson groupBy) = some groupBy
  | none, _, _ => rfl
  | some ⟨keys, groupAs⟩, n, h => by
    simp only [groupByToJson, depth_obj_lt, depthMembers_cons_lt, depth_arr_lt] at h
    have hkeys := keys_reads keys (show _ < n by omega)
    refine Decoder.nullable_some rfl ?_
    exact andThen rfl <| andThen (required_of rfl hkeys) <|
      andThen (optional_of rfl (Alias.nullable_ofOption groupAs)) rfl

theorem keys_reads : ∀ (keys : List GroupKey) {n : Nat}, Json.depthItems (keysToJson keys) < n →
    Decoder.list (Read.groupKey (Read.expr form n)) (.arr (keysToJson keys)) = some keys
  | [], _, _ => rfl
  | ⟨expr, asAlias, location⟩ :: keys, n, h => by
    simp only [keysToJson, depthItems_cons_lt, depth_obj_lt, depthMembers_cons_lt] at h
    have hexpr := expr_reads expr (show _ < n by omega)
    have hlocation := Decoder.nullable_ofOption rfl fun l (_ : l ∈ location) => Location.ofJson?_toJson l
    refine Decoder.list_cons ?_ (keys_reads keys (by omega))
    exact andThen rfl <| andThen (required_of rfl hexpr) <|
      andThen (optional_of rfl (Alias.nullable_ofOption asAlias)) <| andThen (optional_of rfl hlocation) rfl

theorem orders_reads : ∀ (items : List OrderItem) {n : Nat}, Json.depthItems (ordersToJson items) < n →
    Decoder.list (Read.orderItem (Read.expr form n)) (.arr (ordersToJson items)) = some items
  | [], _, _ => rfl
  | ⟨expr, order, nulls⟩ :: items, n, h => by
    simp only [ordersToJson, depthItems_cons_lt, depth_obj_lt, depthMembers_cons_lt] at h
    have hexpr := expr_reads expr (show _ < n by omega)
    have horder := Decoder.nullable_ofOption rfl fun o (_ : o ∈ order) => SortOrder.ofJson?_toJson o
    have hnulls := Decoder.nullable_ofOption rfl fun o (_ : o ∈ nulls) => NullsOrder.ofJson?_toJson o
    refine Decoder.list_cons ?_ (orders_reads items (by omega))
    exact andThen rfl <| andThen (required_of rfl hexpr) <| andThen (optional_of rfl horder) <|
      andThen (optional_of rfl hnulls) rfl

end

end

theorem Expr.ofJson?_toJson (form : Json.Form) (e : Expr) : ofJson? form e.toJson = some e :=
  expr_reads e (Nat.lt_succ_self _)

/-! ## Statements -/

variable (form : Json.Form)

theorem RowStep.ofJson?_toJson : ∀ s : RowStep, ofJson? form s.toJson = some s
  | .field name => andThen rfl <| andThen (Identifier.ofJson?_toJson name) rfl
  | .index key => andThen rfl <| andThen (Expr.ofJson?_toJson form key) rfl

theorem RowPath.ofJson?_toJson (p : RowPath) : ofJson? form p.toJson = some p :=
  andThen rfl <| andThen (required_of rfl (Var.ofJson?_toJson p.root)) <|
    andThen (withDefault_of rfl (Decoder.list_ofList fun s _ => RowStep.ofJson?_toJson form s)) rfl

theorem Assignment.ofJson?_toJson (a : Assignment) : ofJson? form a.toJson = some a :=
  andThen rfl <| andThen (required_of rfl (RowPath.ofJson?_toJson form a.target)) <|
    andThen (required_of rfl (Expr.ofJson?_toJson form a.value)) rfl

theorem MutationOp.ofJson?_toJson : ∀ op : MutationOp, ofJson? form op.toJson = some op
  | .insert target values =>
    andThen rfl <| andThen rfl <| andThen rfl <| andThen (required_of rfl (Var.ofJson?_toJson target)) <|
      andThen (required_of rfl (Expr.ofJson?_toJson form values)) rfl
  | .insertValue target value _ =>
    andThen rfl <| andThen rfl <| andThen rfl <| andThen (required_of rfl (Var.ofJson?_toJson target)) <|
      andThen (required_of rfl (Expr.ofJson?_toJson form value)) <|
      andThen (optional_of rfl (Decoder.nullable_ofOption rfl fun c _ => OnConflict.ofJson?_toJson c)) rfl
  | .set _ =>
    andThen rfl <| andThen rfl <| andThen (Decoder.list_ofList fun a _ => Assignment.ofJson?_toJson form a) rfl
  | .remove path => andThen rfl <| andThen rfl <| andThen (RowPath.ofJson?_toJson form path) rfl

theorem MutationSource.ofJson?_toJson (s : MutationSource) : ofJson? form s.toJson = some s :=
  andThen rfl <| andThen (required_of rfl (Var.ofJson?_toJson s.target)) <|
    andThen (optional_of rfl (Alias.nullable_ofOption s.asAlias)) <|
    andThen (optional_of rfl (Alias.nullable_ofOption s.atAlias)) <|
    andThen (optional_of rfl (Alias.nullable_ofOption s.byAlias)) <|
    andThen (optional_of rfl (Decoder.nullable_ofOption rfl fun e _ => Expr.ofJson?_toJson form e)) rfl

theorem Mutation.ofJson?_toJson (m : Mutation) : ofJson? form m.toJson = some m :=
  andThen rfl <| andThen (required_of rfl (Decoder.list_ofList fun op _ => MutationOp.ofJson?_toJson form op)) <|
    andThen (optional_of rfl (Decoder.nullable_ofOption rfl fun s _ => MutationSource.ofJson?_toJson form s)) <|
    andThen (withDefault_of rfl (Location.ofJson?_toJson m.location)) rfl

theorem Statement.ofJson?_toJson : ∀ s : Statement, ofJson? form s.toJson = some s
  | .query expr => andThen rfl <| andThen rfl <| andThen (Expr.ofJson?_toJson form expr) rfl
  | .dml mutation => andThen rfl <| andThen rfl <| andThen (Mutation.ofJson?_toJson form mutation) rfl
  | .exec _ _ =>
    andThen rfl <| andThen rfl <| andThen rfl <| andThen (required_of rfl rfl) <|
      andThen (withDefault_of rfl (Decoder.list_ofList fun e _ => Expr.ofJson?_toJson form e)) rfl

end NestedQuery.Syntax
