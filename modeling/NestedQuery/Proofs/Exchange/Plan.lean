/-
The exchanged form of a plan reads back as the plan, whatever its variables are, as long as the variables do and the
numbers of its declarations have at most 32 bits. Every plan that was read is such a plan.
-/
import NestedQuery.Exchange.Plan
import NestedQuery.Proofs.Exchange.Reference
import NestedQuery.Proofs.Plan.Declarations

namespace NestedQuery

open Decoder (andThen required_of nullable_of Gives Yields)
open Json (depth_obj_lt depth_arr_lt depthMembers_cons_lt depthItems_cons_lt)

namespace Plan

variable {V : Type}

/-! ## Plans that fit -/

/-- The declarations have numbers of at most 32 bits, and the variables fit as well. -/
structure Fit (fits : V → Prop) (decls : List Declaration) (vars : List V) : Prop where
  decls : ∀ d ∈ decls, d.index < UInt32.size
  vars : ∀ v ∈ vars, fits v

namespace Fit

variable {fits : V → Prop} {ds es : List Declaration} {vs ws : List V}

theorem nil : Fit fits [] [] := ⟨List.forall_mem_nil _, List.forall_mem_nil _⟩

theorem append : Fit fits (ds ++ es) (vs ++ ws) ↔ Fit fits ds vs ∧ Fit fits es ws := by
  constructor
  · rintro ⟨hd, hv⟩
    rw [List.forall_mem_append] at hd hv
    exact ⟨⟨hd.1, hv.1⟩, hd.2, hv.2⟩
  · rintro ⟨⟨hds, hvs⟩, hes, hws⟩
    exact ⟨List.forall_mem_append.2 ⟨hds, hes⟩, List.forall_mem_append.2 ⟨hvs, hws⟩⟩

theorem append_decls : Fit fits (ds ++ es) vs ↔ Fit fits ds vs ∧ ∀ d ∈ es, d.index < UInt32.size := by
  constructor
  · rintro ⟨hd, hv⟩
    rw [List.forall_mem_append] at hd
    exact ⟨⟨hd.1, hv⟩, hd.2⟩
  · rintro ⟨⟨hds, hv⟩, hes⟩
    exact ⟨List.forall_mem_append.2 ⟨hds, hes⟩, hv⟩

theorem cons_decl {d : Declaration} : Fit fits (d :: ds) vs ↔ d.index < UInt32.size ∧ Fit fits ds vs := by
  constructor
  · rintro ⟨hd, hv⟩
    rw [List.forall_mem_cons] at hd
    exact ⟨hd.1, hd.2, hv⟩
  · rintro ⟨hd, hds, hv⟩
    exact ⟨List.forall_mem_cons.2 ⟨hd, hds⟩, hv⟩

theorem cons_var {v : V} : Fit fits ds (v :: vs) ↔ fits v ∧ Fit fits ds vs := by
  constructor
  · rintro ⟨hd, hv⟩
    rw [List.forall_mem_cons] at hv
    exact ⟨hv.1, hd, hv.2⟩
  · rintro ⟨hv, hd, hvs⟩
    exact ⟨hd, List.forall_mem_cons.2 ⟨hv, hvs⟩⟩

theorem flatMap {α : Type} {l : List α} {decls : α → List Declaration} {vars : α → List V} :
    Fit fits (l.flatMap decls) (l.flatMap vars) ↔ ∀ a ∈ l, Fit fits (decls a) (vars a) := by
  induction l with
  | nil => exact ⟨fun _ => List.forall_mem_nil _, fun _ => .nil⟩
  | cons a l ih => rw [List.flatMap_cons, List.flatMap_cons, append, ih, List.forall_mem_cons]

/-- The declarations of LET bindings stand between their values, and those of group keys after all of them. -/
theorem lets {bindings : List (Named V)} : Fit fits (declsLets bindings) (varsNamed bindings) ↔
    Fit fits (declsKeys bindings) (varsNamed bindings) ∧ ∀ b ∈ bindings, b.decl.index < UInt32.size := by
  induction bindings with
  | nil => exact ⟨fun h => ⟨h, List.forall_mem_nil _⟩, And.left⟩
  | cons b bindings ih =>
    obtain ⟨expr, decl⟩ := b
    simp only [declsLets, declsKeys, varsNamed, append, cons_decl, ih, List.forall_mem_cons]
    exact ⟨fun ⟨he, hd, hk, hb⟩ => ⟨⟨he, hk⟩, hd, hb⟩, fun ⟨⟨he, hk⟩, hd, hb⟩ => ⟨he, hd, hk, hb⟩⟩

theorem option {e : Option (Expr V)} (h : ∀ x ∈ e, Fit fits x.decls x.vars) :
    Fit fits (declsOption e) (varsOption e) := by
  cases e with
  | none => exact .nil
  | some e => exact h e rfl

end Fit

theorem forall_mem_itemGroup {P : Declaration → Prop} {asDecl : Declaration} {atDecl byDecl : Option Declaration} :
    (∀ d ∈ itemGroup asDecl atDecl byDecl, P d) ↔ P asDecl ∧ (∀ d ∈ atDecl, P d) ∧ ∀ d ∈ byDecl, P d := by
  simp only [itemGroup, List.forall_mem_cons, List.forall_mem_append, Option.mem_toList, Option.mem_def]

theorem forall_mem_keyGroup {P : Declaration → Prop} {keys : List (Named V)} {groupAs : Option Declaration} :
    (∀ d ∈ keyGroup keys groupAs, P d) ↔ (∀ k ∈ keys, P k.decl) ∧ ∀ d ∈ groupAs, P d := by
  simp only [keyGroup, List.forall_mem_append, List.forall_mem_map, Option.mem_toList, Option.mem_def]

/-! ## Reading back -/

section

variable {form : Json.Form}

theorem Read.expr_null (read : Decoder V) : ∀ n, Read.expr form read n .null = none
  | 0 => rfl
  | _ + 1 => rfl

theorem declaration_reads {d : Option Declaration} (h : ∀ x ∈ d, x.index < UInt32.size) :
    Decoder.nullable Declaration.ofJson? (.ofOption Declaration.toJson d) = some d :=
  Decoder.nullable_ofOption rfl fun x hx => Declaration.ofJson?_toJson (h x hx)

theorem named_reads {label : String} (hl : label ≠ "decl") {write : V → Json} {expr : Decoder (Expr V)} {e : Expr V}
    {d : Declaration} (he : expr (e.toJson write) = some e) (hd : d.index < UInt32.size) :
    Read.named expr label (.obj [(label, e.toJson write), ("decl", d.toJson)]) = some ⟨e, d⟩ := by
  -- the label is known only not to be that of the declaration, so its field is not found by computing
  have hr : Json.record? [label, "decl"] (.obj [(label, e.toJson write), ("decl", d.toJson)]) =
      some ⟨false, [(label, e.toJson write), ("decl", d.toJson)]⟩ := by
    simp [Json.record?, hl]
  have hlabel : Json.Record.field? ⟨false, [(label, e.toJson write), ("decl", d.toJson)]⟩ label =
      some (e.toJson write) := by
    simp [Json.Record.field?]
  have hdecl : Json.Record.field? ⟨false, [(label, e.toJson write), ("decl", d.toJson)]⟩ "decl" = some d.toJson := by
    simp [Json.Record.field?, hl]
  exact andThen hr <| andThen (required_of hlabel he) <|
    andThen (required_of hdecl (Declaration.ofJson?_toJson hd)) rfl

variable (c : Codec V)

mutual

/-- Every bound above the nesting of what is written suffices to read it back. -/
theorem expr_reads : ∀ (e : Expr V) {n : Nat}, Fit c.Fits e.decls e.vars → (e.toJson c.write).depth < n →
    Read.expr form (c.read form) n (e.toJson c.write) = some e
  | _, 0, _, h => absurd h (Nat.not_lt_zero _)
  | .lit value, _ + 1, _, _ => andThen rfl <| andThen rfl <| andThen (Literal.ofJson?_toJson value) rfl
  | .var v, _ + 1, hf, _ => andThen rfl <| andThen rfl <| andThen (c.reads form (Fit.cons_var.1 hf).1) rfl
  | .path root steps, n + 1, hf, h => by
    simp only [Expr.decls, Expr.vars, Fit.append] at hf
    simp only [Expr.toJson, depth_obj_lt, depthMembers_cons_lt, depth_arr_lt] at h
    have hroot := expr_reads root hf.1 (show _ < n by omega)
    have hsteps := steps_reads steps hf.2 (show _ < n by omega)
    exact andThen rfl <| andThen rfl <| andThen rfl <| andThen (required_of rfl hroot) <|
      andThen (required_of rfl hsteps) rfl
  | .unary op operand, n + 1, hf, h => by
    simp only [Expr.toJson, depth_obj_lt, depthMembers_cons_lt] at h
    have hoperand := expr_reads operand hf (show _ < n by omega)
    exact andThen rfl <| andThen rfl <| andThen rfl <| andThen (required_of rfl (UnaryOp.ofJson?_toJson op)) <|
      andThen (required_of rfl hoperand) rfl
  | .binary op lhs rhs, n + 1, hf, h => by
    simp only [Expr.decls, Expr.vars, Fit.append] at hf
    simp only [Expr.toJson, depth_obj_lt, depthMembers_cons_lt] at h
    have hlhs := expr_reads lhs hf.1 (show _ < n by omega)
    have hrhs := expr_reads rhs hf.2 (show _ < n by omega)
    exact andThen rfl <| andThen rfl <| andThen rfl <| andThen (required_of rfl (BinaryOp.ofJson?_toJson op)) <|
      andThen (required_of rfl hlhs) <| andThen (required_of rfl hrhs) rfl
  | .call name args, n + 1, hf, h => by
    simp only [Expr.toJson, depth_obj_lt, depthMembers_cons_lt, depth_arr_lt] at h
    have hargs := exprs_reads args hf (show _ < n by omega)
    exact andThen rfl <| andThen rfl <| andThen rfl <| andThen (required_of rfl rfl) <|
      andThen (required_of rfl hargs) rfl
  | .callAgg name quantifier arg, n + 1, hf, h => by
    simp only [Expr.toJson, depth_obj_lt, depthMembers_cons_lt] at h
    have harg := expr_reads arg hf (show _ < n by omega)
    exact andThen rfl <| andThen rfl <| andThen rfl <| andThen (required_of rfl rfl) <|
      andThen (required_of rfl (SetQuantifier.ofJson?_toJson quantifier)) <| andThen (required_of rfl harg) rfl
  | .case operand branches otherwise, n + 1, hf, h => by
    simp only [Expr.decls, Expr.vars, Fit.append] at hf
    simp only [Expr.toJson, depth_obj_lt, depthMembers_cons_lt, depth_arr_lt] at h
    have hoperand := option_reads operand hf.1.1 (show _ < n by omega)
    have hbranches := branches_reads branches hf.1.2 (show _ < n by omega)
    have hotherwise := option_reads otherwise hf.2 (show _ < n by omega)
    exact andThen rfl <| andThen rfl <| andThen rfl <| andThen (nullable_of rfl hoperand) <|
      andThen (required_of rfl hbranches) <| andThen (nullable_of rfl hotherwise) rfl
  | .collection kind values, n + 1, hf, h => by
    simp only [Expr.toJson, depth_obj_lt, depthMembers_cons_lt, depth_arr_lt] at h
    have hvalues := exprs_reads values hf (show _ < n by omega)
    exact andThen rfl <| andThen rfl <| andThen rfl <| andThen (required_of rfl (CollectionKind.ofJson?_toJson kind)) <|
      andThen (required_of rfl hvalues) rfl
  | .struct fields, n + 1, hf, h => by
    simp only [Expr.toJson, depth_obj_lt, depthMembers_cons_lt, depth_arr_lt] at h
    have hfields := fields_reads fields hf (show _ < n by omega)
    exact andThen rfl <| andThen rfl <| andThen rfl <| andThen (required_of rfl hfields) rfl
  | .cast value asType, n + 1, hf, h => by
    simp only [Expr.toJson, depth_obj_lt, depthMembers_cons_lt] at h
    have hvalue := expr_reads value hf (show _ < n by omega)
    exact andThen rfl <| andThen rfl <| andThen rfl <| andThen (required_of rfl hvalue) <|
      andThen (required_of rfl rfl) rfl
  | .query relation, n + 1, hf, h => by
    simp only [Expr.toJson, depth_obj_lt, depthMembers_cons_lt] at h
    have hrelation := relation_reads relation hf (show _ < n by omega) (show _ < n + 1 by omega)
    exact andThen rfl <| andThen rfl <| andThen hrelation rfl

theorem exprs_reads : ∀ (es : List (Expr V)) {n : Nat}, Fit c.Fits (declsList es) (varsList es) →
    Json.depthItems (exprsToJson c.write es) < n →
    Decoder.list (Read.expr form (c.read form) n) (.arr (exprsToJson c.write es)) = some es
  | [], _, _, _ => rfl
  | e :: es, n, hf, h => by
    simp only [declsList, varsList, Fit.append] at hf
    simp only [exprsToJson, depthItems_cons_lt] at h
    exact Decoder.list_cons (expr_reads e hf.1 h.1) (exprs_reads es hf.2 h.2)

theorem option_reads : ∀ (e : Option (Expr V)) {n : Nat}, Fit c.Fits (declsOption e) (varsOption e) →
    (optionToJson c.write e).depth < n → (Read.expr form (c.read form) n).nullable (optionToJson c.write e) = some e
  | none, _, _, _ => rfl
  | some e, n, hf, h => Decoder.nullable_some (Read.expr_null _ n) (expr_reads e hf h)

theorem steps_reads : ∀ (steps : List (PathStep V)) {n : Nat}, Fit c.Fits (declsSteps steps) (varsSteps steps) →
    Json.depthItems (stepsToJson c.write steps) < n →
    Decoder.list (Read.pathStep form (Read.expr form (c.read form) n)) (.arr (stepsToJson c.write steps)) = some steps
  | [], _, _, _ => rfl
  | .key key case :: steps, n, hf, h => by
    simp only [declsSteps, varsSteps, Fit.append] at hf
    simp only [stepsToJson, depthItems_cons_lt, depth_obj_lt, depthMembers_cons_lt] at h
    have hkey := expr_reads key hf.1 (show _ < n by omega)
    refine Decoder.list_cons ?_ (steps_reads steps hf.2 (by omega))
    exact andThen rfl <| andThen rfl <| andThen (required_of rfl hkey) <|
      andThen (required_of rfl (CaseRule.ofJson?_toJson case)) rfl
  | .wildcard :: steps, n, hf, h => by
    simp only [stepsToJson, depthItems_cons_lt] at h
    exact Decoder.list_cons rfl (steps_reads steps hf h.2)
  | .unpivot :: steps, n, hf, h => by
    simp only [stepsToJson, depthItems_cons_lt] at h
    exact Decoder.list_cons rfl (steps_reads steps hf h.2)

theorem branches_reads : ∀ (branches : List (CaseBranch V)) {n : Nat},
    Fit c.Fits (declsBranches branches) (varsBranches branches) →
    Json.depthItems (branchesToJson c.write branches) < n →
    Decoder.list (Read.caseBranch (Read.expr form (c.read form) n)) (.arr (branchesToJson c.write branches)) =
      some branches
  | [], _, _, _ => rfl
  | ⟨condition, result⟩ :: branches, n, hf, h => by
    simp only [declsBranches, varsBranches, Fit.append] at hf
    simp only [branchesToJson, depthItems_cons_lt, depth_obj_lt, depthMembers_cons_lt] at h
    have hcondition := expr_reads condition hf.1.1 (show _ < n by omega)
    have hresult := expr_reads result hf.1.2 (show _ < n by omega)
    refine Decoder.list_cons ?_ (branches_reads branches hf.2 (by omega))
    exact andThen rfl <| andThen (required_of rfl hcondition) <| andThen (required_of rfl hresult) rfl

theorem fields_reads : ∀ (fields : List (StructField V)) {n : Nat},
    Fit c.Fits (declsFields fields) (varsFields fields) →
    Json.depthItems (fieldsToJson c.write fields) < n →
    Decoder.list (Read.structField (Read.expr form (c.read form) n)) (.arr (fieldsToJson c.write fields)) =
      some fields
  | [], _, _, _ => rfl
  | ⟨key, value⟩ :: fields, n, hf, h => by
    simp only [declsFields, varsFields, Fit.append] at hf
    simp only [fieldsToJson, depthItems_cons_lt, depth_obj_lt, depthMembers_cons_lt] at h
    have hkey := expr_reads key hf.1.1 (show _ < n by omega)
    have hvalue := expr_reads value hf.1.2 (show _ < n by omega)
    refine Decoder.list_cons ?_ (fields_reads fields hf.2 (by omega))
    exact andThen rfl <| andThen (required_of rfl hkey) <| andThen (required_of rfl hvalue) rfl

theorem relation_reads : ∀ (r : Relation V) {n m : Nat}, Fit c.Fits r.decls r.vars → (r.toJson c.write).depth < m →
    (r.toJson c.write).depth < n + 1 → Read.relation form (Read.expr form (c.read form) n) m (r.toJson c.write) = some r
  | _, _, 0, _, h, _ => absurd h (Nat.not_lt_zero _)
  | ⟨op, strategy⟩, n, m + 1, hf, hm, hn => by
    -- relations use up the bound `m`, while the expressions in all of them share the bound `n`
    simp only [Relation.toJson, depth_obj_lt, depthMembers_cons_lt] at hm hn
    have hop := relOp_reads op strategy hf (show _ < m by omega) (show _ < n by omega)
    cases strategy <;> exact andThen rfl <| andThen (required_of rfl hop) <| andThen (nullable_of rfl rfl) rfl

theorem relOp_reads : ∀ (op : RelOp V) (strategy : Option Strategy) {n m : Nat},
    Fit c.Fits (Relation.mk op strategy).decls (Relation.mk op strategy).vars →
    (op.toJson c.write).depth < m → (op.toJson c.write).depth < n →
    Read.relOp form (Read.expr form (c.read form) n) (Read.relation form (Read.expr form (c.read form) n) m)
      (op.toJson c.write) = some op
  | .unit, _, _, _, _, _, _ => rfl
  | .scan expr asDecl atDecl byDecl, _, n, m, hf, _, h => by
    simp only [Relation.decls, Relation.vars, Fit.append_decls, forall_mem_itemGroup] at hf
    simp only [RelOp.toJson, depth_obj_lt, depthMembers_cons_lt] at h
    have hexpr := expr_reads expr hf.1 (show _ < n by omega)
    exact andThen rfl <| andThen rfl <| andThen (required_of rfl hexpr) <|
      andThen (required_of rfl (Declaration.ofJson?_toJson hf.2.1)) <|
      andThen (nullable_of rfl (declaration_reads hf.2.2.1)) <|
      andThen (nullable_of rfl (declaration_reads hf.2.2.2)) rfl
  | .unpivot expr asDecl atDecl byDecl, _, n, m, hf, _, h => by
    simp only [Relation.decls, Relation.vars, Fit.append_decls, forall_mem_itemGroup] at hf
    simp only [RelOp.toJson, depth_obj_lt, depthMembers_cons_lt] at h
    have hexpr := expr_reads expr hf.1 (show _ < n by omega)
    exact andThen rfl <| andThen rfl <| andThen (required_of rfl hexpr) <|
      andThen (required_of rfl (Declaration.ofJson?_toJson hf.2.1)) <|
      andThen (nullable_of rfl (declaration_reads hf.2.2.1)) <|
      andThen (nullable_of rfl (declaration_reads hf.2.2.2)) rfl
  | .filter predicate source, _, n, m, hf, hm, hn => by
    simp only [Relation.decls, Relation.vars, Fit.append] at hf
    simp only [RelOp.toJson, depth_obj_lt, depthMembers_cons_lt] at hm hn
    have hsource := relation_reads source hf.1 (show _ < m by omega) (show _ < n + 1 by omega)
    have hpredicate := expr_reads predicate hf.2 (show _ < n by omega)
    exact andThen rfl <| andThen rfl <| andThen (required_of rfl hpredicate) <| andThen (required_of rfl hsource) rfl
  | .join kind left right predicate, _, n, m, hf, hm, hn => by
    simp only [Relation.decls, Relation.vars, Fit.append] at hf
    simp only [RelOp.toJson, depth_obj_lt, depthMembers_cons_lt] at hm hn
    have hleft := relation_reads left hf.1.1 (show _ < m by omega) (show _ < n + 1 by omega)
    have hright := relation_reads right hf.1.2 (show _ < m by omega) (show _ < n + 1 by omega)
    have hpredicate := option_reads predicate hf.2 (show _ < n by omega)
    exact andThen rfl <| andThen rfl <| andThen (required_of rfl (JoinKind.ofJson?_toJson kind)) <|
      andThen (required_of rfl hleft) <| andThen (required_of rfl hright) <| andThen (nullable_of rfl hpredicate) rfl
  | .letting source bindings, _, n, m, hf, hm, hn => by
    simp only [Relation.decls, Relation.vars, Fit.append, Fit.lets] at hf
    simp only [RelOp.toJson, depth_obj_lt, depthMembers_cons_lt, depth_arr_lt] at hm hn
    have hsource := relation_reads source hf.1 (show _ < m by omega) (show _ < n + 1 by omega)
    have hbindings := nameds_reads (show "value" ≠ "decl" by decide) bindings hf.2.1 hf.2.2 (show _ < n by omega)
    exact andThen rfl <| andThen rfl <| andThen (required_of rfl hsource) <| andThen (required_of rfl hbindings) rfl
  | .aggregate source keys groupAs, _, n, m, hf, hm, hn => by
    simp only [Relation.decls, Relation.vars] at hf
    -- the declarations are cut beside the variables first, and only those of the keys on their own
    rw [Fit.append, Fit.append_decls, forall_mem_keyGroup] at hf
    simp only [RelOp.toJson, depth_obj_lt, depthMembers_cons_lt, depth_arr_lt] at hm hn
    have hsource := relation_reads source hf.1 (show _ < m by omega) (show _ < n + 1 by omega)
    have hkeys := nameds_reads (show "expr" ≠ "decl" by decide) keys hf.2.1 hf.2.2.1 (show _ < n by omega)
    exact andThen rfl <| andThen rfl <| andThen (required_of rfl hsource) <| andThen (required_of rfl hkeys) <|
      andThen (nullable_of rfl (declaration_reads hf.2.2.2)) rfl
  | .sort source keys, _, n, m, hf, hm, hn => by
    simp only [Relation.decls, Relation.vars, Fit.append] at hf
    simp only [RelOp.toJson, depth_obj_lt, depthMembers_cons_lt, depth_arr_lt] at hm hn
    have hsource := relation_reads source hf.1 (show _ < m by omega) (show _ < n + 1 by omega)
    have hkeys := sortKeys_reads keys hf.2 (show _ < n by omega)
    exact andThen rfl <| andThen rfl <| andThen (required_of rfl hsource) <| andThen (required_of rfl hkeys) rfl
  | .offset source rowCount, _, n, m, hf, hm, hn => by
    simp only [Relation.decls, Relation.vars, Fit.append] at hf
    simp only [RelOp.toJson, depth_obj_lt, depthMembers_cons_lt] at hm hn
    have hsource := relation_reads source hf.1 (show _ < m by omega) (show _ < n + 1 by omega)
    have hcount := expr_reads rowCount hf.2 (show _ < n by omega)
    exact andThen rfl <| andThen rfl <| andThen (required_of rfl hsource) <| andThen (required_of rfl hcount) rfl
  | .limit source rowCount, _, n, m, hf, hm, hn => by
    simp only [Relation.decls, Relation.vars, Fit.append] at hf
    simp only [RelOp.toJson, depth_obj_lt, depthMembers_cons_lt] at hm hn
    have hsource := relation_reads source hf.1 (show _ < m by omega) (show _ < n + 1 by omega)
    have hcount := expr_reads rowCount hf.2 (show _ < n by omega)
    exact andThen rfl <| andThen rfl <| andThen (required_of rfl hsource) <| andThen (required_of rfl hcount) rfl
  | .project source projection quantifier, _, n, m, hf, hm, hn => by
    simp only [Relation.decls, Relation.vars, Fit.append] at hf
    simp only [RelOp.toJson, depth_obj_lt, depthMembers_cons_lt] at hm hn
    have hsource := relation_reads source hf.1 (show _ < m by omega) (show _ < n + 1 by omega)
    have hprojection := projection_reads projection hf.2 (show _ < n by omega)
    exact andThen rfl <| andThen rfl <| andThen (required_of rfl hsource) <| andThen (required_of rfl hprojection) <|
      andThen (required_of rfl (SetQuantifier.ofJson?_toJson quantifier)) rfl
  | .setOp op quantifier left right, _, n, m, hf, _, h => by
    simp only [Relation.decls, Relation.vars, Fit.append] at hf
    simp only [RelOp.toJson, depth_obj_lt, depthMembers_cons_lt] at h
    have hleft := expr_reads left hf.1 (show _ < n by omega)
    have hright := expr_reads right hf.2 (show _ < n by omega)
    exact andThen rfl <| andThen rfl <| andThen (required_of rfl (SetOpKind.ofJson?_toJson op)) <|
      andThen (required_of rfl (SetQuantifier.ofJson?_toJson quantifier)) <| andThen (required_of rfl hleft) <|
      andThen (required_of rfl hright) rfl

theorem nameds_reads {label : String} (hl : label ≠ "decl") : ∀ (ns : List (Named V)) {n : Nat},
    Fit c.Fits (declsKeys ns) (varsNamed ns) → (∀ d ∈ ns, d.decl.index < UInt32.size) →
    Json.depthItems (namedToJson c.write label ns) < n →
    Decoder.list (Read.named (Read.expr form (c.read form) n) label) (.arr (namedToJson c.write label ns)) = some ns
  | [], _, _, _, _ => rfl
  | ⟨expr, decl⟩ :: ns, n, hf, hd, h => by
    simp only [declsKeys, varsNamed, Fit.append] at hf
    rw [List.forall_mem_cons] at hd
    simp only [namedToJson, depthItems_cons_lt, depth_obj_lt, depthMembers_cons_lt] at h
    have hexpr := expr_reads expr hf.1 (show _ < n by omega)
    exact Decoder.list_cons (named_reads hl hexpr hd.1) (nameds_reads hl ns hf.2 hd.2 (by omega))

theorem sortKeys_reads : ∀ (keys : List (SortKey V)) {n : Nat}, Fit c.Fits (declsSortKeys keys) (varsSortKeys keys) →
    Json.depthItems (sortKeysToJson c.write keys) < n →
    Decoder.list (Read.sortKey (Read.expr form (c.read form) n)) (.arr (sortKeysToJson c.write keys)) = some keys
  | [], _, _, _ => rfl
  | ⟨expr, order, nulls⟩ :: keys, n, hf, h => by
    simp only [declsSortKeys, varsSortKeys, Fit.append] at hf
    simp only [sortKeysToJson, depthItems_cons_lt, depth_obj_lt, depthMembers_cons_lt] at h
    have hexpr := expr_reads expr hf.1 (show _ < n by omega)
    have horder := Decoder.nullable_ofOption rfl fun o (_ : o ∈ order) => SortOrder.ofJson?_toJson o
    have hnulls := Decoder.nullable_ofOption rfl fun o (_ : o ∈ nulls) => NullsOrder.ofJson?_toJson o
    refine Decoder.list_cons ?_ (sortKeys_reads keys hf.2 (by omega))
    exact andThen rfl <| andThen (required_of rfl hexpr) <| andThen (nullable_of rfl horder) <|
      andThen (nullable_of rfl hnulls) rfl

theorem projection_reads : ∀ (p : Projection V) {n : Nat}, Fit c.Fits p.decls p.vars → (p.toJson c.write).depth < n →
    Read.projection form (Read.expr form (c.read form) n) (p.toJson c.write) = some p
  | .value expr, n, hf, h => by
    simp only [Projection.toJson, depth_obj_lt, depthMembers_cons_lt] at h
    exact andThen rfl <| andThen (expr_reads expr hf (show _ < n by omega)) rfl
  | .struct items, n, hf, h => by
    simp only [Projection.toJson, depth_obj_lt, depthMembers_cons_lt, depth_arr_lt] at h
    exact andThen rfl <| andThen (items_reads items hf (show _ < n by omega)) rfl
  | .pivot value key, n, hf, h => by
    simp only [Projection.decls, Projection.vars, Fit.append] at hf
    simp only [Projection.toJson, depth_obj_lt, depthMembers_cons_lt] at h
    have hvalue := expr_reads value hf.1 (show _ < n by omega)
    have hkey := expr_reads key hf.2 (show _ < n by omega)
    exact andThen rfl <| andThen rfl <| andThen (required_of rfl hvalue) <| andThen (required_of rfl hkey) rfl

theorem items_reads : ∀ (items : List (ProjectItem V)) {n : Nat}, Fit c.Fits (declsItems items) (varsItems items) →
    Json.depthItems (itemsToJson c.write items) < n →
    Decoder.list (Read.projectItem form (Read.expr form (c.read form) n)) (.arr (itemsToJson c.write items)) =
      some items
  | [], _, _, _ => rfl
  | .expr expr field :: items, n, hf, h => by
    simp only [declsItems, varsItems, Fit.append] at hf
    simp only [itemsToJson, depthItems_cons_lt, depth_obj_lt, depthMembers_cons_lt] at h
    have hexpr := expr_reads expr hf.1 (show _ < n by omega)
    refine Decoder.list_cons ?_ (items_reads items hf.2 (by omega))
    exact andThen rfl <| andThen rfl <| andThen (required_of rfl hexpr) <| andThen (required_of rfl rfl) rfl
  | .all expr :: items, n, hf, h => by
    simp only [declsItems, varsItems, Fit.append] at hf
    simp only [itemsToJson, depthItems_cons_lt, depth_obj_lt, depthMembers_cons_lt] at h
    refine Decoder.list_cons ?_ (items_reads items hf.2 (by omega))
    exact andThen rfl <| andThen (expr_reads expr hf.1 (show _ < n by omega)) rfl

end

end

/-! ## What is read fits -/

section

variable {form : Json.Form} {fits : V → Prop} {expr : Decoder (Expr V)}
  (he : Yields expr fun e => Fit fits e.decls e.vars)

include he

theorem exprs_yield : Yields (Decoder.list expr) fun es => Fit fits (declsList es) (varsList es) :=
  Decoder.list_yields he .nil fun _ _ h hs => Fit.append.2 ⟨h, hs⟩

theorem option_yields {r : Json.Record} {name : String} :
    Gives (r.nullable name expr) fun e => Fit fits (declsOption e) (varsOption e) :=
  fun _ h => Fit.option (Gives.nullable he _ h)

theorem steps_yield :
    Yields (Decoder.list (Read.pathStep form expr)) fun steps => Fit fits (declsSteps steps) (varsSteps steps) := by
  have hstep : Yields (Read.pathStep form expr) fun s => Fit fits (declsSteps [s]) (varsSteps [s]) := by
    intro j
    refine .skip fun choice => ?_
    split
    · exact .skip fun _ => .bind (.required he) fun _ hk => .skip fun _ => .some (Fit.append.2 ⟨hk, .nil⟩)
    · split
      · exact .some .nil
      · exact .none
    · split
      · exact .some .nil
      · exact .none
    · exact .none
  refine Decoder.list_yields hstep .nil fun s steps hs hsteps => ?_
  cases s with
  | key key case => exact Fit.append.2 ⟨(Fit.append.1 hs).1, hsteps⟩
  | wildcard => exact hsteps
  | unpivot => exact hsteps

theorem branches_yield : Yields (Decoder.list (Read.caseBranch expr)) fun branches =>
    Fit fits (declsBranches branches) (varsBranches branches) := by
  have hbranch : Yields (Read.caseBranch expr) fun b =>
      Fit fits b.condition.decls b.condition.vars ∧ Fit fits b.result.decls b.result.vars := fun _ =>
    .skip fun _ => .bind (.required he) fun _ hc => .bind (.required he) fun _ hr => .some ⟨hc, hr⟩
  refine Decoder.list_yields hbranch .nil ?_
  rintro ⟨condition, result⟩ branches hb hbs
  exact Fit.append.2 ⟨Fit.append.2 hb, hbs⟩

theorem fields_yield : Yields (Decoder.list (Read.structField expr)) fun fields =>
    Fit fits (declsFields fields) (varsFields fields) := by
  have hfield : Yields (Read.structField expr) fun f =>
      Fit fits f.key.decls f.key.vars ∧ Fit fits f.value.decls f.value.vars := fun _ =>
    .skip fun _ => .bind (.required he) fun _ hk => .bind (.required he) fun _ hv => .some ⟨hk, hv⟩
  refine Decoder.list_yields hfield .nil ?_
  rintro ⟨key, value⟩ fields hf hfs
  exact Fit.append.2 ⟨Fit.append.2 hf, hfs⟩

theorem nameds_yield (label : String) : Yields (Decoder.list (Read.named expr label)) fun ns =>
    Fit fits (declsKeys ns) (varsNamed ns) ∧ ∀ n ∈ ns, n.decl.index < UInt32.size := by
  have hnamed : Yields (Read.named expr label) fun n =>
      Fit fits n.expr.decls n.expr.vars ∧ n.decl.index < UInt32.size := fun _ =>
    .skip fun _ => .bind (.required he) fun _ hx => .bind (.required Declaration.ofJson?_yields) fun _ hd =>
      .some ⟨hx, hd⟩
  refine Decoder.list_yields hnamed ⟨.nil, List.forall_mem_nil _⟩ ?_
  rintro ⟨expr, decl⟩ ns hn hns
  exact ⟨Fit.append.2 ⟨hn.1, hns.1⟩, List.forall_mem_cons.2 ⟨hn.2, hns.2⟩⟩

theorem sortKeys_yield : Yields (Decoder.list (Read.sortKey expr)) fun keys =>
    Fit fits (declsSortKeys keys) (varsSortKeys keys) := by
  have hkey : Yields (Read.sortKey expr) fun k => Fit fits k.expr.decls k.expr.vars := fun _ =>
    .skip fun _ => .bind (.required he) fun _ hx => .skip fun _ => .skip fun _ => .some hx
  refine Decoder.list_yields hkey .nil ?_
  rintro ⟨expr, order, nulls⟩ keys hk hks
  exact Fit.append.2 ⟨hk, hks⟩

theorem items_yield : Yields (Decoder.list (Read.projectItem form expr)) fun items =>
    Fit fits (declsItems items) (varsItems items) := by
  have hitem : Yields (Read.projectItem form expr) fun i => Fit fits (declsItems [i]) (varsItems [i]) := by
    intro j
    refine .skip fun choice => ?_
    split
    · exact .skip fun _ => .bind (.required he) fun _ hx => .skip fun _ => .some (Fit.append.2 ⟨hx, .nil⟩)
    · exact .bind (he _) fun _ hx => .some (Fit.append.2 ⟨hx, .nil⟩)
    · exact .none
  refine Decoder.list_yields hitem .nil fun i items hi hitems => ?_
  cases i with
  | expr x field => exact Fit.append.2 ⟨(Fit.append.1 hi).1, hitems⟩
  | all x => exact Fit.append.2 ⟨(Fit.append.1 hi).1, hitems⟩

theorem projection_yields : Yields (Read.projection form expr) fun p => Fit fits p.decls p.vars := by
  intro j
  refine .skip fun choice => ?_
  split
  · exact .bind (he _) fun _ hx => .some hx
  · exact .bind (items_yield he _) fun _ hi => .some hi
  · exact .skip fun _ => .bind (.required he) fun _ hv => .bind (.required he) fun _ hk => .some (Fit.append.2 ⟨hv, hk⟩)
  · exact .none

section

variable {relation : Decoder (Relation V)} (hr : Yields relation fun r => Fit fits r.decls r.vars)

include hr

/-- The strategy of a relation declares nothing and has no variables. -/
theorem relOpOf_yields (name : String) : Yields (Read.relOpOf form expr relation name) fun op =>
    ∀ s, Fit fits (Relation.mk op s).decls (Relation.mk op s).vars := by
  have hd := Declaration.ofJson?_yields
  intro j
  unfold Read.relOpOf
  split
  · exact .skip fun _ => .bind (.required he) fun _ hx => .bind (.required hd) fun _ ha =>
      .bind (.nullable hd) fun _ ht => .bind (.nullable hd) fun _ hb =>
      .some fun _ => Fit.append_decls.2 ⟨hx, forall_mem_itemGroup.2 ⟨ha, ht, hb⟩⟩
  · exact .skip fun _ => .bind (.required he) fun _ hx => .bind (.required hd) fun _ ha =>
      .bind (.nullable hd) fun _ ht => .bind (.nullable hd) fun _ hb =>
      .some fun _ => Fit.append_decls.2 ⟨hx, forall_mem_itemGroup.2 ⟨ha, ht, hb⟩⟩
  · exact .skip fun _ => .bind (.required he) fun _ hp => .bind (.required hr) fun _ hs =>
      .some fun _ => Fit.append.2 ⟨hs, hp⟩
  · exact .skip fun _ => .skip fun _ => .bind (.required hr) fun _ hleft => .bind (.required hr) fun _ hright =>
      .bind (option_yields he) fun _ hp => .some fun _ => Fit.append.2 ⟨Fit.append.2 ⟨hleft, hright⟩, hp⟩
  · exact .skip fun _ => .bind (.required hr) fun _ hs => .bind (.required (nameds_yield he _)) fun _ hb =>
      .some fun _ => Fit.append.2 ⟨hs, Fit.lets.2 hb⟩
  · exact .skip fun _ => .bind (.required hr) fun _ hs => .bind (.required (nameds_yield he _)) fun _ hk =>
      .bind (.nullable hd) fun _ hg => .some fun _ =>
      Fit.append.2 ⟨hs, Fit.append_decls.2 ⟨hk.1, forall_mem_keyGroup.2 ⟨hk.2, hg⟩⟩⟩
  · exact .skip fun _ => .bind (.required hr) fun _ hs => .bind (.required (sortKeys_yield he)) fun _ hk =>
      .some fun _ => Fit.append.2 ⟨hs, hk⟩
  · exact .skip fun _ => .bind (.required hr) fun _ hs => .bind (.required he) fun _ hn =>
      .some fun _ => Fit.append.2 ⟨hs, hn⟩
  · exact .skip fun _ => .bind (.required hr) fun _ hs => .bind (.required he) fun _ hn =>
      .some fun _ => Fit.append.2 ⟨hs, hn⟩
  · exact .skip fun _ => .bind (.required hr) fun _ hs => .bind (.required (projection_yields he)) fun _ hp =>
      .skip fun _ => .some fun _ => Fit.append.2 ⟨hs, hp⟩
  · exact .skip fun _ => .skip fun _ => .skip fun _ => .bind (.required he) fun _ hleft =>
      .bind (.required he) fun _ hright => .some fun _ => Fit.append.2 ⟨hleft, hright⟩
  · exact .none

theorem relOp_yields : Yields (Read.relOp form expr relation) fun op =>
    ∀ s, Fit fits (Relation.mk op s).decls (Relation.mk op s).vars := by
  intro j
  refine .skip fun choice => ?_
  split
  · split
    · exact .some fun _ => .nil
    · exact .none
  · exact relOpOf_yields he hr _ _
  · exact .none

end

theorem relation_yields (n : Nat) : Yields (Read.relation form expr n) fun r => Fit fits r.decls r.vars := by
  induction n with
  | zero => exact fun _ => .none
  | succ n ih =>
    exact fun _ => .skip fun _ => .bind (.required (relOp_yields he ih)) fun _ hop => .skip fun _ => .some (hop _)

theorem exprOf_yields {var : Decoder V} (hv : Yields var fits) {relation : Decoder (Relation V)}
    (hr : Yields relation fun r => Fit fits r.decls r.vars) :
    Yields (Read.exprOf form var expr relation) fun e => Fit fits e.decls e.vars := by
  intro j
  refine .skip fun choice => .skip fun content => ?_
  split
  · exact .skip fun _ => .some .nil
  · exact .bind (hv _) fun _ h => .some (Fit.cons_var.2 ⟨h, .nil⟩)
  · exact .skip fun _ => .bind (.required he) fun _ hroot => .bind (.required (steps_yield he)) fun _ hsteps =>
      .some (Fit.append.2 ⟨hroot, hsteps⟩)
  · exact .skip fun _ => .skip fun _ => .bind (.required he) fun _ h => .some h
  · exact .skip fun _ => .skip fun _ => .bind (.required he) fun _ hlhs => .bind (.required he) fun _ hrhs =>
      .some (Fit.append.2 ⟨hlhs, hrhs⟩)
  · exact .skip fun _ => .skip fun _ => .bind (.required (exprs_yield he)) fun _ h => .some h
  · exact .skip fun _ => .skip fun _ => .skip fun _ => .bind (.required he) fun _ h => .some h
  · exact .skip fun _ => .bind (option_yields he) fun _ ho => .bind (.required (branches_yield he)) fun _ hb =>
      .bind (option_yields he) fun _ hd => .some (Fit.append.2 ⟨Fit.append.2 ⟨ho, hb⟩, hd⟩)
  · exact .skip fun _ => .skip fun _ => .bind (.required (exprs_yield he)) fun _ h => .some h
  · exact .skip fun _ => .bind (.required (fields_yield he)) fun _ h => .some h
  · exact .skip fun _ => .bind (.required he) fun _ h => .skip fun _ => .some h
  · exact .bind (hr _) fun _ h => .some h
  · exact .none

end

section

variable (c : Codec V) (form : Json.Form)

theorem expr_yields (n : Nat) : Yields (Read.expr form (c.read form) n) fun e => Fit c.Fits e.decls e.vars := by
  induction n with
  | zero => exact fun _ => .none
  | succ n ih => exact exprOf_yields ih (c.yields form) (relation_yields ih n)

/-! ## Statements -/

variable {c form}

theorem Expr.ofJson?_toJson {e : Expr V} (h : Fit c.Fits e.decls e.vars) :
    ofJson? form (c.read form) (e.toJson c.write) = some e :=
  expr_reads c e h (Nat.lt_succ_self _)

theorem Expr.ofJson?_yields : Yields (ofJson? form (c.read form)) fun e => Fit c.Fits e.decls e.vars :=
  fun j => expr_yields c form _ j

theorem Mutation.ofJson?_toJson {m : Mutation V} (h : Fit c.Fits m.rows.decls (m.target :: m.rows.vars)) :
    ofJson? form (c.read form) (m.toJson c.write) = some m := by
  obtain ⟨ht, hr⟩ := Fit.cons_var.1 h
  exact andThen rfl <| andThen (required_of rfl (Action.ofJson?_toJson _)) <|
    andThen (required_of rfl (c.reads form ht)) <| andThen (required_of rfl (Expr.ofJson?_toJson hr)) rfl

theorem Mutation.ofJson?_yields :
    Yields (ofJson? form (c.read form)) fun m => Fit c.Fits m.rows.decls (m.target :: m.rows.vars) := fun _ =>
  .skip fun _ => .skip fun _ => .bind (.required (c.yields form)) fun _ ht =>
    .bind (.required Expr.ofJson?_yields) fun _ hr => .some (Fit.cons_var.2 ⟨ht, hr⟩)

theorem Command.ofJson?_toJson {m : Command V} (h : Fit c.Fits m.rows.decls m.rows.vars) :
    ofJson? form (c.read form) (m.toJson c.write) = some m :=
  andThen rfl <| andThen (required_of rfl rfl) <| andThen (required_of rfl rfl) <|
    andThen (required_of rfl (Expr.ofJson?_toJson h)) rfl

theorem Command.ofJson?_yields :
    Yields (ofJson? form (c.read form)) fun m => Fit c.Fits m.rows.decls m.rows.vars := fun _ =>
  .skip fun _ => .skip fun _ => .skip fun _ => .bind (.required Expr.ofJson?_yields) fun _ h => .some h

theorem exprs_ofJson?_toJson : ∀ {es : List (Expr V)}, Fit c.Fits (declsList es) (varsList es) →
    Decoder.list (Expr.ofJson? form (c.read form)) (.arr (exprsToJson c.write es)) = some es
  | [], _ => rfl
  | _ :: _, h =>
    have h := Fit.append.1 h
    Decoder.list_cons (Expr.ofJson?_toJson h.1) (exprs_ofJson?_toJson h.2)

theorem Statement.ofJson?_toJson : ∀ {s : Statement V}, Fit c.Fits s.decls s.vars →
    ofJson? form (c.read form) (s.toJson c.write) = some s
  | .query _, h => andThen rfl <| andThen rfl <| andThen (Expr.ofJson?_toJson h) rfl
  | .dml _, h =>
    have hm := Decoder.list_ofList fun m hm => Mutation.ofJson?_toJson (Fit.flatMap.1 h m hm)
    andThen rfl <| andThen rfl <| andThen hm rfl
  | .dmlCommands _, h =>
    have hm := Decoder.list_ofList fun m hm => Command.ofJson?_toJson (Fit.flatMap.1 h m hm)
    andThen rfl <| andThen rfl <| andThen hm rfl
  | .exec _ _, h =>
    andThen rfl <| andThen rfl <| andThen rfl <| andThen (required_of rfl rfl) <|
      andThen (required_of rfl (exprs_ofJson?_toJson h)) rfl

theorem Statement.ofJson?_yields : Yields (ofJson? form (c.read form)) fun s => Fit c.Fits s.decls s.vars := by
  intro j
  refine .skip fun choice => .skip fun content => ?_
  split
  · exact .bind (Expr.ofJson?_yields _) fun _ h => .some h
  · exact .bind (Decoder.list_yields_mem Mutation.ofJson?_yields _) fun _ h => .some (Fit.flatMap.2 h)
  · exact .bind (Decoder.list_yields_mem Command.ofJson?_yields _) fun _ h => .some (Fit.flatMap.2 h)
  · exact .skip fun _ => .skip fun _ => .bind (.required (exprs_yield Expr.ofJson?_yields)) fun _ h => .some h
  · exact .none

end

/-- Statements over variables that have a codec. -/
def Statement.codec (c : Codec V) : Codec (Statement V) where
  write := toJson c.write
  read form := ofJson? form (c.read form)
  Fits s := Fit c.Fits s.decls s.vars
  reads _ _ h := ofJson?_toJson h
  yields _ := ofJson?_yields

end Plan

end NestedQuery
