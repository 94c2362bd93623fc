/-
Replacing what the variables of a plan carry, with effects: the replacement is asked for the variables one after the
other in the order of reading, and for nothing else, and the variables of the new plan are its answers. Where the answer
for a variable does not depend on the answers before it, the replacement is a plain map over the tree. The map keeps
what the plan declares and its outline.
-/
import NestedQuery.Plan.MapVars
import NestedQuery.Proofs.Lexical.Environment
import Mathlib.Logic.Basic

namespace NestedQuery.Plan

open Lexical (Env)

variable {V W σ α β : Type}

/-! ## The plain map -/

mutual

def Expr.map (g : V → W) : Expr V → Expr W
  | .lit value => .lit value
  | .var v => .var (g v)
  | .path root steps => .path (root.map g) (mapSteps g steps)
  | .unary op operand => .unary op (operand.map g)
  | .binary op lhs rhs => .binary op (lhs.map g) (rhs.map g)
  | .call name args => .call name (mapList g args)
  | .callAgg name quantifier arg => .callAgg name quantifier (arg.map g)
  | .case operand branches otherwise =>
    .case (mapOption g operand) (mapBranches g branches) (mapOption g otherwise)
  | .collection kind values => .collection kind (mapList g values)
  | .struct fields => .struct (mapFields g fields)
  | .cast value asType => .cast (value.map g) asType
  | .query relation => .query (relation.map g)

def mapList (g : V → W) : List (Expr V) → List (Expr W)
  | [] => []
  | e :: es => e.map g :: mapList g es

def mapOption (g : V → W) : Option (Expr V) → Option (Expr W)
  | none => none
  | some e => some (e.map g)

def mapSteps (g : V → W) : List (PathStep V) → List (PathStep W)
  | [] => []
  | .key key case :: steps => .key (key.map g) case :: mapSteps g steps
  | .wildcard :: steps => .wildcard :: mapSteps g steps
  | .unpivot :: steps => .unpivot :: mapSteps g steps

def mapBranches (g : V → W) : List (CaseBranch V) → List (CaseBranch W)
  | [] => []
  | ⟨condition, result⟩ :: branches => ⟨condition.map g, result.map g⟩ :: mapBranches g branches

def mapFields (g : V → W) : List (StructField V) → List (StructField W)
  | [] => []
  | ⟨key, value⟩ :: fields => ⟨key.map g, value.map g⟩ :: mapFields g fields

def Relation.map (g : V → W) : Relation V → Relation W
  | ⟨.unit, s⟩ => ⟨.unit, s⟩
  | ⟨.scan expr asDecl atDecl byDecl, s⟩ => ⟨.scan (expr.map g) asDecl atDecl byDecl, s⟩
  | ⟨.unpivot expr asDecl atDecl byDecl, s⟩ => ⟨.unpivot (expr.map g) asDecl atDecl byDecl, s⟩
  | ⟨.filter predicate source, s⟩ => ⟨.filter (predicate.map g) (source.map g), s⟩
  | ⟨.join kind left right predicate, s⟩ => ⟨.join kind (left.map g) (right.map g) (mapOption g predicate), s⟩
  | ⟨.letting source bindings, s⟩ => ⟨.letting (source.map g) (mapNamed g bindings), s⟩
  | ⟨.aggregate source keys groupAs, s⟩ => ⟨.aggregate (source.map g) (mapNamed g keys) groupAs, s⟩
  | ⟨.sort source keys, s⟩ => ⟨.sort (source.map g) (mapSortKeys g keys), s⟩
  | ⟨.offset source rowCount, s⟩ => ⟨.offset (source.map g) (rowCount.map g), s⟩
  | ⟨.limit source rowCount, s⟩ => ⟨.limit (source.map g) (rowCount.map g), s⟩
  | ⟨.project source projection quantifier, s⟩ => ⟨.project (source.map g) (projection.map g) quantifier, s⟩
  | ⟨.setOp op quantifier left right, s⟩ => ⟨.setOp op quantifier (left.map g) (right.map g), s⟩

def mapNamed (g : V → W) : List (Named V) → List (Named W)
  | [] => []
  | ⟨expr, decl⟩ :: rest => ⟨expr.map g, decl⟩ :: mapNamed g rest

def mapSortKeys (g : V → W) : List (SortKey V) → List (SortKey W)
  | [] => []
  | ⟨expr, order, nulls⟩ :: rest => ⟨expr.map g, order, nulls⟩ :: mapSortKeys g rest

def Projection.map (g : V → W) : Projection V → Projection W
  | .value expr => .value (expr.map g)
  | .struct items => .struct (mapItems g items)
  | .pivot value key => .pivot (value.map g) (key.map g)

def mapItems (g : V → W) : List (ProjectItem V) → List (ProjectItem W)
  | [] => []
  | .expr expr field :: items => .expr (expr.map g) field :: mapItems g items
  | .all expr :: items => .all (expr.map g) :: mapItems g items

end

def Mutation.map (g : V → W) (m : Mutation V) : Mutation W := ⟨m.action, g m.target, m.rows.map g⟩

def Command.map (g : V → W) (c : Command V) : Command W := ⟨c.action, c.targetId, c.rows.map g⟩

def Statement.map (g : V → W) : Statement V → Statement W
  | .query expr => .query (expr.map g)
  | .dml mutations => .dml (mutations.map (Mutation.map g))
  | .dmlCommands commands => .dmlCommands (commands.map (Command.map g))
  | .exec procedure args => .exec procedure (mapList g args)

/-! ## The replacement that changes nothing -/

mutual

theorem Expr.map_id : ∀ e : Expr V, e.map id = e
  | .lit _ => rfl
  | .var _ => rfl
  | .path root steps => congrArg₂ Expr.path root.map_id (mapSteps_id steps)
  | .unary op operand => congrArg (Expr.unary op) operand.map_id
  | .binary op lhs rhs => congrArg₂ (Expr.binary op) lhs.map_id rhs.map_id
  | .call name args => congrArg (Expr.call name) (mapList_id args)
  | .callAgg name quantifier arg => congrArg (Expr.callAgg name quantifier) arg.map_id
  | .case operand branches otherwise => by
    show Expr.case _ _ _ = Expr.case _ _ _
    rw [mapOption_id operand, mapBranches_id branches, mapOption_id otherwise]
  | .collection kind values => congrArg (Expr.collection kind) (mapList_id values)
  | .struct fields => congrArg Expr.struct (mapFields_id fields)
  | .cast value asType => congrArg (Expr.cast · asType) value.map_id
  | .query relation => congrArg Expr.query relation.map_id

theorem mapList_id : ∀ es : List (Expr V), mapList id es = es
  | [] => rfl
  | e :: es => congrArg₂ List.cons e.map_id (mapList_id es)

theorem mapOption_id : ∀ e : Option (Expr V), mapOption id e = e
  | none => rfl
  | some e => congrArg some e.map_id

theorem mapSteps_id : ∀ steps : List (PathStep V), mapSteps id steps = steps
  | [] => rfl
  | .key key case :: steps => congrArg₂ (PathStep.key · case :: ·) key.map_id (mapSteps_id steps)
  | .wildcard :: steps => congrArg (PathStep.wildcard :: ·) (mapSteps_id steps)
  | .unpivot :: steps => congrArg (PathStep.unpivot :: ·) (mapSteps_id steps)

theorem mapBranches_id : ∀ branches : List (CaseBranch V), mapBranches id branches = branches
  | [] => rfl
  | ⟨condition, result⟩ :: branches =>
    congrArg₂ List.cons (congrArg₂ CaseBranch.mk condition.map_id result.map_id) (mapBranches_id branches)

theorem mapFields_id : ∀ fields : List (StructField V), mapFields id fields = fields
  | [] => rfl
  | ⟨key, value⟩ :: fields =>
    congrArg₂ List.cons (congrArg₂ StructField.mk key.map_id value.map_id) (mapFields_id fields)

theorem Relation.map_id : ∀ r : Relation V, r.map id = r
  | ⟨.unit, _⟩ => rfl
  | ⟨.scan expr asDecl atDecl byDecl, s⟩ =>
    congrArg (fun e => Relation.mk (.scan e asDecl atDecl byDecl) s) expr.map_id
  | ⟨.unpivot expr asDecl atDecl byDecl, s⟩ =>
    congrArg (fun e => Relation.mk (.unpivot e asDecl atDecl byDecl) s) expr.map_id
  | ⟨.filter predicate source, s⟩ =>
    congrArg₂ (fun e r => Relation.mk (.filter e r) s) predicate.map_id source.map_id
  | ⟨.join kind left right predicate, s⟩ => by
    show Relation.mk (.join kind _ _ _) s = ⟨.join kind _ _ _, s⟩
    rw [left.map_id, right.map_id, mapOption_id predicate]
  | ⟨.letting source bindings, s⟩ =>
    congrArg₂ (fun r bs => Relation.mk (.letting r bs) s) source.map_id (mapNamed_id bindings)
  | ⟨.aggregate source keys groupAs, s⟩ =>
    congrArg₂ (fun r ks => Relation.mk (.aggregate r ks groupAs) s) source.map_id (mapNamed_id keys)
  | ⟨.sort source keys, s⟩ => congrArg₂ (fun r ks => Relation.mk (.sort r ks) s) source.map_id (mapSortKeys_id keys)
  | ⟨.offset source rowCount, s⟩ => congrArg₂ (fun r n => Relation.mk (.offset r n) s) source.map_id rowCount.map_id
  | ⟨.limit source rowCount, s⟩ => congrArg₂ (fun r n => Relation.mk (.limit r n) s) source.map_id rowCount.map_id
  | ⟨.project source projection quantifier, s⟩ =>
    congrArg₂ (fun r p => Relation.mk (.project r p quantifier) s) source.map_id projection.map_id
  | ⟨.setOp op quantifier left right, s⟩ =>
    congrArg₂ (fun l r => Relation.mk (.setOp op quantifier l r) s) left.map_id right.map_id

theorem mapNamed_id : ∀ bindings : List (Named V), mapNamed id bindings = bindings
  | [] => rfl
  | ⟨expr, decl⟩ :: rest => congrArg₂ (Named.mk · decl :: ·) expr.map_id (mapNamed_id rest)

theorem mapSortKeys_id : ∀ keys : List (SortKey V), mapSortKeys id keys = keys
  | [] => rfl
  | ⟨expr, order, nulls⟩ :: rest => congrArg₂ (SortKey.mk · order nulls :: ·) expr.map_id (mapSortKeys_id rest)

theorem Projection.map_id : ∀ p : Projection V, p.map id = p
  | .value expr => congrArg Projection.value expr.map_id
  | .struct items => congrArg Projection.struct (mapItems_id items)
  | .pivot value key => congrArg₂ Projection.pivot value.map_id key.map_id

theorem mapItems_id : ∀ items : List (ProjectItem V), mapItems id items = items
  | [] => rfl
  | .expr expr field :: items => congrArg₂ (ProjectItem.expr · field :: ·) expr.map_id (mapItems_id items)
  | .all expr :: items => congrArg₂ (ProjectItem.all · :: ·) expr.map_id (mapItems_id items)

end

theorem Statement.map_id (s : Statement V) : s.map id = s := by
  cases s with
  | query expr => exact congrArg Statement.query expr.map_id
  | dml mutations =>
    have hm : ∀ m : Mutation V, m.map id = m := fun m => congrArg (Mutation.mk m.action m.target) m.rows.map_id
    exact congrArg Statement.dml ((List.map_congr_left fun m _ => hm m).trans (List.map_id mutations))
  | dmlCommands commands =>
    have hc : ∀ c : Command V, c.map id = c := fun c => congrArg (Command.mk c.action c.targetId) c.rows.map_id
    exact congrArg Statement.dmlCommands ((List.map_congr_left fun c _ => hc c).trans (List.map_id commands))
  | exec procedure args => exact congrArg (Statement.exec procedure) (mapList_id args)

/-! ## Answers -/

section Answers

variable {m : Type → Type} [Monad m]

/-- A computation gives something that is seen as `b` and whose variables are the answers of `f` for `vs`. It does so by
asking for these, one after the other, and by nothing else: whatever looks at the view and the variables cannot tell it
from `b` with the answers. -/
def Rebuilds (f : V → m W) (view : α → β) (vars : α → List W) (x : m α) (b : β) (vs : List V) : Prop :=
  ∀ (γ : Type) (k : β → List W → m γ), (x >>= fun a => k (view a) (vars a)) = vs.mapM f >>= k b

/-- A replacement `ask` of what variables carry, and what is seen of its answers: the one for `v` is seen as
`expected v`, whatever was asked before. -/
structure Replacement (m : Type → Type) [Monad m] (V W U : Type) where
  ask : V → m W
  seen : W → U
  expected : V → U
  answers : ∀ v, Rebuilds ask seen (fun w => [w]) (ask v) (expected v) [v]

variable [LawfulMonad m] {f : V → m W}

namespace Rebuilds

variable {view : α → β} {vars : α → List W} {α₁ α₂ α₃ β₁ β₂ β₃ : Type}
  {view₁ : α₁ → β₁} {vars₁ : α₁ → List W} {x₁ : m α₁} {b₁ : β₁} {vs₁ : List V}
  {view₂ : α₂ → β₂} {vars₂ : α₂ → List W} {x₂ : m α₂} {b₂ : β₂} {vs₂ : List V}
  {view₃ : α₃ → β₃} {vars₃ : α₃ → List W} {x₃ : m α₃} {b₃ : β₃} {vs₃ : List V}

theorem pure (a : α) (h : vars a = [] := by rfl) : Rebuilds f view vars (Pure.pure a) (view a) [] := by
  intro γ k
  rw [pure_bind, h, List.mapM_nil, pure_bind]

theorem map {c : α₁ → α} (h₁ : Rebuilds f view₁ vars₁ x₁ b₁ vs₁) (d : β₁ → β)
    (hs : ∀ a, view (c a) = d (view₁ a) := by intros; rfl) (hv : ∀ a, vars (c a) = vars₁ a := by intros; rfl) :
    Rebuilds f view vars (x₁ >>= fun a => Pure.pure (c a)) (d b₁) vs₁ := by
  intro γ k
  simp only [bind_assoc, pure_bind, hs, hv]
  exact h₁ γ fun s => k (d s)

theorem map₂ {c : α₁ → α₂ → α} (h₁ : Rebuilds f view₁ vars₁ x₁ b₁ vs₁) (h₂ : Rebuilds f view₂ vars₂ x₂ b₂ vs₂)
    (d : β₁ → β₂ → β) (hs : ∀ a b, view (c a b) = d (view₁ a) (view₂ b) := by intros; rfl)
    (hv : ∀ a b, vars (c a b) = vars₁ a ++ vars₂ b := by intros; rfl) :
    Rebuilds f view vars (x₁ >>= fun a => x₂ >>= fun b => Pure.pure (c a b)) (d b₁ b₂) (vs₁ ++ vs₂) := by
  intro γ k
  simp only [bind_assoc, pure_bind, hs, hv, List.mapM_append]
  rw [h₁ γ fun s ws => x₂ >>= fun b => k (d s (view₂ b)) (ws ++ vars₂ b)]
  exact bind_congr fun ws => h₂ γ fun s ws' => k (d b₁ s) (ws ++ ws')

theorem map₃ {c : α₁ → α₂ → α₃ → α} (h₁ : Rebuilds f view₁ vars₁ x₁ b₁ vs₁)
    (h₂ : Rebuilds f view₂ vars₂ x₂ b₂ vs₂) (h₃ : Rebuilds f view₃ vars₃ x₃ b₃ vs₃) (d : β₁ → β₂ → β₃ → β)
    (hs : ∀ a b e, view (c a b e) = d (view₁ a) (view₂ b) (view₃ e) := by intros; rfl)
    (hv : ∀ a b e, vars (c a b e) = vars₁ a ++ vars₂ b ++ vars₃ e := by intros; rfl) :
    Rebuilds f view vars (x₁ >>= fun a => x₂ >>= fun b => x₃ >>= fun e => Pure.pure (c a b e)) (d b₁ b₂ b₃)
      (vs₁ ++ vs₂ ++ vs₃) := by
  intro γ k
  simp only [bind_assoc, pure_bind, hs, hv, List.mapM_append]
  rw [h₁ γ fun s ws => x₂ >>= fun b => x₃ >>= fun e => k (d s (view₂ b) (view₃ e)) (ws ++ vars₂ b ++ vars₃ e)]
  refine bind_congr fun ws => ?_
  rw [h₂ γ fun s ws' => x₃ >>= fun e => k (d b₁ s (view₃ e)) (ws ++ ws' ++ vars₃ e)]
  exact bind_congr fun ws' => h₃ γ fun s ws'' => k (d b₁ b₂ s) (ws ++ ws' ++ ws'')

end Rebuilds

variable {U : Type} (sub : Replacement m V W U)

mutual

theorem Expr.rebuilds_mapVarsM : ∀ e : Expr V,
    Rebuilds sub.ask (Expr.map sub.seen) Expr.vars (e.mapVarsM sub.ask) (e.map sub.expected) e.vars
  | .lit value => .pure (Expr.lit value)
  | .var v => (sub.answers v).map Expr.var
  | .path root steps => root.rebuilds_mapVarsM.map₂ (rebuilds_mapVarsSteps steps) Expr.path
  | .unary op operand => operand.rebuilds_mapVarsM.map (Expr.unary op)
  | .binary op lhs rhs => lhs.rebuilds_mapVarsM.map₂ rhs.rebuilds_mapVarsM (Expr.binary op)
  | .call name args => (rebuilds_mapVarsList args).map (Expr.call name)
  | .callAgg name quantifier arg => arg.rebuilds_mapVarsM.map (Expr.callAgg name quantifier)
  | .case operand branches otherwise =>
    (rebuilds_mapVarsOption operand).map₃ (rebuilds_mapVarsBranches branches) (rebuilds_mapVarsOption otherwise)
      Expr.case
  | .collection kind values => (rebuilds_mapVarsList values).map (Expr.collection kind)
  | .struct fields => (rebuilds_mapVarsFields fields).map Expr.struct
  | .cast value asType => value.rebuilds_mapVarsM.map (Expr.cast · asType)
  | .query relation => relation.rebuilds_mapVarsM.map Expr.query

theorem rebuilds_mapVarsList : ∀ es : List (Expr V),
    Rebuilds sub.ask (mapList sub.seen) varsList (mapVarsList sub.ask es) (mapList sub.expected es) (varsList es)
  | [] => .pure []
  | e :: es => e.rebuilds_mapVarsM.map₂ (rebuilds_mapVarsList es) List.cons

theorem rebuilds_mapVarsOption : ∀ e : Option (Expr V),
    Rebuilds sub.ask (mapOption sub.seen) varsOption (mapVarsOption sub.ask e) (mapOption sub.expected e) (varsOption e)
  | none => .pure none
  | some e => e.rebuilds_mapVarsM.map some

theorem rebuilds_mapVarsSteps : ∀ steps : List (PathStep V),
    Rebuilds sub.ask (mapSteps sub.seen) varsSteps (mapVarsSteps sub.ask steps) (mapSteps sub.expected steps)
      (varsSteps steps)
  | [] => .pure []
  | .key key case :: steps => key.rebuilds_mapVarsM.map₂ (rebuilds_mapVarsSteps steps) (PathStep.key · case :: ·)
  | .wildcard :: steps => (rebuilds_mapVarsSteps steps).map (PathStep.wildcard :: ·)
  | .unpivot :: steps => (rebuilds_mapVarsSteps steps).map (PathStep.unpivot :: ·)

theorem rebuilds_mapVarsBranches : ∀ branches : List (CaseBranch V),
    Rebuilds sub.ask (mapBranches sub.seen) varsBranches (mapVarsBranches sub.ask branches)
      (mapBranches sub.expected branches) (varsBranches branches)
  | [] => .pure []
  | ⟨condition, result⟩ :: branches =>
    condition.rebuilds_mapVarsM.map₃ result.rebuilds_mapVarsM (rebuilds_mapVarsBranches branches)
      fun c r bs => ⟨c, r⟩ :: bs

theorem rebuilds_mapVarsFields : ∀ fields : List (StructField V),
    Rebuilds sub.ask (mapFields sub.seen) varsFields (mapVarsFields sub.ask fields) (mapFields sub.expected fields)
      (varsFields fields)
  | [] => .pure []
  | ⟨key, value⟩ :: fields =>
    key.rebuilds_mapVarsM.map₃ value.rebuilds_mapVarsM (rebuilds_mapVarsFields fields) fun k v fs => ⟨k, v⟩ :: fs

theorem Relation.rebuilds_mapVarsM : ∀ r : Relation V,
    Rebuilds sub.ask (Relation.map sub.seen) Relation.vars (r.mapVarsM sub.ask) (r.map sub.expected) r.vars
  | ⟨.unit, s⟩ => .pure (Relation.mk .unit s)
  | ⟨.scan expr asDecl atDecl byDecl, s⟩ =>
    expr.rebuilds_mapVarsM.map fun e => Relation.mk (.scan e asDecl atDecl byDecl) s
  | ⟨.unpivot expr asDecl atDecl byDecl, s⟩ =>
    expr.rebuilds_mapVarsM.map fun e => Relation.mk (.unpivot e asDecl atDecl byDecl) s
  | ⟨.filter predicate source, s⟩ =>
    source.rebuilds_mapVarsM.map₂ predicate.rebuilds_mapVarsM fun r e => Relation.mk (.filter e r) s
  | ⟨.join kind left right predicate, s⟩ =>
    left.rebuilds_mapVarsM.map₃ right.rebuilds_mapVarsM (rebuilds_mapVarsOption predicate)
      fun l r e => Relation.mk (.join kind l r e) s
  | ⟨.letting source bindings, s⟩ =>
    source.rebuilds_mapVarsM.map₂ (rebuilds_mapVarsNamed bindings) fun r bs => Relation.mk (.letting r bs) s
  | ⟨.aggregate source keys groupAs, s⟩ =>
    source.rebuilds_mapVarsM.map₂ (rebuilds_mapVarsNamed keys) fun r ks => Relation.mk (.aggregate r ks groupAs) s
  | ⟨.sort source keys, s⟩ =>
    source.rebuilds_mapVarsM.map₂ (rebuilds_mapVarsSortKeys keys) fun r ks => Relation.mk (.sort r ks) s
  | ⟨.offset source rowCount, s⟩ =>
    source.rebuilds_mapVarsM.map₂ rowCount.rebuilds_mapVarsM fun r n => Relation.mk (.offset r n) s
  | ⟨.limit source rowCount, s⟩ =>
    source.rebuilds_mapVarsM.map₂ rowCount.rebuilds_mapVarsM fun r n => Relation.mk (.limit r n) s
  | ⟨.project source projection quantifier, s⟩ =>
    source.rebuilds_mapVarsM.map₂ projection.rebuilds_mapVarsM fun r p => Relation.mk (.project r p quantifier) s
  | ⟨.setOp op quantifier left right, s⟩ =>
    left.rebuilds_mapVarsM.map₂ right.rebuilds_mapVarsM fun l r => Relation.mk (.setOp op quantifier l r) s

theorem rebuilds_mapVarsNamed : ∀ bindings : List (Named V),
    Rebuilds sub.ask (mapNamed sub.seen) varsNamed (mapVarsNamed sub.ask bindings) (mapNamed sub.expected bindings)
      (varsNamed bindings)
  | [] => .pure []
  | ⟨expr, decl⟩ :: rest => expr.rebuilds_mapVarsM.map₂ (rebuilds_mapVarsNamed rest) (Named.mk · decl :: ·)

theorem rebuilds_mapVarsSortKeys : ∀ keys : List (SortKey V),
    Rebuilds sub.ask (mapSortKeys sub.seen) varsSortKeys (mapVarsSortKeys sub.ask keys) (mapSortKeys sub.expected keys)
      (varsSortKeys keys)
  | [] => .pure []
  | ⟨expr, order, nulls⟩ :: rest =>
    expr.rebuilds_mapVarsM.map₂ (rebuilds_mapVarsSortKeys rest) (SortKey.mk · order nulls :: ·)

theorem Projection.rebuilds_mapVarsM : ∀ p : Projection V,
    Rebuilds sub.ask (Projection.map sub.seen) Projection.vars (p.mapVarsM sub.ask) (p.map sub.expected) p.vars
  | .value expr => expr.rebuilds_mapVarsM.map Projection.value
  | .struct items => (rebuilds_mapVarsItems items).map Projection.struct
  | .pivot value key => value.rebuilds_mapVarsM.map₂ key.rebuilds_mapVarsM Projection.pivot

theorem rebuilds_mapVarsItems : ∀ items : List (ProjectItem V),
    Rebuilds sub.ask (mapItems sub.seen) varsItems (mapVarsItems sub.ask items) (mapItems sub.expected items)
      (varsItems items)
  | [] => .pure []
  | .expr expr field :: items =>
    expr.rebuilds_mapVarsM.map₂ (rebuilds_mapVarsItems items) (ProjectItem.expr · field :: ·)
  | .all expr :: items => expr.rebuilds_mapVarsM.map₂ (rebuilds_mapVarsItems items) (ProjectItem.all · :: ·)

end

theorem rebuilds_mapVarsMutations : ∀ ms : List (Mutation V),
    Rebuilds sub.ask (List.map (Mutation.map sub.seen)) (List.flatMap fun m => m.target :: m.rows.vars)
      (mapVarsMutations sub.ask ms) (ms.map (Mutation.map sub.expected)) (ms.flatMap fun m => m.target :: m.rows.vars)
  | [] => .pure []
  | ⟨action, target, rows⟩ :: rest =>
    (sub.answers target).map₃ (rows.rebuilds_mapVarsM sub) (rebuilds_mapVarsMutations rest)
      fun t r ms => ⟨action, t, r⟩ :: ms

theorem rebuilds_mapVarsCommands : ∀ cs : List (Command V),
    Rebuilds sub.ask (List.map (Command.map sub.seen)) (List.flatMap fun c => c.rows.vars)
      (mapVarsCommands sub.ask cs) (cs.map (Command.map sub.expected)) (cs.flatMap fun c => c.rows.vars)
  | [] => .pure []
  | ⟨action, targetId, rows⟩ :: rest =>
    (rows.rebuilds_mapVarsM sub).map₂ (rebuilds_mapVarsCommands rest) (Command.mk action targetId · :: ·)

/-- Replacing what the variables carry asks for these in the order of reading, and gives what is seen as the plain map
of what is expected. -/
theorem Statement.rebuilds_mapVarsM : ∀ s : Statement V,
    Rebuilds sub.ask (Statement.map sub.seen) Statement.vars (s.mapVarsM sub.ask) (s.map sub.expected) s.vars
  | .query expr => (expr.rebuilds_mapVarsM sub).map Statement.query
  | .dml mutations => (rebuilds_mapVarsMutations sub mutations).map Statement.dml
  | .dmlCommands commands => (rebuilds_mapVarsCommands sub commands).map Statement.dmlCommands
  | .exec procedure args => (rebuilds_mapVarsList sub args).map (Statement.exec procedure)

end Answers

theorem Rebuilds.run {f : V → StateM σ W} {view : α → β} {vars : α → List W} {x : StateM σ α} {b : β} {vs : List V}
    (h : Rebuilds f view vars x b vs) (s : σ) :
    view (x.run s).1 = b ∧ (vs.mapM f).run s = (vars (x.run s).1, (x.run s).2) := by
  have hs : ((view (x.run s).1, vars (x.run s).1), (x.run s).2) =
      ((b, ((vs.mapM f).run s).1), ((vs.mapM f).run s).2) :=
    congrArg (·.run s) (h _ fun b ws => Pure.pure (b, ws))
  obtain ⟨hp, hr⟩ := Prod.mk.inj hs
  obtain ⟨hb, hw⟩ := Prod.mk.inj hp
  exact ⟨hb, Prod.ext hw.symm hr.symm⟩

/-! ## Walks -/

/-- A computation gives `a`, and changes the state as the variables `vs` do one after the other. -/
def Walks (h : σ → V → σ) (x : StateM σ α) (a : α) (vs : List V) : Prop := ∀ s, x.run s = (a, vs.foldl h s)

section

variable {f : V → StateM σ W} {g : V → W} {h : σ → V → σ}

theorem Walks.rebuilds {v : V} (hv : Walks h (f v) (g v) [v]) : Rebuilds f id (fun w => [w]) (f v) (g v) [v] := by
  intro γ k
  rw [List.mapM_cons, List.mapM_nil, bind_assoc]
  simp only [pure_bind]
  funext s
  have hs : (f v).run s = (g v, h s v) := hv s
  show (k ((f v).run s).1 [((f v).run s).1]).run _ = (k (g v) [((f v).run s).1]).run _
  rw [hs]

theorem walks_mapM (hf : ∀ v, Walks h (f v) (g v) [v]) (vs : List V) (s : σ) :
    ((vs.mapM f).run s).2 = vs.foldl h s := by
  induction vs generalizing s with
  | nil => rfl
  | cons v vs ih =>
    have hv : ((f v).run s).2 = h s v := congrArg Prod.snd (hf v s)
    rw [List.mapM_cons, List.foldl_cons, ← ih, ← hv]
    rfl

/-- A replacement whose answers do not depend on the state is the plain map, and its effects are those of the
variables in the order of reading. -/
theorem Statement.walks_mapVarsM (hf : ∀ v, Walks h (f v) (g v) [v]) (s : Statement V) :
    Walks h (s.mapVarsM f) (s.map g) s.vars := by
  intro st
  have hs := s.rebuilds_mapVarsM ⟨f, id, g, fun v => (hf v).rebuilds⟩
  obtain ⟨hmap, hvars⟩ := hs.run st
  rw [Statement.map_id] at hmap
  have hst := congrArg Prod.snd hvars
  rw [walks_mapM hf] at hst
  exact Prod.ext hmap hst.symm

end

/-! ## What the map keeps -/

variable {g : V → W}

theorem mapNamed_decl : ∀ bindings : List (Named V), (mapNamed g bindings).map (·.decl) = bindings.map (·.decl)
  | [] => rfl
  | ⟨_, decl⟩ :: rest => congrArg (decl :: ·) (mapNamed_decl rest)

theorem keyGroup_mapNamed (keys : List (Named V)) (groupAs : Option Declaration) :
    keyGroup (mapNamed g keys) groupAs = keyGroup keys groupAs := by
  unfold keyGroup
  rw [mapNamed_decl]

theorem letGroups_mapNamed (bindings : List (Named V)) : letGroups (mapNamed g bindings) = letGroups bindings := by
  unfold letGroups
  rw [mapNamed_decl]

@[simp] theorem Relation.groups_map : ∀ r : Relation V, (r.map g).groups = r.groups
  | ⟨.unit, _⟩ => rfl
  | ⟨.scan .., _⟩ => rfl
  | ⟨.unpivot .., _⟩ => rfl
  | ⟨.filter _ source, _⟩ => source.groups_map
  | ⟨.join _ left right _, _⟩ => congrArg₂ (· ++ ·) right.groups_map left.groups_map
  | ⟨.letting source bindings, _⟩ => congrArg₂ (· ++ ·) (letGroups_mapNamed bindings) source.groups_map
  | ⟨.aggregate source keys groupAs, _⟩ => congrArg₂ (· :: ·) (keyGroup_mapNamed keys groupAs) source.groups_map
  | ⟨.sort source _, _⟩ => source.groups_map
  | ⟨.offset source _, _⟩ => source.groups_map
  | ⟨.limit source _, _⟩ => source.groups_map
  | ⟨.project .., _⟩ => rfl
  | ⟨.setOp .., _⟩ => rfl

@[simp] theorem Relation.itemDecls_map : ∀ r : Relation V, (r.map g).itemDecls = r.itemDecls
  | ⟨.unit, _⟩ => rfl
  | ⟨.scan .., _⟩ => rfl
  | ⟨.unpivot .., _⟩ => rfl
  | ⟨.filter _ source, _⟩ => source.itemDecls_map
  | ⟨.join _ left right _, _⟩ => congrArg₂ (· ++ ·) left.itemDecls_map right.itemDecls_map
  | ⟨.letting source _, _⟩ => source.itemDecls_map
  | ⟨.aggregate source _ _, _⟩ => source.itemDecls_map
  | ⟨.sort source _, _⟩ => source.itemDecls_map
  | ⟨.offset source _, _⟩ => source.itemDecls_map
  | ⟨.limit source _, _⟩ => source.itemDecls_map
  | ⟨.project .., _⟩ => rfl
  | ⟨.setOp .., _⟩ => rfl

@[simp] theorem Relation.groupDecls_map : ∀ r : Relation V, (r.map g).groupDecls = r.groupDecls
  | ⟨.unit, _⟩ => rfl
  | ⟨.scan .., _⟩ => rfl
  | ⟨.unpivot .., _⟩ => rfl
  | ⟨.filter _ source, _⟩ => source.groupDecls_map
  | ⟨.join .., _⟩ => rfl
  | ⟨.letting .., _⟩ => rfl
  | ⟨.aggregate _ keys groupAs, _⟩ => keyGroup_mapNamed keys groupAs
  | ⟨.sort source _, _⟩ => source.groupDecls_map
  | ⟨.offset source _, _⟩ => source.groupDecls_map
  | ⟨.limit source _, _⟩ => source.groupDecls_map
  | ⟨.project .., _⟩ => rfl
  | ⟨.setOp .., _⟩ => rfl

def Item.map (g : V → W) : Item V → Item W
  | .var env v => .var env (g v)
  | .target v => .target (g v)
  | .block source projection => .block (source.map g) (projection.map g)

theorem append_eq_map {f : α → β} {xs ys : List α} {us vs : List β} (hx : us = xs.map f) (hy : vs = ys.map f) :
    us ++ vs = (xs ++ ys).map f := by
  rw [hx, hy, List.map_append]

/-- What is read in an environment is so in one that is extended by the same groups. -/
theorem eq_map_extend {us : Env → List (Item W)} {xs : Env → List (Item V)} {groups groups' : List (List Declaration)}
    (hg : groups' = groups) (h : ∀ env, us env = (xs env).map (Item.map g)) (env : Env) :
    us (env.extend groups') = (xs (env.extend groups)).map (Item.map g) := by
  rw [hg, h]

mutual

theorem Expr.outline_map : ∀ (env : Env) (e : Expr V), (e.map g).outline env = (e.outline env).map (Item.map g)
  | _, .lit _ => rfl
  | _, .var _ => rfl
  | env, .path root steps => append_eq_map (root.outline_map env) (outlineSteps_map env steps)
  | env, .unary _ operand => operand.outline_map env
  | env, .binary _ lhs rhs => append_eq_map (lhs.outline_map env) (rhs.outline_map env)
  | env, .call _ args => outlineList_map env args
  | env, .callAgg _ _ arg => arg.outline_map env
  | env, .case operand branches otherwise =>
    append_eq_map (append_eq_map (outlineOption_map env operand) (outlineBranches_map env branches))
      (outlineOption_map env otherwise)
  | env, .collection _ values => outlineList_map env values
  | env, .struct fields => outlineFields_map env fields
  | env, .cast value _ => value.outline_map env
  | env, .query relation => relation.outline_map env

theorem outlineList_map :
    ∀ (env : Env) (es : List (Expr V)), outlineList env (mapList g es) = (outlineList env es).map (Item.map g)
  | _, [] => rfl
  | env, e :: es => append_eq_map (e.outline_map env) (outlineList_map env es)

theorem outlineOption_map :
    ∀ (env : Env) (e : Option (Expr V)), outlineOption env (mapOption g e) = (outlineOption env e).map (Item.map g)
  | _, none => rfl
  | env, some e => e.outline_map env

theorem outlineSteps_map : ∀ (env : Env) (steps : List (PathStep V)),
    outlineSteps env (mapSteps g steps) = (outlineSteps env steps).map (Item.map g)
  | _, [] => rfl
  | env, .key key _ :: steps => append_eq_map (key.outline_map env) (outlineSteps_map env steps)
  | env, .wildcard :: steps => outlineSteps_map env steps
  | env, .unpivot :: steps => outlineSteps_map env steps

theorem outlineBranches_map : ∀ (env : Env) (branches : List (CaseBranch V)),
    outlineBranches env (mapBranches g branches) = (outlineBranches env branches).map (Item.map g)
  | _, [] => rfl
  | env, ⟨condition, result⟩ :: branches =>
    append_eq_map (append_eq_map (condition.outline_map env) (result.outline_map env))
      (outlineBranches_map env branches)

theorem outlineFields_map : ∀ (env : Env) (fields : List (StructField V)),
    outlineFields env (mapFields g fields) = (outlineFields env fields).map (Item.map g)
  | _, [] => rfl
  | env, ⟨key, value⟩ :: fields =>
    append_eq_map (append_eq_map (key.outline_map env) (value.outline_map env)) (outlineFields_map env fields)

theorem Relation.outline_map : ∀ (env : Env) (r : Relation V), (r.map g).outline env = (r.outline env).map (Item.map g)
  | _, ⟨.unit, _⟩ => rfl
  | env, ⟨.scan expr .., _⟩ => expr.outline_map env
  | env, ⟨.unpivot expr .., _⟩ => expr.outline_map env
  | env, ⟨.filter predicate source, _⟩ =>
    append_eq_map (source.outline_map env) (eq_map_extend source.groups_map (fun env => predicate.outline_map env) env)
  | env, ⟨.join _ left right predicate, _⟩ =>
    have hg : (right.map g).groups ++ (left.map g).groups = right.groups ++ left.groups := by
      rw [right.groups_map, left.groups_map]
    append_eq_map
      (append_eq_map (left.outline_map env) (eq_map_extend left.groups_map (fun env => right.outline_map env) env))
      (eq_map_extend hg (fun env => outlineOption_map env predicate) env)
  | env, ⟨.letting source bindings, _⟩ =>
    append_eq_map (source.outline_map env)
      (eq_map_extend source.groups_map (fun env => outlineLets_map env bindings) env)
  | env, ⟨.aggregate source keys _, _⟩ =>
    append_eq_map (source.outline_map env) (eq_map_extend source.groups_map (fun env => outlineKeys_map env keys) env)
  | env, ⟨.sort source keys, _⟩ =>
    append_eq_map (source.outline_map env)
      (eq_map_extend source.groups_map (fun env => outlineSortKeys_map env keys) env)
  | env, ⟨.offset source rowCount, _⟩ =>
    append_eq_map (source.outline_map env) (eq_map_extend source.groups_map (fun env => rowCount.outline_map env) env)
  | env, ⟨.limit source rowCount, _⟩ =>
    append_eq_map (source.outline_map env) (eq_map_extend source.groups_map (fun env => rowCount.outline_map env) env)
  | env, ⟨.project source projection _, _⟩ =>
    congrArg (Item.block (source.map g) (projection.map g) :: ·)
      (append_eq_map (source.outline_map env.enter)
        (eq_map_extend source.groups_map (fun env => projection.outline_map env) env.enter))
  | env, ⟨.setOp _ _ left right, _⟩ => append_eq_map (left.outline_map env) (right.outline_map env)

theorem outlineLets_map : ∀ (env : Env) (bindings : List (Named V)),
    outlineLets env (mapNamed g bindings) = (outlineLets env bindings).map (Item.map g)
  | _, [] => rfl
  | env, ⟨expr, _⟩ :: rest => append_eq_map (expr.outline_map env) (outlineLets_map _ rest)

theorem outlineKeys_map : ∀ (env : Env) (keys : List (Named V)),
    outlineKeys env (mapNamed g keys) = (outlineKeys env keys).map (Item.map g)
  | _, [] => rfl
  | env, ⟨expr, _⟩ :: rest => append_eq_map (expr.outline_map env) (outlineKeys_map env rest)

theorem outlineSortKeys_map : ∀ (env : Env) (keys : List (SortKey V)),
    outlineSortKeys env (mapSortKeys g keys) = (outlineSortKeys env keys).map (Item.map g)
  | _, [] => rfl
  | env, ⟨expr, _, _⟩ :: rest => append_eq_map (expr.outline_map env) (outlineSortKeys_map env rest)

theorem Projection.outline_map :
    ∀ (env : Env) (p : Projection V), (p.map g).outline env = (p.outline env).map (Item.map g)
  | env, .value expr => expr.outline_map env
  | env, .struct items => outlineItems_map env items
  | env, .pivot value key => append_eq_map (value.outline_map env) (key.outline_map env)

theorem outlineItems_map : ∀ (env : Env) (items : List (ProjectItem V)),
    outlineItems env (mapItems g items) = (outlineItems env items).map (Item.map g)
  | _, [] => rfl
  | env, .expr expr _ :: items => append_eq_map (expr.outline_map env) (outlineItems_map env items)
  | env, .all expr :: items => append_eq_map (expr.outline_map env) (outlineItems_map env items)

end

theorem Mutation.outline_map (m : Mutation V) : (m.map g).outline = m.outline.map (Item.map g) :=
  congrArg (Item.target (g m.target) :: ·) (m.rows.outline_map .top)

/-- The outline of a plan whose variables are replaced is its outline with the variables replaced. -/
theorem Statement.outline_map : ∀ s : Statement V, (s.map g).outline = s.outline.map (Item.map g)
  | .query expr => expr.outline_map .top
  | .dml mutations => by
    show (mutations.map (Mutation.map g)).flatMap Mutation.outline = _
    rw [Statement.outline, List.flatMap_map, List.map_flatMap]
    simp only [Mutation.outline_map]
  | .dmlCommands commands => by
    show (commands.map (Command.map g)).flatMap _ = _
    rw [Statement.outline, List.flatMap_map, List.map_flatMap]
    simp only [Command.map, Expr.outline_map]
  | .exec _ args => outlineList_map .top args

theorem itemVars_map (items : List (Item V)) : itemVars (items.map (Item.map g)) = (itemVars items).map g := by
  rw [itemVars, itemVars, List.filterMap_map, List.map_filterMap]
  congr 1
  funext i
  cases i <;> rfl

theorem Statement.vars_map (s : Statement V) : (s.map g).vars = s.vars.map g := by
  rw [← Statement.itemVars_outline, Statement.outline_map, itemVars_map, Statement.itemVars_outline]

end NestedQuery.Plan
