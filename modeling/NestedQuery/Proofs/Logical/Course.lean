/-
The course of planning: by induction over the syntax, one case for each form of expression and for each clause, planning
takes orderly steps. They declare the locals of what is planned, in order, and make the references of the plan. The rows
of the source of a batch and its pending edits are planned before the mutations that they become part of.
-/
import NestedQuery.Plan.Vars
import NestedQuery.Proofs.Logical.Steps

namespace NestedQuery.Logical

open Plan (Relation)
open Syntax (Alias)

/-! ## Operators added to a block -/

section Operators

variable (rows : Relation Reference)

theorem vars_addFilter (p : Option (Plan.Expr Reference)) :
    (addFilter p rows).vars = rows.vars ++ Plan.varsOption p := by
  cases p with
  | none => exact (List.append_nil _).symm
  | some p => rfl

theorem vars_addOffset (n : Option (Plan.Expr Reference)) :
    (addOffset n rows).vars = rows.vars ++ Plan.varsOption n := by
  cases n with
  | none => exact (List.append_nil _).symm
  | some n => rfl

theorem vars_addLimit (n : Option (Plan.Expr Reference)) :
    (addLimit n rows).vars = rows.vars ++ Plan.varsOption n := by
  cases n with
  | none => exact (List.append_nil _).symm
  | some n => rfl

theorem vars_addSort (keys : List (Plan.SortKey Reference)) :
    (addSort keys rows).vars = rows.vars ++ Plan.varsSortKeys keys := by
  cases keys with
  | nil => exact (List.append_nil _).symm
  | cons key keys => rfl

theorem vars_addLets (bindings : List (Plan.Named Reference)) :
    (addLets bindings rows).vars = rows.vars ++ Plan.varsNamed bindings := by
  cases bindings with
  | nil => exact (List.append_nil _).symm
  | cons binding bindings => rfl

/-- The variables of the keys of a grouping. -/
def groupingVars : Option Grouping → List Reference
  | none => []
  | some g => Plan.varsNamed g.keys

theorem vars_addGroup (grouping : Option Grouping) :
    (addGroup grouping rows).vars = rows.vars ++ groupingVars grouping := by
  cases grouping with
  | none => exact (List.append_nil _).symm
  | some g => rfl

theorem mem_varsNamed_nameAll {r : Reference} : ∀ {exprs : List (Plan.Expr Reference)} {decls : List Declaration},
    r ∈ Plan.varsNamed (nameAll exprs decls) → r ∈ Plan.varsList exprs
  | [], _, h => nomatch h
  | _ :: _, [], h => nomatch h
  | _ :: _, _ :: _, h => (List.mem_append.1 h).elim (List.mem_append_left _)
      fun h => List.mem_append_right _ (mem_varsNamed_nameAll h)

end Operators

/-! ## References generated for a projection -/

/-- The locals that `SELECT *` refers to, each with the frame from which it is looked up. -/
def starPairs (aliases : List SourceAlias) (grouping : Option Grouping) (scope : Nat) : List (Declaration × Nat) :=
  match grouping with
  | some g => g.decls.map fun d => (d, scope)
  | none => aliases.map fun a => (a.decl, a.scope)

theorem varsItems_map {α : Type} {item : α → Plan.ProjectItem Reference} {ref : α → Reference}
    (h : ∀ a rest, Plan.varsItems (item a :: rest) = ref a :: Plan.varsItems rest) :
    ∀ as : List α, Plan.varsItems (as.map item) = as.map ref
  | [] => rfl
  | a :: as => (h a _).trans (congrArg (ref a :: ·) (varsItems_map h as))

theorem vars_star (aliases : List SourceAlias) (grouping : Option Grouping) (scope : Nat) :
    (star aliases grouping scope).vars = (starPairs aliases grouping scope).map fun p => p.1.reference p.2 := by
  cases grouping with
  | none =>
    show Plan.varsItems (aliases.map _) = (aliases.map _).map _
    rw [varsItems_map (fun _ _ => rfl), List.map_map]
    rfl
  | some g =>
    show Plan.varsItems (g.decls.map _) = (g.decls.map _).map _
    rw [varsItems_map (fun _ _ => rfl), List.map_map]
    rfl

/-- The frames of the aliases of a FROM clause are there. -/
def ScopesKnown (s : BuildState) (aliases : List SourceAlias) : Prop := ∀ a ∈ aliases, a.scope < s.scopes.nextFrame

theorem ScopesKnown.mono {s t : BuildState} {aliases : List SourceAlias} (h : ScopesKnown s aliases)
    (hle : s.scopes.nextFrame ≤ t.scopes.nextFrame) : ScopesKnown t aliases :=
  fun a ha => Nat.lt_of_lt_of_le (h a ha) hle

/-- What `SELECT *` refers to is looked up from the frames of the aliases or, under a grouping, from the current one. -/
theorem ScopesKnown.knows {s : BuildState} {aliases : List SourceAlias} (h : ScopesKnown s aliases)
    {grouping : Option Grouping} {r : Reference} (hr : r ∈ (star aliases grouping s.scopes.current).vars) :
    Knows s r.scope := by
  rw [vars_star] at hr
  obtain ⟨p, hp, rfl⟩ := List.mem_map.1 hr
  show Knows s p.2
  unfold starPairs at hp
  cases grouping with
  | none =>
    obtain ⟨a, ha, rfl⟩ := List.mem_map.1 hp
    exact .inr (h a ha)
  | some g =>
    obtain ⟨d, -, rfl⟩ := List.mem_map.1 hp
    exact .inl rfl

/-! ## Expressions and blocks -/

/-- The aliases of a FROM clause are as many as its names. -/
theorem planFrom_length : ∀ (before : Nat) (source : Syntax.FromSource) (s : BuildState),
    ((planFrom before source).run s).1.2.length = (source.names before).length
  | _, .scan ⟨_, _, _, _, _⟩, _ => rfl
  | _, .unpivot ⟨_, _, _, _, _⟩, _ => rfl
  | before, .join _ left right _, s => by
    have hl := planFrom_length before left s
    have hr := planFrom_length (before + ((planFrom before left).run s).1.2.length) right
      ((planFrom before left).run s).2
    show (((planFrom before left).run s).1.2 ++ _).length = (left.names before ++ right.names _).length
    rw [List.length_append, List.length_append, ← hl, ← hr]
    rfl

/-- The frame of an item is there once the locals of the item are declared. -/
theorem nextFrame_lt_item (kind : Scope.FrameKind) (asAlias atAlias byAlias : Option Alias) (name : Identifier)
    (location : Location) (s : BuildState) :
    s.scopes.nextFrame < ((declareOption byAlias).run ((declareOption atAlias).run
      ((declareOr asAlias name location).run { s with scopes := s.scopes.openFrame kind }).2).2).2.scopes.nextFrame :=
  calc
    s.scopes.nextFrame < (s.scopes.openFrame kind).nextFrame := by
      show s.scopes.tree.frames.length < (s.scopes.tree.frames ++ [_]).length
      rw [List.length_append]
      exact Nat.lt_succ_self _
    _ ≤ _ := (OnlyDeclares.declareOr asAlias name location).grows ⟨s.scopes.openFrame kind, s.problems⟩
    _ ≤ _ := (OnlyDeclares.declareOption atAlias).grows _
    _ ≤ _ := (OnlyDeclares.declareOption byAlias).grows _

mutual

theorem planExpr_plans : ∀ (known : List Reference) (role : Role) (e : Syntax.Expr) (s : BuildState),
    Plans known false (planExpr role e) s e.declared ((planExpr role e).run s).1.vars
  | _, _, .lit _, _ => .pure _
  | _, role, .var v, _ => (Plans.reference v role).map
  | _, _, .path root steps, _ => (planExpr_plans _ .expression root _).bind (planSteps_plans _ steps _).map
  | _, _, .unary _ operand, _ => (planExpr_plans _ .expression operand _).map
  | _, _, .binary _ lhs rhs, _ => (planExpr_plans _ .expression lhs _).bind (planExpr_plans _ .expression rhs _).map
  | _, _, .call _ args, _ => (planExprs_plans _ args _).map
  | _, _, .callAgg _ _ arg, _ => (planExpr_plans _ .expression arg _).map
  | _, _, .case operand branches otherwise, _ =>
    ((planOption_plans _ operand _).bind <| (planBranches_plans _ branches _).bind
      (planOption_plans _ otherwise _).map).congr (List.append_assoc ..)
  | _, _, .collection _ values, _ => (planExprs_plans _ values _).map
  | _, _, .struct fields, _ => (planFields_plans _ fields _).map
  | _, _, .cast value _, _ => (planExpr_plans _ .expression value _).map
  | _, _, .select block, _ => (planSelect_plans _ block _).map
  | _, _, .bagOp _ _ left right, _ =>
    (planExpr_plans _ .expression left _).bind (planExpr_plans _ .expression right _).map

theorem planExprs_plans : ∀ (known : List Reference) (es : List Syntax.Expr) (s : BuildState),
    Plans known false (planExprs es) s (Syntax.declaredList es) (Plan.varsList ((planExprs es).run s).1)
  | _, [], _ => .pure _
  | _, e :: es, _ => (planExpr_plans _ .expression e _).bind (planExprs_plans _ es _).map

theorem planOption_plans : ∀ (known : List Reference) (e : Option Syntax.Expr) (s : BuildState),
    Plans known false (planOption e) s (Syntax.declaredOption e) (Plan.varsOption ((planOption e).run s).1)
  | _, none, _ => .pure _
  | _, some e, _ => (planExpr_plans _ .expression e _).map

theorem planSteps_plans : ∀ (known : List Reference) (steps : List Syntax.PathStep) (s : BuildState),
    Plans known false (planSteps steps) s (Syntax.declaredSteps steps) (Plan.varsSteps ((planSteps steps).run s).1)
  | _, [], _ => .pure _
  | _, .field _ :: steps, _ => (planSteps_plans _ steps _).map
  | _, .index key :: steps, _ => (planExpr_plans _ .expression key _).bind (planSteps_plans _ steps _).map
  | _, .wildcard :: steps, _ => (planSteps_plans _ steps _).map
  | _, .unpivot :: steps, _ => (planSteps_plans _ steps _).map

theorem planBranches_plans : ∀ (known : List Reference) (branches : List Syntax.CaseBranch) (s : BuildState),
    Plans known false (planBranches branches) s (Syntax.declaredBranches branches)
      (Plan.varsBranches ((planBranches branches).run s).1)
  | _, [], _ => .pure _
  | _, ⟨condition, result⟩ :: branches, _ =>
    ((planExpr_plans _ .expression condition _).bind <| (planExpr_plans _ .expression result _).bind
      (planBranches_plans _ branches _).map).congr (List.append_assoc ..)

theorem planFields_plans : ∀ (known : List Reference) (fields : List Syntax.StructField) (s : BuildState),
    Plans known false (planFields fields) s (Syntax.declaredFields fields)
      (Plan.varsFields ((planFields fields).run s).1)
  | _, [], _ => .pure _
  | _, ⟨key, value⟩ :: fields, _ =>
    ((planExpr_plans _ .expression key _).bind <| (planExpr_plans _ .expression value _).bind
      (planFields_plans _ fields _).map).congr (List.append_assoc ..)

theorem planSelect_plans : ∀ (known : List Reference) (block : Syntax.Select) (s : BuildState),
    Plans known false (planSelect block) s block.declared ((planSelect block).run s).1.vars
  | _, ⟨_, projection, source, lets, filter, groupBy, having, orderBy, limit, offset⟩, _ => by
    refine .inFrame (by decide) (.of_false ?_)
    refine ((planSource_plans _ source _).bind <| (planLets_plans _ lets _).bind <|
      (planOption_plans _ filter _).bind <| (planGroup_plans _ groupBy _).bind <|
      (planOption_plans _ having _).bind <| (planOrder_plans _ orderBy _).bind <|
      (planOption_plans _ offset _).bind <| (planOption_plans _ limit _).bind <|
      (planProjection_plans _ _ _ projection _ ?_).map).congr ?_
    · -- the clauses after FROM leave the frames of its items where they are
      exact (((((((planSource_known source _).mono (planLets_plans [] lets _).grows).mono
        (planOption_plans [] filter _).grows).mono (planGroup_plans [] groupBy _).grows).mono
        (planOption_plans [] having _).grows).mono (planOrder_plans [] orderBy _).grows).mono
        (planOption_plans [] offset _).grows).mono (planOption_plans [] limit _).grows
    · show (addLimit _ _).vars ++ _ = _
      rw [vars_addLimit, vars_addOffset, vars_addSort, vars_addFilter, vars_addGroup, vars_addFilter, vars_addLets]
      simp only [List.append_assoc]
      rfl

theorem planSource_plans : ∀ (known : List Reference) (source : Option Syntax.FromSource) (s : BuildState),
    Plans known false (planSource source) s (Syntax.declaredSource source) ((planSource source).run s).1.1.vars
  | _, none, _ => .pure _
  | _, some source, _ => planFrom_plans _ 0 source _

theorem planFrom_plans : ∀ (known : List Reference) (before : Nat) (source : Syntax.FromSource) (s : BuildState),
    Plans known false (planFrom before source) s (source.declared before) ((planFrom before source).run s).1.1.vars
  | _, _, .scan ⟨expr, asAlias, atAlias, byAlias, location⟩, _ =>
    ((planExpr_plans _ .fromSource expr _).bind <| .openFrame (by decide) <|
      (OnlyDeclares.declareOr asAlias _ location).plans <| (OnlyDeclares.declareOption atAlias).plans
      (OnlyDeclares.declareOption byAlias).map.done).congr (List.append_nil _).symm
  | _, _, .unpivot ⟨expr, asAlias, atAlias, byAlias, location⟩, _ =>
    ((planExpr_plans _ .fromSource expr _).bind <| .openFrame (by decide) <|
      (OnlyDeclares.declareOr asAlias _ location).plans <| (OnlyDeclares.declareOption atAlias).plans
      (OnlyDeclares.declareOption byAlias).map.done).congr (List.append_nil _).symm
  | _, before, .join _ left right predicate, s => by
    -- the right side counts the aliases of the left, the list of what is declared counts its names
    show Plans _ _ _ _ (left.declared before ++ (right.declared (before + (left.names before).length) ++ _)) _
    rw [← planFrom_length before left s]
    exact ((planFrom_plans _ before left s).bind <| (planFrom_plans _ _ right _).bind
      (planOption_plans _ predicate _).map).congr (List.append_assoc ..)

theorem planSource_known : ∀ (source : Option Syntax.FromSource) (s : BuildState),
    ScopesKnown ((planSource source).run s).2 ((planSource source).run s).1.2
  | none, _ => fun _ h => nomatch h
  | some source, _ => planFrom_known 0 source _

theorem planFrom_known : ∀ (before : Nat) (source : Syntax.FromSource) (s : BuildState),
    ScopesKnown ((planFrom before source).run s).2 ((planFrom before source).run s).1.2
  | _, .scan ⟨expr, asAlias, atAlias, byAlias, location⟩, _ => by
    rintro a (_ | ⟨_, ⟨⟩⟩)
    exact nextFrame_lt_item .fromItem asAlias atAlias byAlias _ location _
  | _, .unpivot ⟨expr, asAlias, atAlias, byAlias, location⟩, _ => by
    rintro a (_ | ⟨_, ⟨⟩⟩)
    exact nextFrame_lt_item .fromItem asAlias atAlias byAlias _ location _
  | before, .join _ left right predicate, s => by
    intro a ha
    have hp := (planOption_plans [] predicate ((planFrom (before + ((planFrom before left).run s).1.2.length) right).run
      ((planFrom before left).run s).2).2).grows
    rcases List.mem_append.1 ha with ha | ha
    · exact ((planFrom_known before left s).mono ((planFrom_plans [] _ right _).grows.trans hp)) a ha
    · exact ((planFrom_known _ right _).mono hp) a ha

theorem planLets_plans : ∀ (known : List Reference) (lets : List Syntax.LetBinding) (s : BuildState),
    Plans known false (planLets lets) s (Syntax.declaredLets lets) (Plan.varsNamed ((planLets lets).run s).1)
  | _, [], _ => .pure _
  | _, ⟨expr, asAlias⟩ :: lets, _ =>
    (planExpr_plans _ .expression expr _).bind <| .openFrame (by decide) <|
      (OnlyDeclares.declareAlias asAlias).plans (planLets_plans _ lets _).map.of_false

theorem planGroup_plans : ∀ (known : List Reference) (groupBy : Option Syntax.GroupBy) (s : BuildState),
    Plans known false (planGroup groupBy) s (Syntax.declaredGroup groupBy) (groupingVars ((planGroup groupBy).run s).1)
  | _, none, _ => .pure _
  | _, some ⟨keys, groupAs⟩, _ => by
    refine Plans.of_mem ((planKeys_plans _ keys _).bind <| .openFrame (by decide) <|
      (OnlyDeclares.declareKeys 1 keys).plans (OnlyDeclares.declareOption groupAs).map.done) fun r hr => ?_
    exact .inr (List.mem_append_left _ (mem_varsNamed_nameAll hr))

theorem planKeys_plans : ∀ (known : List Reference) (keys : List Syntax.GroupKey) (s : BuildState),
    Plans known false (planKeys keys) s (Syntax.declaredKeys keys) (Plan.varsList ((planKeys keys).run s).1)
  | _, [], _ => .pure _
  | _, ⟨expr, _, _⟩ :: keys, _ => (planExpr_plans _ .expression expr _).bind (planKeys_plans _ keys _).map

theorem planOrder_plans : ∀ (known : List Reference) (items : List Syntax.OrderItem) (s : BuildState),
    Plans known false (planOrder items) s (Syntax.declaredOrder items) (Plan.varsSortKeys ((planOrder items).run s).1)
  | _, [], _ => .pure _
  | _, ⟨expr, _, _⟩ :: items, _ => (planExpr_plans _ .expression expr _).bind (planOrder_plans _ items _).map

theorem planProjection_plans : ∀ (known : List Reference) (aliases : List SourceAlias) (grouping : Option Grouping)
    (projection : Syntax.Projection) (s : BuildState), ScopesKnown s aliases →
    Plans known false (planProjection aliases grouping projection) s projection.declared
      ((planProjection aliases grouping projection).run s).1.vars
  | _, aliases, grouping, .star, s, h =>
    .madeHere (.star aliases grouping s.scopes.current) fun _ hr => h.knows hr
  | _, _, _, .list items, _, _ => (planItems_plans _ 1 items _).map
  | _, _, _, .value expr, _, _ => (planExpr_plans _ .expression expr _).map
  | _, _, _, .pivot value key, _, _ =>
    (planExpr_plans _ .expression value _).bind (planExpr_plans _ .expression key _).map

theorem planItems_plans : ∀ (known : List Reference) (ordinal : Nat) (items : List Syntax.SelectItem) (s : BuildState),
    Plans known false (planItems ordinal items) s (Syntax.declaredItems items)
      (Plan.varsItems ((planItems ordinal items).run s).1)
  | _, _, [], _ => .pure _
  | _, ordinal, .expr expr _ :: items, _ =>
    (planExpr_plans _ .expression expr _).bind (planItems_plans _ (ordinal + 1) items _).map
  | _, ordinal, .all expr :: items, _ =>
    (planExpr_plans _ .expression expr _).bind (planItems_plans _ (ordinal + 1) items _).map

end

/-! ## Mutations -/

namespace RowEdit

/-- The variables of the keys and of the value of an edit. -/
def vars (edit : RowEdit) : List Reference := Plan.varsList edit.keys ++ Plan.varsOption edit.value

theorem vars_apply (edit : RowEdit) (row : Plan.Expr Reference) : (edit.apply row).vars = row.vars ++ edit.vars := by
  obtain ⟨root, keys, _ | value⟩ := edit
  · rfl
  · show row.vars ++ (Plan.varsList keys ++ (value.vars ++ [])) = row.vars ++ (Plan.varsList keys ++ value.vars)
    rw [List.append_nil]

theorem vars_foldl : ∀ (edits : List RowEdit) (row : Plan.Expr Reference),
    (edits.foldl (fun row edit => edit.apply row) row).vars = row.vars ++ edits.flatMap vars
  | [], row => (List.append_nil _).symm
  | edit :: edits, row => by
    rw [List.foldl_cons, vars_foldl edits, vars_apply, List.flatMap_cons, List.append_assoc]

end RowEdit

/-- The variables of a mutation in the order of reading. -/
def mutationVars (m : Plan.Mutation Reference) : List Reference := m.target :: m.rows.vars

theorem planRows_plans (known : List Reference) (source : Syntax.MutationSource) (s : BuildState) :
    Plans known false (planRows source) s source.declared ((planRows source).run s).1.rows.vars := by
  have hrow : Alias.mk source.rowVar.name source.rowVar.location =
      source.asAlias.getD ⟨source.target.name, source.target.location⟩ := by
    unfold Syntax.MutationSource.rowVar
    cases source.asAlias <;> rfl
  unfold Syntax.MutationSource.declared
  rw [hrow]
  exact ((Plans.reference source.target .fromSource).bind <| .openFrame (by decide) <|
    (OnlyDeclares.declareOr source.asAlias _ _).plans <| (OnlyDeclares.declareOption source.atAlias).plans <|
    (OnlyDeclares.declareOption source.byAlias).plans (planOption_plans _ source.filter _).map.of_false).congr
    (vars_addFilter _ _)

theorem planRows_known (source : Syntax.MutationSource) (s : BuildState) :
    ((planRows source).run s).1.scope < ((planRows source).run s).2.scopes.nextFrame :=
  Nat.lt_of_lt_of_le (nextFrame_lt_item .dmlSource source.asAlias source.atAlias source.byAlias _ _ s)
    (planOption_plans [] source.filter _).grows

theorem planRowSteps_plans : ∀ (known : List Reference) (steps : List Syntax.RowStep) (s : BuildState),
    Plans known false (planRowSteps steps) s (Syntax.declaredRowSteps steps)
      (Plan.varsList ((planRowSteps steps).run s).1)
  | _, [], _ => .pure _
  | _, .field _ :: steps, _ => (planRowSteps_plans _ steps _).map
  | _, .index key :: steps, _ => (planExpr_plans _ .expression key _).bind (planRowSteps_plans _ steps _).map

/-- The key that the root of a path makes is a constant. -/
theorem varsList_rootKeys (rows : Option MutationRows) (root : Syntax.Var) (keys : List (Plan.Expr Reference)) :
    Plan.varsList (rootKeys rows root ++ keys) = Plan.varsList keys := by
  unfold rootKeys
  split
  · split <;> rfl
  · rfl

theorem planEdit_plans (known : List Reference) (rows : Option MutationRows) (path : Syntax.RowPath)
    (value : Option Syntax.Expr) (s : BuildState) :
    Plans known false (planEdit rows path value) s (Syntax.declaredRowSteps path.steps ++ Syntax.declaredOption value)
      ((planEdit rows path value).run s).1.vars :=
  ((planRowSteps_plans _ path.steps _).bind (planOption_plans _ value _).map).congr
    (congrArg (· ++ _) (varsList_rootKeys rows path.root _))

theorem planAssignments_plans (rows : Option MutationRows) : ∀ (known : List Reference)
    (assignments : List Syntax.Assignment) (s : BuildState),
    Plans known false (planAssignments rows assignments) s (Syntax.declaredAssignments assignments)
      (((planAssignments rows assignments).run s).1.flatMap RowEdit.vars)
  | _, [], _ => .pure _
  | _, ⟨target, value⟩ :: rest, _ =>
    (planEdit_plans _ rows target value _).bind (planAssignments_plans rows _ rest _).map

/-- The frame of the rows is there, and what is read in them was made before. -/
structure RowsKnown (known : List Reference) (s : BuildState) (rows : MutationRows) : Prop where
  scope : rows.scope < s.scopes.nextFrame
  vars : ∀ r ∈ rows.rows.vars, r ∈ known

/-- They stay so, and what is made next may be read as well. -/
theorem RowsKnown.after {α : Type} {known rs : List Reference} {fresh : Bool} {x : Build α} {s : BuildState}
    {as : List Syntax.Alias} {rows : Option MutationRows} (h : ∀ r ∈ rows, RowsKnown known s r)
    (hx : Plans known fresh x s as rs) : ∀ r ∈ rows, RowsKnown (known ++ rs) (x.run s).2 r :=
  fun r hr => ⟨Nat.lt_of_lt_of_le (h r hr).scope hx.grows, fun v hv => List.mem_append_left _ ((h r hr).vars v hv)⟩

section Ops

variable {known : List Reference} {s : BuildState} {rows : Option MutationRows} {edits : List RowEdit}

/-- A mutation reads what was made before and what comes into being with it. -/
theorem mutation_plans {x : Plan.Expr Reference} {made : List Reference} (action : Plan.Action) (target : Syntax.Var)
    (hret : ∀ t, Returns (Plan.Mutation.mk action t x) made) (hm : ∀ r ∈ made, Knows s r.scope)
    (hx : ∀ r ∈ x.vars, r ∈ known ∨ r ∈ made) :
    Plans known false (mutation action target x) s [] (mutationVars ((mutation action target x).run s).1) := by
  refine Plans.of_mem ((Plans.reference target .dmlTarget).bind
    (k := fun r => pure (Plan.Mutation.mk action r x)) (.made (hret _) hm)) fun r hr => ?_
  rcases List.mem_cons.1 hr with rfl | hr
  · exact .inr (List.mem_append_left _ (List.mem_singleton_self _))
  · exact (hx r hr).imp_right (List.mem_append_right _)

/-- A mutation may read nothing but what was made before. -/
theorem mutation_known_plans {x : Plan.Expr Reference} (action : Plan.Action) (target : Syntax.Var)
    (hx : ∀ r ∈ x.vars, r ∈ known) :
    Plans known false (mutation action target x) s [] (mutationVars ((mutation action target x).run s).1) :=
  mutation_plans action target (fun _ => .plain _) (List.forall_mem_nil _) fun r hr => .inl (hx r hr)

/-- A mutation that reads a row of the source makes the variable that holds it. -/
theorem mutation_row_plans {r : MutationRows} {value : Plan.Expr Reference} (action : Plan.Action)
    (target : Syntax.Var) (hr : RowsKnown known s r) (hrow : r.rowDecl.reference r.scope ∈ value.vars)
    (hv : ∀ v ∈ value.vars, v ∈ known ∨ v = r.rowDecl.reference r.scope) :
    Plans known false (mutation action target (r.selectValue value)) s []
      (mutationVars ((mutation action target (r.selectValue value)).run s).1) := by
  refine mutation_plans action target (fun t => .row action t hrow) ?_ fun v hmem => ?_
  · intro v hmem
    rw [List.mem_singleton.1 hmem]
    exact .inr hr.scope
  · rcases List.mem_append.1 hmem with hmem | hmem
    · exact .inl (hr.vars v hmem)
    · exact (hv v hmem).imp_right List.mem_singleton.2

theorem mutation_emptyBag_plans (action : Plan.Action) (target : Syntax.Var) :
    Plans known false (mutation action target .emptyBag) s []
      (mutationVars ((mutation action target .emptyBag).run s).1) :=
  mutation_known_plans action target (List.forall_mem_nil _)

theorem updateEach_plans : ∀ (known : List Reference) (edits : List RowEdit) (s : BuildState),
    Plans known false (updateEach edits) s [] (((updateEach edits).run s).1.flatMap mutationVars)
  | _, [], _ => .pure _
  | _, edit :: edits, _ =>
    (mutation_emptyBag_plans .update edit.root).bind (updateEach_plans _ edits _).map

theorem flush_plans (hr : ∀ r ∈ rows, RowsKnown known s r) (he : ∀ v ∈ edits.flatMap RowEdit.vars, v ∈ known) :
    Plans known false (flush rows edits) s [] (((flush rows edits).run s).1.flatMap mutationVars) := by
  unfold flush
  split
  · exact .pure _
  · cases rows with
    | none => exact updateEach_plans _ edits _
    | some r =>
      have hvars := RowEdit.vars_foldl edits r.row
      refine Plans.congr (mutation_row_plans .update r.target (hr r rfl) ?_ fun v hv => ?_).map (List.append_nil _)
      · rw [hvars]
        exact List.mem_cons_self
      · rw [hvars] at hv
        rcases List.mem_cons.1 hv with rfl | hv
        · exact .inr rfl
        · exact .inl (he v hv)

/-- The rows of a batch come from its source, as far as the places of declarations depend on them. -/
def RowsAt (source : Option Syntax.MutationSource) (rows : Option MutationRows) : Prop :=
  rows.map (·.rowDecl.location) = source.map (·.rowVar.location)

theorem planRowsOption_rowsAt : ∀ (source : Option Syntax.MutationSource) (s : BuildState),
    RowsAt source ((planRowsOption source).run s).1
  | none, _ => rfl
  | some ⟨target, asAlias, _, _, _⟩, s => by
    show some ((declareOr asAlias target.name target.location).run _).1.location = _
    rw [declareOr_location]
    cases asAlias <;> rfl

/-- What is read in the rows of a batch. -/
def rowsVars (rows : Option MutationRows) : List Reference := (rows.map (·.rows.vars)).getD []

theorem planRowsOption_plans (known : List Reference) : ∀ (source : Option Syntax.MutationSource) (s : BuildState),
    Plans known false (planRowsOption source) s ((source.map Syntax.MutationSource.declared).getD [])
      (rowsVars ((planRowsOption source).run s).1)
  | none, _ => .pure _
  | some source, s => (planRows_plans known source s).map

theorem planRowsOption_known (known : List Reference) : ∀ (source : Option Syntax.MutationSource) (s : BuildState),
    ∀ r ∈ ((planRowsOption source).run s).1,
      RowsKnown (known ++ rowsVars ((planRowsOption source).run s).1) ((planRowsOption source).run s).2 r
  | none, _, _, h => nomatch h
  | some source, s, _, h => by
    cases h
    exact ⟨planRows_known source s, fun _ hr => List.mem_append_right _ hr⟩

variable {source : Option Syntax.MutationSource}

/-- A local is declared and referred to. -/
theorem declare_made_plans {α : Type} {k : Declaration → Nat → α} (a : Syntax.Alias)
    (hk : ∀ d scope, Returns (k d scope) [d.reference scope]) :
    Plans known true (declareAlias a >>= fun d => currentScope >>= fun scope => pure (k d scope)) s [a]
      [((declareAlias a).run s).1.reference ((declareAlias a).run s).2.scopes.current] := by
  refine (OnlyDeclares.declareAlias a).plans (.madeHere (hk _ _) fun r hr => ?_)
  rw [List.mem_singleton.1 hr]
  exact .inl rfl

theorem planInserted_plans (hrows : RowsAt source rows) (hr : ∀ r ∈ rows, RowsKnown known s r) (values : Syntax.Expr) :
    Plans known false (planInserted rows values) s (values.declared ++ Syntax.insertedAlias source values)
      ((planInserted rows values).run s).1.vars := by
  rcases source with _ | m <;> rcases rows with _ | r
  · exact (List.append_nil values.declared).symm ▸ planExpr_plans _ .expression values _
  · cases hrows
  · cases hrows
  · have hl : r.rowDecl.location = m.rowVar.location := Option.some.inj hrows
    show Plans _ _ (insertPerRow r values) _ (values.declared ++ [⟨_, values.firstVar?.getD m.rowVar.location⟩]) _
    rw [← hl]
    refine Plans.of_mem ((planExpr_plans _ .expression values _).bind <| .inFrame (by decide) <|
      declare_made_plans ⟨_, _⟩ fun d scope => .inserted _ d scope) fun v hv => ?_
    have hv : v ∈ ((r.rows.vars ++ ((planExpr .expression values).run s).1.vars) ++ []) ++ [_] := hv
    rw [List.append_nil, List.append_assoc, List.mem_append] at hv
    exact hv.imp_left ((hr r rfl).vars v)

theorem insertedValue_plans {value : Plan.Expr Reference} (action : Plan.Action) (target : Syntax.Var)
    (hr : ∀ r ∈ rows, RowsKnown known s r) (hv : ∀ v ∈ value.vars, v ∈ known) :
    Plans known false (mutation action target (insertedValue rows value)) s []
      (mutationVars ((mutation action target (insertedValue rows value)).run s).1) := by
  refine mutation_known_plans action target fun v hmem => ?_
  cases rows with
  | none => exact hv v (List.append_nil value.vars ▸ hmem)
  | some r => exact (List.mem_append.1 hmem).elim ((hr r rfl).vars v) (hv v)

/-- A mutation is planned and then the rest of the batch, which starts without edits. -/
theorem rest_plans {α : Type} {d : Build (Plan.Mutation Reference)} {as : List Syntax.Alias}
    {ops : List Syntax.MutationOp} {k : Plan.Mutation Reference → List (Plan.Mutation Reference) → α}
    (ih : ∀ known s, (∀ r ∈ rows, RowsKnown known s r) →
      Plans known false (planOps rows [] ops) s as (((planOps rows [] ops).run s).1.flatMap mutationVars))
    (hr : ∀ r ∈ rows, RowsKnown known s r) (hd : Plans known false d s [] (mutationVars (d.run s).1)) :
    Plans known false (d >>= fun m => planOps rows [] ops >>= fun rest => pure (k m rest)) s as
      (mutationVars (d.run s).1 ++ ((planOps rows [] ops).run (d.run s).2).1.flatMap mutationVars) :=
  hd.bind (ih _ _ (.after hr hd)).map

/-- The variables of a batch, of which one mutation reads what was made right before it. -/
theorem mem_of_mem_batch {updates rest : List (Plan.Mutation Reference)} {m : Plan.Mutation Reference} {v : Reference}
    (made : List Reference) (h : v ∈ (updates ++ m :: rest).flatMap mutationVars) :
    v ∈ updates.flatMap mutationVars ++ (made ++ (mutationVars m ++ rest.flatMap mutationVars)) := by
  rw [List.flatMap_append, List.mem_append] at h
  exact List.mem_append.2 (h.imp_right (List.mem_append_right _))

theorem planOps_plans (hrows : RowsAt source rows) : ∀ (known : List Reference) (edits : List RowEdit)
    (ops : List Syntax.MutationOp) (s : BuildState), (∀ r ∈ rows, RowsKnown known s r) →
    (∀ v ∈ edits.flatMap RowEdit.vars, v ∈ known) →
    Plans known false (planOps rows edits ops) s (ops.flatMap (Syntax.MutationOp.declared source))
      (((planOps rows edits ops).run s).1.flatMap mutationVars)
  | _, edits, [], _, hr, he => flush_plans hr he
  | known, edits, .set assignments :: ops, s, hr, he => by
    have ha := planAssignments_plans rows known assignments s
    refine (ha.bind (planOps_plans hrows _ _ ops _ (.after hr ha) fun v hv => ?_)).of_mem
      fun v hv => .inr (List.mem_append_right _ hv)
    rw [List.flatMap_append] at hv
    exact (List.mem_append.1 hv).elim (fun hv => List.mem_append_left _ (he v hv)) (List.mem_append_right _)
  | known, edits, .remove path :: ops, s, hr, he => by
    have ih := fun known s hr => planOps_plans hrows known [] ops s hr (List.forall_mem_nil _)
    have hedit : Plans known false (planEdit rows path none >>= fun edit => planOps rows (edits ++ [edit]) ops) s
        (Syntax.declaredRowSteps path.steps ++ ops.flatMap (Syntax.MutationOp.declared source))
        (((planEdit rows path none >>= fun edit => planOps rows (edits ++ [edit]) ops).run s).1.flatMap
          mutationVars) := by
      have hp := planEdit_plans known rows path none s
      rw [show Syntax.declaredOption none = [] from rfl, List.append_nil] at hp
      refine (hp.bind (planOps_plans hrows _ _ ops _ (.after hr hp) fun v hv => ?_)).of_mem
        fun v hv => .inr (List.mem_append_right _ hv)
      rw [List.flatMap_append, List.flatMap_singleton] at hv
      exact (List.mem_append.1 hv).elim (fun hv => List.mem_append_left _ (he v hv)) (List.mem_append_right _)
    -- a path without steps declares nothing, so a deletion declares what an edit would
    have hdelete {d : Build (Plan.Mutation Reference)} (hempty : path.steps.isEmpty = true)
        (hd : ∀ known s, (∀ r ∈ rows, RowsKnown known s r) → Plans known false d s [] (mutationVars (d.run s).1)) :
        Plans known false (do
            let updates ← flush rows edits
            let deletion ← d
            let rest ← planOps rows [] ops
            return updates ++ deletion :: rest) s
          (Syntax.declaredRowSteps path.steps ++ ops.flatMap (Syntax.MutationOp.declared source))
          (((do
            let updates ← flush rows edits
            let deletion ← d
            let rest ← planOps rows [] ops
            return updates ++ deletion :: rest : Build _).run s).1.flatMap mutationVars) := by
      rw [List.isEmpty_iff.1 hempty]
      have hf := flush_plans hr he
      have hr := RowsKnown.after hr hf
      exact (hf.bind <| rest_plans ih hr (hd _ _ hr)).congr List.flatMap_append
    show Plans _ _ _ _ (Syntax.declaredRowSteps path.steps ++ _) _
    unfold planOps
    split
    · next hempty =>
      cases rows with
      | none => exact hdelete hempty fun _ _ _ => mutation_emptyBag_plans .delete path.root
      | some r =>
        dsimp only
        split
        · exact hdelete hempty fun _ _ hr => mutation_row_plans .delete r.target (hr r rfl)
            (List.mem_singleton_self _) fun _ hv => .inr (List.mem_singleton.1 hv)
        · exact hedit
    · exact hedit
  | known, edits, .insert target values :: ops, s, hr, he => by
    have ih := fun known s hr => planOps_plans hrows known [] ops s hr (List.forall_mem_nil _)
    have hf := flush_plans hr he
    have hr := RowsKnown.after hr hf
    have hi := planInserted_plans hrows hr values
    refine (hf.bind <| hi.bind <| rest_plans ih (.after hr hi) <| mutation_known_plans .insert target
      fun _ hv => ?_).of_mem fun _ hv => .inr (mem_of_mem_batch _ hv)
    exact List.mem_append_right _ hv
  | known, edits, .insertValue target value onConflict :: ops, s, hr, he => by
    have ih := fun known s hr => planOps_plans hrows known [] ops s hr (List.forall_mem_nil _)
    have hf := flush_plans hr he
    have hr := RowsKnown.after hr hf
    have hi := planExpr_plans (known ++ ((flush rows edits).run s).1.flatMap mutationVars) .expression value
      ((flush rows edits).run s).2
    have hr := RowsKnown.after hr hi
    refine (hf.bind <| hi.bind <| rest_plans ih hr <| insertedValue_plans (conflictAction onConflict) target hr
      fun _ hv => ?_).of_mem fun _ hv => .inr (mem_of_mem_batch _ hv)
    exact List.mem_append_right _ hv

end Ops

/-! ## Statements -/

/-- Planning a statement takes orderly steps that declare its aliases and make all of its references. -/
theorem planStatement_plans : ∀ (stmt : Syntax.Statement) (s : BuildState),
    Plans [] false (planStatement stmt) s stmt.declared ((planStatement stmt).run s).1.vars
  | .query expr, _ => (planExpr_plans _ .expression expr _).map
  | .dml m, _ => Plans.map <| .inFrame (by decide) <| Plans.of_false <| Plans.of_mem
    ((planRowsOption_plans [] m.source _).bind (planOps_plans (planRowsOption_rowsAt m.source _) _ [] m.operations _
      (planRowsOption_known [] m.source _) (List.forall_mem_nil _))) fun _ hv => .inr (List.mem_append_right _ hv)
  | .exec _ args, _ => (planExprs_plans _ args _).map

theorem planStatement_declares (stmt : Syntax.Statement) : Declares stmt.declared (planStatement stmt) :=
  fun s => (planStatement_plans stmt s).declares

/-- Building a plan reports nothing but repetitions. -/
theorem build_isRepetition (s : Syntax.Statement) : ∀ p ∈ (LogicalPlan.build s).2, IsRepetition p :=
  (planStatement_declares s .start).isRepetition (List.forall_mem_nil _)

end NestedQuery.Logical
