/-
Planning does not depend on the place. What is planned inside of a statement is what would be planned on its own, put
where it stands: frames and declarations are numbered on from those that are there, the root frame becomes the frame
that is current, and the problems are the same. `Embeds` says so of a part of planning; it is kept by sequencing, and
it needs the frame of a declaration to be one that planning itself has opened.
-/
import NestedQuery.Proofs.Logical.Steps
import NestedQuery.Proofs.Plan.Embedding
import NestedQuery.Syntax.Compose

namespace NestedQuery.Logical

open Plan (Relation)
open Scope (Embedding FrameKind)

/-- The state `s` once `t`, which was recorded on its own, is put into its current frame. -/
def BuildState.embed (s t : BuildState) : BuildState := ⟨s.scopes.embed t.scopes, s.problems ++ t.problems⟩

/-- What `x` does on its own, with at least `depth` frames open besides the root frame, `y` does inside of `s`, where
some frame is open, and the results are the same up to `f`. Frames are opened but, if the step `closes`, all closed
again. -/
def Embeds {α β : Type} (s : BuildState) (depth : Nat) (closes : Bool) (f : α → β) (x : Build α) (y : Build β) : Prop :=
  s.scopes.stack ≠ [] → ∀ t inner, t.scopes.Rooted inner → depth ≤ inner.length →
    y.run (s.embed t) = (f (x.run t).1, s.embed (x.run t).2) ∧
      ∃ opened, (x.run t).2.scopes.Rooted (opened ++ inner) ∧ (closes = true → opened = [])

theorem embed_openFrame {s t : BuildState} {inner : List Nat} (h : t.scopes.Rooted inner) (kind : FrameKind) :
    ⟨(s.embed t).scopes.openFrame kind, (s.embed t).problems⟩ = s.embed ⟨t.scopes.openFrame kind, t.problems⟩ :=
  congrArg (BuildState.mk · _) (Scope.Recorder.embed_openFrame h kind).symm

theorem inFrame_run_eq {α : Type} (kind : FrameKind) (x : Build α) (t : BuildState) :
    (inFrame kind x).run t =
      ((x.run ⟨t.scopes.openFrame kind, t.problems⟩).1,
        ⟨(x.run ⟨t.scopes.openFrame kind, t.problems⟩).2.scopes.closeTo t.scopes.depth,
          (x.run ⟨t.scopes.openFrame kind, t.problems⟩).2.problems⟩) := rfl

namespace Embeds

variable {α β γ δ : Type} {s : BuildState} {d : Nat} {c c' : Bool} {f : α → β} {g : γ → δ} {x : Build α} {y : Build β}

theorem pure {a : α} {b : β} (h : b = f a) : Embeds s d c f (Pure.pure a) (Pure.pure b) := by
  intro _ t inner ht _
  subst h
  exact ⟨rfl, [], ht, fun _ => rfl⟩

theorem bind {k : α → Build γ} {l : β → Build δ} (hx : Embeds s d c f x y) (hk : ∀ a, Embeds s d c' g (k a) (l (f a))) :
    Embeds s d (c && c') g (x >>= k) (y >>= l) := by
  intro hs t inner ht hd
  obtain ⟨h1, opened, hr, hc⟩ := hx hs t inner ht hd
  obtain ⟨h2, opened', hr', hc'⟩ := hk (x.run t).1 hs (x.run t).2 _ hr (by rw [List.length_append]; omega)
  refine ⟨?_, opened' ++ opened, ?_, ?_⟩
  · show (l (y.run (s.embed t)).1).run (y.run (s.embed t)).2 = _
    rw [h1]
    exact h2
  · rw [List.append_assoc]
    exact hr'
  · intro h
    rw [Bool.and_eq_true] at h
    rw [hc h.1, hc' h.2, List.append_nil]

theorem map {k : α → γ} {l : β → δ} (hx : Embeds s d c f x y) (hk : ∀ a, l (f a) = g (k a)) :
    Embeds s d c g (x >>= fun a => Pure.pure (k a)) (y >>= fun b => Pure.pure (l b)) := by
  have h : Embeds s d (c && true) g (x >>= fun a => Pure.pure (k a)) (y >>= fun b => Pure.pure (l b)) :=
    hx.bind fun a => .pure (hk a)
  rwa [Bool.and_true] at h

theorem deeper (h : Embeds s 0 c f x y) : Embeds s d c f x y := fun hs t inner ht _ => h hs t inner ht (Nat.zero_le _)

theorem currentScope : Embeds s d c s.scopes.embedding.frame currentScope currentScope :=
  fun _ _ _ ht _ => ⟨Prod.ext (Scope.Recorder.embed_current ht) rfl, [], ht, fun _ => rfl⟩

theorem reference (v : Syntax.Var) (role : Role) :
    Embeds s d c (Reference.embed s.scopes.embedding) (reference v role) (reference v role) :=
  currentScope.map fun _ => rfl

theorem openFrame (kind : FrameKind) {k : Nat → Build γ} {l : Nat → Build δ}
    (hk : ∀ i, Embeds s 1 c g (k i) (l (s.scopes.embedding.frame i))) :
    Embeds s d false g (openFrame kind >>= k) (Logical.openFrame kind >>= l) := by
  intro hs t inner ht _
  obtain ⟨h, opened, hr, -⟩ := hk t.scopes.nextFrame hs ⟨t.scopes.openFrame kind, t.problems⟩ _ (ht.openFrame kind)
    (Nat.le_add_left 1 inner.length)
  rw [← embed_openFrame ht, ← Scope.Recorder.embed_nextFrame ht] at h
  refine ⟨h, opened ++ [t.scopes.nextFrame], ?_, fun h => nomatch h⟩
  rw [List.append_assoc]
  exact hr

theorem inFrame (kind : FrameKind) (h : Embeds s 1 c f x y) :
    Embeds s d true f (inFrame kind x) (Logical.inFrame kind y) := by
  intro hs t inner ht _
  obtain ⟨h, opened, hr, -⟩ := h hs ⟨t.scopes.openFrame kind, t.problems⟩ _ (ht.openFrame kind)
    (Nat.le_add_left 1 inner.length)
  -- the frame opened here is closed together with all that were opened in it
  rw [List.append_cons] at hr
  obtain ⟨hc, ht'⟩ := Scope.Recorder.embed_closeTo hs ht hr
  rw [← embed_openFrame ht] at h
  refine ⟨?_, [], ht', fun _ => rfl⟩
  rw [inFrame_run_eq, inFrame_run_eq, h]
  exact Prod.ext rfl (congrArg (BuildState.mk · _) hc.symm)

theorem declare (name : Identifier) (location : Location) :
    Embeds s 1 true (Declaration.embed s.scopes.embedding) (declare name location) (declare name location) := by
  intro _ t inner ht hi
  have hi : inner ≠ [] := List.ne_nil_of_length_pos hi
  refine ⟨?_, [], ?_, fun _ => rfl⟩
  · rw [declare_run_eq, declare_run_eq]
    show (Declaration.mk _ (s.scopes.embed t.scopes).nextLocal _, BuildState.mk ((s.scopes.embed t.scopes).declare name)
      (s.problems ++ t.problems ++ if (s.scopes.embed t.scopes).currentLocals.any _ then _ else _)) = _
    rw [Scope.Recorder.embed_nextLocal, Scope.Recorder.currentLocals_embed ht hi,
      ← Scope.Recorder.embed_declare ht hi, List.any_map, List.append_assoc]
    rfl
  · rw [declare_run_eq]
    exact ht.declare name

theorem declareOption : ∀ a : Option Syntax.Alias,
    Embeds s 1 true (Option.map (Declaration.embed s.scopes.embedding)) (declareOption a) (declareOption a)
  | none => .pure rfl
  | some a => (declare a.name a.location).map fun _ => rfl

theorem declareOr (a : Option Syntax.Alias) (name : Identifier) (location : Location) :
    Embeds s 1 true (Declaration.embed s.scopes.embedding) (declareOr a name location) (declareOr a name location) := by
  cases a with
  | none => exact declare name location
  | some a => exact declare a.name a.location

theorem declareKeys : ∀ (ordinal : Nat) (keys : List Syntax.GroupKey),
    Embeds s 1 true (List.map (Declaration.embed s.scopes.embedding)) (declareKeys ordinal keys)
      (declareKeys ordinal keys)
  | _, [] => .pure rfl
  | ordinal, key :: keys =>
    (declareOr key.asAlias _ _).bind fun _ => (declareKeys (ordinal + 1) keys).map fun _ => rfl

end Embeds

/-! ## Operators added to a block -/

def SourceAlias.embed (e : Embedding) (a : SourceAlias) : SourceAlias := ⟨a.decl.embed e, e.frame a.scope⟩

def Grouping.embed (e : Embedding) (g : Grouping) : Grouping :=
  ⟨Plan.embedNamed e g.keys, g.groupAs.map (Declaration.embed e)⟩

section Operators

variable (e : Embedding) (rows : Relation Reference)

theorem embed_addFilter (p : Option (Plan.Expr Reference)) :
    (addFilter p rows).embed e = addFilter (Plan.embedOption e p) (rows.embed e) := by cases p <;> rfl

theorem embed_addOffset (n : Option (Plan.Expr Reference)) :
    (addOffset n rows).embed e = addOffset (Plan.embedOption e n) (rows.embed e) := by cases n <;> rfl

theorem embed_addLimit (n : Option (Plan.Expr Reference)) :
    (addLimit n rows).embed e = addLimit (Plan.embedOption e n) (rows.embed e) := by cases n <;> rfl

theorem embed_addSort : ∀ keys : List (Plan.SortKey Reference),
    (addSort keys rows).embed e = addSort (Plan.embedSortKeys e keys) (rows.embed e)
  | [] => rfl
  | ⟨_, _, _⟩ :: _ => rfl

theorem embed_addLets : ∀ bindings : List (Plan.Named Reference),
    (addLets bindings rows).embed e = addLets (Plan.embedNamed e bindings) (rows.embed e)
  | [] => rfl
  | ⟨_, _⟩ :: _ => rfl

theorem embed_addGroup (grouping : Option Grouping) :
    (addGroup grouping rows).embed e = addGroup (grouping.map (Grouping.embed e)) (rows.embed e) := by
  cases grouping <;> rfl

theorem embed_nameAll : ∀ (exprs : List (Plan.Expr Reference)) (decls : List Declaration),
    Plan.embedNamed e (nameAll exprs decls) = nameAll (Plan.embedList e exprs) (decls.map (Declaration.embed e))
  | [], _ => rfl
  | _ :: _, [] => rfl
  | x :: exprs, d :: decls => congrArg (Plan.Named.mk (x.embed e) (d.embed e) :: ·) (embed_nameAll exprs decls)

theorem Grouping.decls_embed (g : Grouping) : (g.embed e).decls = g.decls.map (Declaration.embed e) := by
  simp only [Grouping.decls, Grouping.embed, Plan.embedNamed, Plan.mapDeclsNamed_decl, Plan.mapNamed_decl,
    List.map_append, Option.toList_map]

theorem embedItems_map {α : Type} {item item' : α → Plan.ProjectItem Reference}
    (h : ∀ a rest, Plan.embedItems e (item a :: rest) = item' a :: Plan.embedItems e rest) :
    ∀ as : List α, Plan.embedItems e (as.map item) = as.map item'
  | [] => rfl
  | a :: as => (h a _).trans (congrArg (item' a :: ·) (embedItems_map h as))

theorem embed_star (aliases : List SourceAlias) (grouping : Option Grouping) (scope : Nat) :
    (star aliases grouping scope).embed e =
      star (aliases.map (SourceAlias.embed e)) (grouping.map (Grouping.embed e)) (e.frame scope) := by
  cases grouping with
  | none =>
    show Plan.Projection.struct (Plan.embedItems e _) = .struct (List.map _ (aliases.map _))
    rw [embedItems_map e (fun _ _ => rfl), List.map_map]
    rfl
  | some g =>
    show Plan.Projection.struct (Plan.embedItems e _) = .struct (List.map _ (g.embed e).decls)
    rw [embedItems_map e (fun _ _ => rfl), Grouping.decls_embed, List.map_map]
    rfl

end Operators

/-! ## Expressions and blocks -/

section

variable {s : BuildState}

mutual

theorem planExpr_embeds : ∀ (role : Role) (e : Syntax.Expr),
    Embeds s 0 true (Plan.Expr.embed s.scopes.embedding) (planExpr role e) (planExpr role e)
  | _, .lit _ => .pure rfl
  | role, .var v => (Embeds.reference v role).map fun _ => rfl
  | _, .path root steps => (planExpr_embeds .expression root).bind fun _ => (planSteps_embeds steps).map fun _ => rfl
  | _, .unary _ operand => (planExpr_embeds .expression operand).map fun _ => rfl
  | _, .binary _ lhs rhs =>
    (planExpr_embeds .expression lhs).bind fun _ => (planExpr_embeds .expression rhs).map fun _ => rfl
  | _, .call _ args => (planExprs_embeds args).map fun _ => rfl
  | _, .callAgg _ _ arg => (planExpr_embeds .expression arg).map fun _ => rfl
  | _, .case operand branches otherwise =>
    (planOption_embeds operand).bind fun _ => (planBranches_embeds branches).bind fun _ =>
      (planOption_embeds otherwise).map fun _ => rfl
  | _, .collection _ values => (planExprs_embeds values).map fun _ => rfl
  | _, .struct fields => (planFields_embeds fields).map fun _ => rfl
  | _, .cast value _ => (planExpr_embeds .expression value).map fun _ => rfl
  | _, .select block => (planSelect_embeds block).map fun _ => rfl
  | _, .bagOp _ _ left right =>
    (planExpr_embeds .expression left).bind fun _ => (planExpr_embeds .expression right).map fun _ => rfl

theorem planExprs_embeds : ∀ es : List Syntax.Expr,
    Embeds s 0 true (Plan.embedList s.scopes.embedding) (planExprs es) (planExprs es)
  | [] => .pure rfl
  | e :: es => (planExpr_embeds .expression e).bind fun _ => (planExprs_embeds es).map fun _ => rfl

theorem planOption_embeds : ∀ e : Option Syntax.Expr,
    Embeds s 0 true (Plan.embedOption s.scopes.embedding) (planOption e) (planOption e)
  | none => .pure rfl
  | some e => (planExpr_embeds .expression e).map fun _ => rfl

theorem planSteps_embeds : ∀ steps : List Syntax.PathStep,
    Embeds s 0 true (Plan.embedSteps s.scopes.embedding) (planSteps steps) (planSteps steps)
  | [] => .pure rfl
  | .field _ :: steps => (planSteps_embeds steps).map fun _ => rfl
  | .index key :: steps => (planExpr_embeds .expression key).bind fun _ => (planSteps_embeds steps).map fun _ => rfl
  | .wildcard :: steps => (planSteps_embeds steps).map fun _ => rfl
  | .unpivot :: steps => (planSteps_embeds steps).map fun _ => rfl

theorem planBranches_embeds : ∀ branches : List Syntax.CaseBranch,
    Embeds s 0 true (Plan.embedBranches s.scopes.embedding) (planBranches branches) (planBranches branches)
  | [] => .pure rfl
  | ⟨condition, result⟩ :: branches =>
    (planExpr_embeds .expression condition).bind fun _ => (planExpr_embeds .expression result).bind fun _ =>
      (planBranches_embeds branches).map fun _ => rfl

theorem planFields_embeds : ∀ fields : List Syntax.StructField,
    Embeds s 0 true (Plan.embedFields s.scopes.embedding) (planFields fields) (planFields fields)
  | [] => .pure rfl
  | ⟨key, value⟩ :: fields =>
    (planExpr_embeds .expression key).bind fun _ => (planExpr_embeds .expression value).bind fun _ =>
      (planFields_embeds fields).map fun _ => rfl

theorem planSelect_embeds : ∀ block : Syntax.Select,
    Embeds s 0 true (Relation.embed s.scopes.embedding) (planSelect block) (planSelect block)
  | ⟨_, projection, source, lets, filter, groupBy, having, orderBy, limit, offset⟩ =>
    .inFrame .query <| .deeper <| (planSource_embeds source).bind fun ⟨_, aliases⟩ =>
      (planLets_embeds lets).bind fun _ => (planOption_embeds filter).bind fun _ =>
      (planGroup_embeds groupBy).bind fun grouping => (planOption_embeds having).bind fun _ =>
      (planOrder_embeds orderBy).bind fun _ => (planOption_embeds offset).bind fun _ =>
      (planOption_embeds limit).bind fun _ => (planProjection_embeds aliases grouping projection).map fun _ => by
        -- the operators stand around the rows one by one, and the embedding goes through each of them
        show Relation.of _ = Relation.of (.project (Relation.embed _ _) _ _)
        rw [embed_addLimit, embed_addOffset, embed_addSort, embed_addFilter, embed_addGroup, embed_addFilter,
          embed_addLets]
        rfl

theorem planSource_embeds : ∀ source : Option Syntax.FromSource,
    Embeds s 0 false (Prod.map (Relation.embed s.scopes.embedding) (List.map (SourceAlias.embed s.scopes.embedding)))
      (planSource source) (planSource source)
  | none => .pure rfl
  | some source => planFrom_embeds 0 source

theorem planFrom_embeds : ∀ (before : Nat) (source : Syntax.FromSource),
    Embeds s 0 false (Prod.map (Relation.embed s.scopes.embedding) (List.map (SourceAlias.embed s.scopes.embedding)))
      (planFrom before source) (planFrom before source)
  | _, .scan ⟨expr, asAlias, atAlias, byAlias, location⟩ =>
    (planExpr_embeds .fromSource expr).bind fun _ => .openFrame .fromItem fun _ =>
      (Embeds.declareOr asAlias _ location).bind fun _ => (Embeds.declareOption atAlias).bind fun _ =>
      (Embeds.declareOption byAlias).map fun _ => rfl
  | _, .unpivot ⟨expr, asAlias, atAlias, byAlias, location⟩ =>
    (planExpr_embeds .fromSource expr).bind fun _ => .openFrame .fromItem fun _ =>
      (Embeds.declareOr asAlias _ location).bind fun _ => (Embeds.declareOption atAlias).bind fun _ =>
      (Embeds.declareOption byAlias).map fun _ => rfl
  | before, .join _ left right predicate =>
    (planFrom_embeds before left).bind fun ⟨_, leftAliases⟩ => by
      -- the names made up on the right go by the number of aliases on the left, which is the same in both
      have hl : (leftAliases.map (SourceAlias.embed s.scopes.embedding)).length = leftAliases.length :=
        List.length_map _
      show Embeds _ _ _ _ _ (planFrom (before + (leftAliases.map _).length) right >>= _)
      rw [hl]
      exact (planFrom_embeds (before + leftAliases.length) right).bind fun ⟨_, rightAliases⟩ =>
        (planOption_embeds predicate).map fun _ => Prod.ext rfl List.map_append.symm

theorem planLets_embeds : ∀ lets : List Syntax.LetBinding,
    Embeds s 0 false (Plan.embedNamed s.scopes.embedding) (planLets lets) (planLets lets)
  | [] => .pure rfl
  | ⟨expr, asAlias⟩ :: lets =>
    (planExpr_embeds .expression expr).bind fun _ => .openFrame .letBinding fun _ =>
      (Embeds.declare asAlias.name asAlias.location).bind fun _ => ((planLets_embeds lets).map fun _ => rfl).deeper

theorem planGroup_embeds : ∀ groupBy : Option Syntax.GroupBy,
    Embeds s 0 false (Option.map (Grouping.embed s.scopes.embedding)) (planGroup groupBy) (planGroup groupBy)
  | none => .pure rfl
  | some ⟨keys, groupAs⟩ =>
    (planKeys_embeds keys).bind fun exprs => .openFrame .groupBy fun _ =>
      (Embeds.declareKeys 1 keys).bind fun decls => (Embeds.declareOption groupAs).map fun groupAs => by
        show some (Grouping.mk _ _) = some (Grouping.mk _ _)
        rw [embed_nameAll]

theorem planKeys_embeds : ∀ keys : List Syntax.GroupKey,
    Embeds s 0 true (Plan.embedList s.scopes.embedding) (planKeys keys) (planKeys keys)
  | [] => .pure rfl
  | ⟨expr, _, _⟩ :: keys => (planExpr_embeds .expression expr).bind fun _ => (planKeys_embeds keys).map fun _ => rfl

theorem planOrder_embeds : ∀ items : List Syntax.OrderItem,
    Embeds s 0 true (Plan.embedSortKeys s.scopes.embedding) (planOrder items) (planOrder items)
  | [] => .pure rfl
  | ⟨expr, _, _⟩ :: items => (planExpr_embeds .expression expr).bind fun _ => (planOrder_embeds items).map fun _ => rfl

theorem planProjection_embeds (aliases : List SourceAlias) (grouping : Option Grouping) : ∀ p : Syntax.Projection,
    Embeds s 0 true (Plan.Projection.embed s.scopes.embedding) (planProjection aliases grouping p)
      (planProjection (aliases.map (SourceAlias.embed s.scopes.embedding))
        (grouping.map (Grouping.embed s.scopes.embedding)) p)
  | .star => Embeds.currentScope.map fun scope => (embed_star _ aliases grouping scope).symm
  | .list items => (planItems_embeds 1 items).map fun _ => rfl
  | .value expr => (planExpr_embeds .expression expr).map fun _ => rfl
  | .pivot value key =>
    (planExpr_embeds .expression value).bind fun _ => (planExpr_embeds .expression key).map fun _ => rfl

theorem planItems_embeds : ∀ (ordinal : Nat) (items : List Syntax.SelectItem),
    Embeds s 0 true (Plan.embedItems s.scopes.embedding) (planItems ordinal items) (planItems ordinal items)
  | _, [] => .pure rfl
  | ordinal, .expr expr _ :: items =>
    (planExpr_embeds .expression expr).bind fun _ => (planItems_embeds (ordinal + 1) items).map fun _ => rfl
  | ordinal, .all expr :: items =>
    (planExpr_embeds .expression expr).bind fun _ => (planItems_embeds (ordinal + 1) items).map fun _ => rfl

end

end

/-! ## An expression in its place -/

/-- What a run from `s` does beside the same run `alone` from the start: the result, frames, locals and problems are
those of `alone`, put into the current frame of `s`, and the open frames are those of `s`. -/
structure Placed (s : BuildState) (alone here : Plan.Expr Reference × BuildState) : Prop where
  result : here.1 = alone.1.embed ⟨s.scopes.tree.frames.length, s.scopes.locals.length, s.scopes.current⟩
  stack : here.2.scopes.stack = s.scopes.stack
  frames : here.2.scopes.tree.frames = s.scopes.tree.frames ++ alone.2.scopes.tree.frames.tail.map
    (Scope.Frame.embed ⟨s.scopes.tree.frames.length, s.scopes.locals.length, s.scopes.current⟩)
  locals : here.2.scopes.locals = s.scopes.locals ++ alone.2.scopes.locals.map
    (Local.embed ⟨s.scopes.tree.frames.length, s.scopes.locals.length, s.scopes.current⟩)
  problems : here.2.problems = s.problems ++ alone.2.problems

theorem BuildState.embed_start (s : BuildState) : s.embed .start = s := by
  obtain ⟨scopes, problems⟩ := s
  exact congrArg₂ BuildState.mk scopes.embed_start (List.append_nil _)

/-- Where frames are open, an expression is planned as it is from the start, and the same frames stay open. -/
theorem planExpr_run {s : BuildState} (hs : s.scopes.stack ≠ []) (role : Role) (e : Syntax.Expr) :
    (planExpr role e).run s =
        (((planExpr role e).run .start).1.embed s.scopes.embedding, s.embed ((planExpr role e).run .start).2) ∧
      (s.embed ((planExpr role e).run .start).2).scopes.stack = s.scopes.stack := by
  have hrooted : BuildState.start.scopes.Rooted [] := Scope.Recorder.rooted_start
  obtain ⟨h, opened, hr, hc⟩ := planExpr_embeds role e hs .start [] hrooted (Nat.zero_le _)
  cases hc rfl
  rw [BuildState.embed_start] at h
  exact ⟨h, Scope.Recorder.embed_stack hr⟩

/-- In every state that planning can reach, an expression is planned as it is from the start. -/
theorem planExpr_placed {as : List Syntax.Alias} {s : BuildState} (hs : Run .start as s) (role : Role)
    (e : Syntax.Expr) : Placed s ((planExpr role e).run .start) ((planExpr role e).run s) := by
  obtain ⟨h, hstack⟩ := planExpr_run hs.consistent.stack_ne role e
  rw [h]
  exact ⟨rfl, hstack, rfl, rfl, rfl⟩

/-- The state in which the rows of `UPDATE orders AS o` are bound. -/
def underOrders : BuildState :=
  ((do let _ ← openFrame .query; let _ ← openFrame .dmlSource; declare (.bare "o") ⟨1, 18⟩) : Build Declaration).run
    .start |>.2

/-- `(SELECT VALUE i FROM o.items AS i AT I)`, which declares one name twice. -/
def itemsOfOrder : Syntax.Expr :=
  .select ((Syntax.Select.ofProjection (.value (.bare "i" ⟨1, 38⟩))).addFrom
    (.scan ⟨.fields (.bare "o" ⟨1, 45⟩) ["items"], some (.bare "i" ⟨1, 56⟩), some (.bare "I" ⟨1, 61⟩), none, {}⟩))

theorem planExpr_placed_itemsOfOrder :
    Run .start [⟨.bare "o", ⟨1, 18⟩⟩] underOrders ∧
      Placed underOrders ((planExpr .expression itemsOfOrder).run .start)
        ((planExpr .expression itemsOfOrder).run underOrders) := by
  have h : Run .start [⟨.bare "o", ⟨1, 18⟩⟩] underOrders :=
    ((Run.none.openFrame .query).openFrame .dmlSource).declare rfl
  exact ⟨h, planExpr_placed h .expression itemsOfOrder⟩

end NestedQuery.Logical
