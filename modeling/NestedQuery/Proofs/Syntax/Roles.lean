/-
The roles of variables in the outline of a statement. No variable that is written in an expression has the role of
a target, and expressions hold no targets: these stand at the changes of a batch and nowhere else.
-/
import NestedQuery.Proofs.Syntax.Outline

namespace NestedQuery.Syntax

/-- The marks are such as stand in expressions: none is a target or has the role of one. -/
def Plain (marks : List Mark) : Prop := ∀ m ∈ marks, (∀ v, m ≠ .target v) ∧ ∀ v, m ≠ .var v .dmlTarget

namespace Plain

variable {marks marks' : List Mark}

theorem nil : Plain [] := List.forall_mem_nil _

theorem cons {m : Mark} (ht : ∀ v, m ≠ .target v) (hr : ∀ v, m ≠ .var v .dmlTarget) (h : Plain marks) :
    Plain (m :: marks) := by
  rintro n (_ | ⟨_, hn⟩)
  · exact ⟨ht, hr⟩
  · exact h n hn

theorem append (h : Plain marks) (h' : Plain marks') : Plain (marks ++ marks') :=
  fun m hm => (List.mem_append.1 hm).elim (h m) (h' m)

theorem var {role : Role} (h : role ≠ .dmlTarget) (v : Var) : Plain [.var v role] := by
  refine cons nofun (fun w he => ?_) nil
  cases he
  exact h rfl

theorem generated (names : List Identifier) : Plain (names.map .generated) := by
  intro m hm
  obtain ⟨name, -, rfl⟩ := List.mem_map.1 hm
  exact ⟨nofun, nofun⟩

theorem role (h : Plain marks) (v : Var) : .var v .dmlTarget ∉ marks := fun hm => (h _ hm).2 v rfl

end Plain

theorem expression_ne : Role.expression ≠ .dmlTarget := nofun

theorem fromSource_ne : Role.fromSource ≠ .dmlTarget := nofun

/-! ## Expressions and blocks -/

mutual

theorem Expr.plain_outline : ∀ (e : Expr) {role : Role}, role ≠ .dmlTarget → Plain (e.outline role)
  | .lit _, _, _ => .nil
  | .var v, _, h => .var h v
  | .path root steps, _, _ => (root.plain_outline expression_ne).append (plain_outlineSteps steps)
  | .unary _ operand, _, _ => operand.plain_outline expression_ne
  | .binary _ lhs rhs, _, _ => (lhs.plain_outline expression_ne).append (rhs.plain_outline expression_ne)
  | .call _ args, _, _ => plain_outlineList args
  | .callAgg _ _ arg, _, _ => arg.plain_outline expression_ne
  | .case operand branches otherwise, _, _ =>
    ((plain_outlineOption operand).append (plain_outlineBranches branches)).append (plain_outlineOption otherwise)
  | .collection _ values, _, _ => plain_outlineList values
  | .struct fields, _, _ => plain_outlineFields fields
  | .cast value _, _, _ => value.plain_outline expression_ne
  | .select block, _, _ => block.plain_outline
  | .bagOp _ _ left right, _, _ => (left.plain_outline expression_ne).append (right.plain_outline expression_ne)

theorem plain_outlineList : ∀ es : List Expr, Plain (outlineList es)
  | [] => .nil
  | e :: es => (e.plain_outline expression_ne).append (plain_outlineList es)

theorem plain_outlineOption : ∀ e : Option Expr, Plain (outlineOption e)
  | none => .nil
  | some e => e.plain_outline expression_ne

theorem plain_outlineSteps : ∀ steps : List PathStep, Plain (outlineSteps steps)
  | [] => .nil
  | .field _ :: steps => plain_outlineSteps steps
  | .index key :: steps => (key.plain_outline expression_ne).append (plain_outlineSteps steps)
  | .wildcard :: steps => plain_outlineSteps steps
  | .unpivot :: steps => plain_outlineSteps steps

theorem plain_outlineBranches : ∀ branches : List CaseBranch, Plain (outlineBranches branches)
  | [] => .nil
  | ⟨condition, result⟩ :: branches =>
    ((condition.plain_outline expression_ne).append (result.plain_outline expression_ne)).append
      (plain_outlineBranches branches)

theorem plain_outlineFields : ∀ fields : List StructField, Plain (outlineFields fields)
  | [] => .nil
  | ⟨key, value⟩ :: fields =>
    ((key.plain_outline expression_ne).append (value.plain_outline expression_ne)).append (plain_outlineFields fields)

theorem Select.plain_outline : ∀ b : Select, Plain b.outline
  | ⟨_, projection, source, lets, filter, groupBy, having, orderBy, limit, offset⟩ =>
    have hrows := ((plain_outlineSource source).append (plain_outlineLets lets)).append (plain_outlineOption filter)
    have hgroup := (hrows.append (plain_outlineGroup groupBy)).append (plain_outlineOption having)
    have hcut := ((hgroup.append (plain_outlineOrder orderBy)).append (plain_outlineOption offset)).append
      (plain_outlineOption limit)
    .cons nofun nofun (hcut.append (projection.plain_outline _))

theorem plain_outlineSource : ∀ source : Option FromSource, Plain (outlineSource source)
  | none => .nil
  | some source => source.plain_outline

theorem FromSource.plain_outline : ∀ source : FromSource, Plain source.outline
  | .scan ⟨expr, _, _, _, _⟩ => expr.plain_outline fromSource_ne
  | .unpivot ⟨expr, _, _, _, _⟩ => expr.plain_outline fromSource_ne
  | .join _ left right predicate =>
    (left.plain_outline.append right.plain_outline).append (plain_outlineOption predicate)

theorem plain_outlineLets : ∀ lets : List LetBinding, Plain (outlineLets lets)
  | [] => .nil
  | ⟨expr, _⟩ :: lets => (expr.plain_outline expression_ne).append (plain_outlineLets lets)

theorem plain_outlineGroup : ∀ groupBy : Option GroupBy, Plain (outlineGroup groupBy)
  | none => .nil
  | some ⟨keys, _⟩ => plain_outlineKeys keys

theorem plain_outlineKeys : ∀ keys : List GroupKey, Plain (outlineKeys keys)
  | [] => .nil
  | ⟨expr, _, _⟩ :: keys => (expr.plain_outline expression_ne).append (plain_outlineKeys keys)

theorem plain_outlineOrder : ∀ items : List OrderItem, Plain (outlineOrder items)
  | [] => .nil
  | ⟨expr, _, _⟩ :: items => (expr.plain_outline expression_ne).append (plain_outlineOrder items)

theorem Projection.plain_outline : ∀ (p : Projection) (star : List Identifier), Plain (p.outline star)
  | .star, star => .generated star
  | .list items, _ => plain_outlineItems items
  | .value expr, _ => expr.plain_outline expression_ne
  | .pivot value key, _ => (value.plain_outline expression_ne).append (key.plain_outline expression_ne)

theorem plain_outlineItems : ∀ items : List SelectItem, Plain (outlineItems items)
  | [] => .nil
  | .expr expr _ :: items => (expr.plain_outline expression_ne).append (plain_outlineItems items)
  | .all expr :: items => (expr.plain_outline expression_ne).append (plain_outlineItems items)

end

/-! ## Statements -/

theorem MutationSource.plain_outline (s : MutationSource) : Plain s.outline :=
  (Plain.var fromSource_ne s.target).append (plain_outlineOption s.filter)

theorem plain_outlineRowSteps : ∀ steps : List RowStep, Plain (outlineRowSteps steps)
  | [] => .nil
  | .field _ :: steps => plain_outlineRowSteps steps
  | .index key :: steps => (key.plain_outline expression_ne).append (plain_outlineRowSteps steps)

theorem Edit.plain_outline (edit : Edit) : Plain edit.outline :=
  (plain_outlineRowSteps edit.path.steps).append (plain_outlineOption edit.value)

/-- A statement without mutations has no targets. -/
theorem Statement.plain_outline : ∀ {s : Statement}, (∀ m, s ≠ .dml m) → Plain s.outline
  | .query expr, _ => expr.plain_outline expression_ne
  | .dml m, h => absurd rfl (h m)
  | .exec _ args, _ => plain_outlineList args

/-- No variable of a change has the role of a target. -/
theorem Change.outline_role (source : Option MutationSource) (c : Change) (v : Var) :
    .var v .dmlTarget ∉ c.outline source := by
  have he : ∀ e : Expr, .var v .dmlTarget ∉ e.outline .expression := fun e => (e.plain_outline expression_ne).role v
  have hs : ∀ s : MutationSource, .var v .dmlTarget ∉ s.outline := fun s => s.plain_outline.role v
  have hd : ∀ edit : Edit, .var v .dmlTarget ∉ edit.outline := fun edit => edit.plain_outline.role v
  cases source with
  | none => cases c <;> simp [Change.outline, he]
  | some s => cases c <;> simp [Change.outline, he, hs, hd]

/-- No variable that is written has the role of a target. -/
theorem Statement.outline_role (s : Statement) (v : Var) : .var v .dmlTarget ∉ s.outline := by
  cases s with
  | query expr => exact (expr.plain_outline expression_ne).role v
  | dml m =>
    intro h
    obtain ⟨c, -, hc⟩ := List.mem_flatMap.1 h
    exact c.outline_role m.source v hc
  | exec procedure args => exact (plain_outlineList args).role v

end NestedQuery.Syntax
