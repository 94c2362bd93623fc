/-
References that a plan makes itself. Such a reference looks for the exact name of a local from a frame that was
remembered when the local was declared, so it finds that local whatever declares the same name elsewhere: the first
local of a frame is always found, and any local of a frame whose names differ. This covers `SELECT *`, and the row
variables of deletions, updates and insertions under a source.
-/
import NestedQuery.Proofs.Logical.Built
import NestedQuery.Proofs.Resolved.Pointwise

namespace NestedQuery

open Lexical (Env)
open Logical (Leads RowImage Seen Stands StarPlanned build_records)
open Plan (Item)
open Scope (Recorder)
open Syntax (Mark)

namespace Declaration

/-- The binding of a reference that a plan makes to a local. -/
def bound (d : Declaration) : Binding := ⟨.quoted d.name.text, some (.loc d.index), d.location⟩

/-- The binding of a reference that a plan makes to a local of a group: it is bound to the first local of the group
with the same text. -/
def boundIn (group : List Declaration) (d : Declaration) : Binding :=
  ⟨.quoted d.name.text, ((group.find? fun e => d.name.text == e.name.text).map (·.index)).map .loc, d.location⟩

theorem boundIn_head (d : Declaration) (later : List Declaration) : d.boundIn (d :: later) = d.bound := by
  simp [boundIn, bound]

/-- A local of the group is found, if not itself then one before it. -/
theorem find?_text_of_mem {group : List Declaration} {d : Declaration} (h : d ∈ group) :
    ∃ e, group.find? (fun e => d.name.text == e.name.text) = some e := by
  rw [← Option.isSome_iff_exists, List.find?_isSome]
  exact ⟨d, h, beq_self_eq_true _⟩

theorem boundIn_of_mem {group : List Declaration} {d : Declaration} (h : d ∈ group) :
    ∃ index, d.boundIn group = ⟨.quoted d.name.text, some (.loc index), d.location⟩ := by
  obtain ⟨e, he⟩ := find?_text_of_mem h
  exact ⟨e.index, by rw [boundIn, he]; rfl⟩

/-- Where texts differ, each local is bound to itself. -/
theorem boundIn_eq_bound {d : Declaration} : ∀ {group : List Declaration}, (group.map (·.name.text)).Nodup → d ∈ group →
    d.boundIn group = d.bound
  | [], _, hd => nomatch hd
  | e :: group, hn, hd => by
    rw [List.map_cons, List.nodup_cons] at hn
    rcases List.mem_cons.1 hd with rfl | hd
    · exact boundIn_head d group
    · -- the search passes the locals before it, whose texts are others
      have hne : (d.name.text == e.name.text) = false := by
        rw [beq_eq_false_iff_ne]
        intro h
        exact hn.1 (h ▸ List.mem_map_of_mem hd)
      have ih := boundIn_eq_bound hn.2 hd
      rw [boundIn, List.find?_cons, hne]
      exact ih

end Declaration

namespace Resolved

section Reference

variable {r : Recorder} {catalog : Lookup} {allowUndefined : Bool} {scope : Nat} {d : Declaration}

/-- A reference to a local of the nearest group is bound within the group. -/
theorem binding_reference {group : List Declaration} (h : Seen r scope group) (hd : d ∈ group) :
    binding ⟨r.tree, r.locals, catalog, allowUndefined⟩ (d.reference scope) = d.boundIn group := by
  obtain ⟨rest, outer, h⟩ := h
  obtain ⟨e, he⟩ := Declaration.find?_text_of_mem hd
  have hl : r.tree.findLocal? r.locals (.quoted d.name.text) scope = some e.index := by
    rw [h.findLocal?, Env.find?, List.findSome?_cons]
    simp only [Identifier.names_quoted, he, Option.map_some]
  unfold binding answer local? Declaration.reference Declaration.boundIn
  dsimp only
  rw [hl, he]
  rfl

theorem binding_leads (h : Leads r scope d) :
    binding ⟨r.tree, r.locals, catalog, allowUndefined⟩ (d.reference scope) = d.bound := by
  obtain ⟨later, h⟩ := h
  rw [binding_reference h List.mem_cons_self, Declaration.boundIn_head]

end Reference

end Resolved

/-! ## What becomes of generated references -/

/-- What `SELECT *` is in a resolved plan. -/
structure StarBound (b : Syntax.Select) (source : Plan.Relation Binding) (projection : Plan.Projection Binding) :
    Prop where
  /-- Without a grouping, a spread of the AS local of every FROM item. -/
  items : b.projection = .star → b.groupBy = none →
    source.itemDecls.map (·.name) = Syntax.starNames b.source none ∧
      projection = .struct (source.itemDecls.map fun d => .all (.var d.bound))
  /-- Under a grouping, an item for each key and for the group. -/
  keys : ∀ g, b.projection = .star → b.groupBy = some g →
    source.groupDecls.map (·.name) = g.names ∧
      projection = .struct (source.groupDecls.map fun d => .expr (.var (d.boundIn source.groupDecls)) d.name.text) ∧
      ((source.groupDecls.map (·.name.text)).Nodup →
        projection = .struct (source.groupDecls.map fun d => .expr (.var d.bound) d.name.text))

/-- The references that a plan makes itself are bound to the locals that they are made for. -/
inductive GeneratedBound : Mark → Item Binding → Prop
  | var {v : Syntax.Var} {role : Role} {env : Env} {b : Binding} : GeneratedBound (.var v role) (.var env b)
  /-- Every reference that nobody writes is bound to some local. -/
  | generated {name : Identifier} {env : Env} {index : Nat} {location : Location} :
      GeneratedBound (.generated name) (.var env ⟨.quoted name.text, some (.loc index), location⟩)
  | target {v : Syntax.Var} {b : Binding} : GeneratedBound (.target v) (.target b)
  | select {b : Syntax.Select} {source : Plan.Relation Binding} {projection : Plan.Projection Binding} :
      StarBound b source projection → GeneratedBound (.select b) (.block source projection)
  /-- The row variable of an update is that of the source. -/
  | edited {s : Syntax.MutationSource} {source : Plan.Relation Binding} {d : Declaration} {value : Plan.Expr Binding} :
      source.itemDecls = [d] → d.name = s.rowVar.name → RowImage (.var d.bound) value →
      GeneratedBound (.rows .edited s) (.block source (.value value))
  /-- The row variable of a deletion is that of the source. -/
  | deleted {s : Syntax.MutationSource} {source : Plan.Relation Binding} {d : Declaration} :
      source.itemDecls = [d] → d.name = s.rowVar.name →
      GeneratedBound (.rows .deleted s) (.block source (.value (.var d.bound)))
  /-- The inserted rows are those of the scan of the values, for each row of the source. -/
  | inserting {s : Syntax.MutationSource} {rows : Plan.Relation Binding} {values : Plan.Expr Binding}
      {d : Declaration} : GeneratedBound (.rows .inserting s)
        (.block (.of (.join .cross rows (.of (.scan values d none none)) none)) (.value (.var d.bound)))
  | insertingValue {s : Syntax.MutationSource} {source : Plan.Relation Binding} {projection : Plan.Projection Binding} :
      GeneratedBound (.rows .insertingValue s) (.block source projection)

section Bound

variable {r : Recorder} {catalog : Lookup} {allowUndefined : Bool}

theorem RowImage.map {V W : Type} (g : V → W) {row value : Plan.Expr V} (h : RowImage row value) :
    RowImage (row.map g) (value.map g) := by
  induction h with
  | row => exact .row
  | set _ ih => exact .set ih
  | remove _ ih => exact .remove ih

theorem mapItems_map {α V W : Type} (g : V → W) {item : α → Plan.ProjectItem V} {item' : α → Plan.ProjectItem W} :
    ∀ {as : List α}, (∀ a ∈ as, ∀ rest, Plan.mapItems g (item a :: rest) = item' a :: Plan.mapItems g rest) →
      Plan.mapItems g (as.map item) = as.map item'
  | [], _ => rfl
  | a :: as, h => by
    rw [List.map_cons, h a List.mem_cons_self, mapItems_map g fun b hb => h b (List.mem_cons_of_mem a hb)]
    rfl

theorem starBound_of_starPlanned {b : Syntax.Select} {source : Plan.Relation Reference}
    {projection : Plan.Projection Reference} (h : StarPlanned r b source projection) :
    StarBound b (source.map (Resolved.binding ⟨r.tree, r.locals, catalog, allowUndefined⟩))
      (projection.map (Resolved.binding ⟨r.tree, r.locals, catalog, allowUndefined⟩)) := by
  constructor
  · intro hp hg
    obtain ⟨aliases, hi, rfl⟩ := h.items hp hg
    rw [Plan.Relation.itemDecls_map]
    refine ⟨hi.names, congrArg Plan.Projection.struct ?_⟩
    rw [← hi.decls, List.map_map]
    refine mapItems_map _ fun a ha rest => ?_
    rw [Plan.mapItems, Plan.Expr.map, Resolved.binding_leads (hi.leads a ha)]
    rfl
  · intro g hp hg
    obtain ⟨hn, scope, hs, rfl⟩ := h.keys g hp hg
    rw [Plan.Relation.groupDecls_map]
    have hk : Plan.Projection.map (Resolved.binding ⟨r.tree, r.locals, catalog, allowUndefined⟩)
        (.struct (source.groupDecls.map fun d => .expr (.var (d.reference scope)) d.name.text)) =
        .struct (source.groupDecls.map fun d => .expr (.var (d.boundIn source.groupDecls)) d.name.text) := by
      refine congrArg Plan.Projection.struct (mapItems_map _ fun d hd rest => ?_)
      rw [Plan.mapItems, Plan.Expr.map, Resolved.binding_reference hs hd]
    refine ⟨hn, hk, fun hd => ?_⟩
    rw [hk]
    refine congrArg Plan.Projection.struct (List.map_congr_left fun d hm => ?_)
    rw [Declaration.boundIn_eq_bound hd hm]

theorem generatedBound_of_stands {m : Mark} {i : Item Reference} (h : Stands r m i) :
    GeneratedBound m (i.map (Resolved.binding ⟨r.tree, r.locals, catalog, allowUndefined⟩)) := by
  cases h with
  | var => exact .var
  | generated hg hd =>
    obtain ⟨index, hb⟩ := Declaration.boundIn_of_mem hd
    rw [Item.map, Resolved.binding_reference hg hd, hb]
    exact .generated
  | target => exact .target
  | select h => exact .select (starBound_of_starPlanned h)
  | edited hd hn hl hv =>
    have hv := RowImage.map (Resolved.binding ⟨r.tree, r.locals, catalog, allowUndefined⟩) hv
    rw [Plan.Expr.map, Resolved.binding_leads hl] at hv
    exact .edited ((Plan.Relation.itemDecls_map _).trans hd) hn hv
  | deleted hd hn hl =>
    rw [Item.map, Plan.Projection.map, Plan.Expr.map, Resolved.binding_leads hl]
    exact .deleted ((Plan.Relation.itemDecls_map _).trans hd) hn
  | inserting hl =>
    rw [Item.map, Plan.Projection.map, Plan.Expr.map, Resolved.binding_leads hl]
    exact .inserting
  | insertingValue => exact .insertingValue

end Bound

/-- The resolved plan follows its statement place by place, and what it refers to by itself is bound to the locals
that it declares for that. -/
theorem resolve_generated (s : Syntax.Statement) (catalog : Lookup) (allowUndefined : Bool) (earlier : List Problem) :
    List.Forall₂ GeneratedBound s.outline
      ((LogicalPlan.build s).1.resolve catalog allowUndefined earlier).1.statement.outline := by
  obtain ⟨r, hr⟩ := build_records s
  rw [LogicalPlan.resolve_statement, Plan.Statement.outline_map, List.forall₂_map_right_iff, LogicalPlan.context,
    ← hr.tree, ← hr.locals]
  exact hr.part.stands.imp fun _ _ h => generatedBound_of_stands h

end NestedQuery
