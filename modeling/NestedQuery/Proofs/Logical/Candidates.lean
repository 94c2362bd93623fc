/-
Binding a name at once, and the locals that are left to be asked when the name is looked up later. The first goes
through the frames up to the nearest boundary and takes the first declared match of a frame; the others go through all
frames around and list the last declared first. Where no frame has a name twice, the two agree: what is bound is the
first of the others that the name names, and where nothing is bound, the name names only locals outside of the boundary.
-/
import NestedQuery.Proofs.Logical.Completeness
import NestedQuery.Proofs.Logical.Repetition
import NestedQuery.Sample.Statements

namespace NestedQuery

namespace Scope.Tree

variable {t : Tree} {locals : List Local} {name : Identifier} {scope : Nat}

/-! ## The nearest boundary -/

/-- From a frame that is there, the way out meets a boundary: the root frame is one. -/
theorem LaidOut.exists_boundary (h : t.LaidOut locals) {scope : Option Nat} {fs : List Frame} (hc : t.Climbs scope fs) :
    (∃ i ∈ scope, i < t.frames.length) → ∃ g ∈ fs, g.isBoundary = true := by
  induction hc with
  | outside => exact fun ⟨_, hi, _⟩ => nomatch hi
  | @missing i hm =>
    rintro ⟨_, ⟨⟩, hi⟩
    exact absurd (List.getElem?_eq_none_iff.1 hm) (Nat.not_le.2 hi)
  | @step i f fs hf _ ih =>
    rintro ⟨_, ⟨⟩, hi⟩
    by_cases h0 : i = 0
    · refine ⟨f, List.mem_cons_self, ?_⟩
      unfold Frame.isBoundary
      rw [(h.fits i f hf).kind.2 h0]
    · obtain ⟨p, hp, he⟩ := (h.fits i f hf).parent h0
      obtain ⟨g, hg, hb⟩ := ih ⟨p, he, hp.trans hi⟩
      exact ⟨g, List.mem_cons_of_mem f hg, hb⟩

/-- Around a frame, `inner` are the frames before the nearest boundary and `outer` those outside of it. -/
structure Enclosed (t : Tree) (scope : Nat) (inner : List Frame) (boundary : Frame) (outer : List Frame) : Prop where
  ancestors : t.ancestors scope = inner ++ boundary :: outer
  inner : ∀ g ∈ inner, g.isBoundary = false
  boundary : boundary.isBoundary = true

theorem LaidOut.enclosed (h : t.LaidOut locals) (hs : scope < t.frames.length) :
    ∃ inner boundary outer, t.Enclosed scope inner boundary outer := by
  obtain ⟨g, hg, hb⟩ := h.exists_boundary (climbs_ancestors h.acyclic scope) ⟨scope, rfl, hs⟩
  obtain ⟨boundary, hf⟩ := Option.isSome_iff_exists.1 (List.find?_isSome.2 ⟨g, hg, hb⟩)
  obtain ⟨hb, inner, outer, ha, hi⟩ := List.find?_eq_some_iff_append.1 hf
  exact ⟨inner, boundary, outer, ha, fun g hg => by simpa using hi g hg, hb⟩

theorem upToBoundary_append {inner outer : List Frame} {boundary : Frame} (hi : ∀ g ∈ inner, g.isBoundary = false)
    (hb : boundary.isBoundary = true) : upToBoundary (inner ++ boundary :: outer) = inner ++ [boundary] := by
  induction inner with
  | nil => exact if_pos hb
  | cons g inner ih =>
    rw [List.cons_append, upToBoundary, hi g List.mem_cons_self, ih fun f hf => hi f (List.mem_cons_of_mem g hf)]
    rfl

/-! ## Two searches -/

/-- From either end a list has the same first match if it has one at most. -/
theorem find?_reverse_of_unique {α : Type} {l : List α} {p : α → Bool}
    (h : ∀ a ∈ l, ∀ b ∈ l, p a = true → p b = true → a = b) : l.reverse.find? p = l.find? p := by
  cases hf : l.find? p with
  | none =>
    rw [List.find?_eq_none] at hf ⊢
    exact fun a ha => hf a (List.mem_reverse.1 ha)
  | some a =>
    have ha := List.mem_of_find?_eq_some hf
    have hr : (l.reverse.find? p).isSome = true := List.find?_isSome.2 ⟨a, List.mem_reverse.2 ha, List.find?_some hf⟩
    obtain ⟨b, hb⟩ := Option.isSome_iff_exists.1 hr
    have hm := List.mem_reverse.1 (List.mem_of_find?_eq_some hb)
    rw [hb, h a ha b hm (List.find?_some hf) (List.find?_some hb)]

/-- What a name is bound to is the first match in the frames up to the boundary, when no frame has two. -/
theorem findLocal?_eq_find? (h : ∀ f ∈ t.staticFrames scope, ∀ i ∈ f.locals, ∀ j ∈ f.locals,
    namesLocal locals name i = true → namesLocal locals name j = true → i = j) :
    t.findLocal? locals name scope =
      ((t.staticFrames scope).flatMap (·.locals.reverse)).find? (namesLocal locals name) := by
  unfold findLocal?
  rw [List.find?_flatMap]
  generalize t.staticFrames scope = fs at h
  induction fs with
  | nil => rfl
  | cons f fs ih =>
    rw [List.findSome?_cons, List.findSome?_cons, find?_reverse_of_unique (h f List.mem_cons_self),
      ih fun g hg => h g (List.mem_cons_of_mem f hg)]

end Scope.Tree

open Scope.Tree (namesLocal)

/-- A name names one local of a frame at most, if no problem says that a name was declared twice. -/
theorem LogicalPlan.build_names_one {s : Syntax.Statement} {name : Identifier}
    (hp : ∀ p ∈ (build s).2, ∀ n, p.fault ≠ .variablePreviouslyDefined n) {f : Scope.Frame}
    (hf : f ∈ (build s).1.scopes.frames) {i j : Nat} (hi : i ∈ f.locals) (hj : j ∈ f.locals)
    (hni : namesLocal (build s).1.locals name i = true) (hnj : namesLocal (build s).1.locals name j = true) :
    i = j := by
  have hnil : (build s).2 = [] := by
    -- planning reports nothing else
    refine List.eq_nil_iff_forall_not_mem.2 fun p hmem => ?_
    obtain ⟨n, location, rfl⟩ := Logical.build_isRepetition s p hmem
    exact hp _ hmem n.text rfl
  have hpair := (Logical.planStatement_declares s .start).problems_eq_nil.1 hnil f hf
  exact Scope.eq_of_clash hpair hi hj (Scope.clash_of_namesLocal hni hnj)

/-- In the plan of a statement that declares no name twice in a frame, a name is bound to the first of the visible
locals that it names. If it is bound to none, each visible local that it names is in one frame, and that frame is
outside of the nearest boundary. -/
theorem LogicalPlan.build_finds_first (s : Syntax.Statement) (name : Identifier) (scope : Nat)
    (hp : ∀ p ∈ (build s).2, ∀ n, p.fault ≠ .variablePreviouslyDefined n)
    (hs : scope < (build s).1.scopes.frames.length) :
    let plan := (build s).1
    ∃ inner boundary outer, plan.scopes.Enclosed scope inner boundary outer ∧
      (∀ i, plan.scopes.findLocal? plan.locals name scope = some i →
        (plan.scopes.visibleLocals scope).find? (namesLocal plan.locals name) = some i) ∧
      (plan.scopes.findLocal? plan.locals name scope = none →
        ∀ i ∈ plan.scopes.visibleLocals scope, namesLocal plan.locals name i = true →
          ∃ g ∈ outer, i ∈ g.locals ∧ ∀ f ∈ plan.scopes.frames, i ∈ f.locals → f = g) := by
  intro plan
  have hlaid : plan.scopes.LaidOut plan.locals := build_laidOut s
  obtain ⟨inner, boundary, outer, he⟩ := hlaid.enclosed hs
  have hstatic : plan.scopes.staticFrames scope = inner ++ [boundary] := by
    unfold Scope.Tree.staticFrames
    rw [he.ancestors, Scope.Tree.upToBoundary_append he.inner he.boundary]
  have hvisible : plan.scopes.visibleLocals scope =
      (inner ++ [boundary]).flatMap (·.locals.reverse) ++ outer.flatMap (·.locals.reverse) := by
    unfold Scope.Tree.visibleLocals
    rw [he.ancestors, List.append_cons, List.flatMap_append]
  have hframes : ∀ f ∈ inner ++ boundary :: outer, f ∈ plan.scopes.frames := fun f hf =>
    List.mem_reverse.1 ((hlaid.ancestors_sublist scope).subset (he.ancestors ▸ hf))
  have hfind : plan.scopes.findLocal? plan.locals name scope =
      ((inner ++ [boundary]).flatMap (·.locals.reverse)).find? (namesLocal plan.locals name) := by
    rw [← hstatic]
    refine Scope.Tree.findLocal?_eq_find? fun f hf i hi j hj hni hnj => ?_
    refine build_names_one hp (hframes f ?_) hi hj hni hnj
    rw [hstatic] at hf
    rw [List.append_cons]
    exact List.mem_append_left _ hf
  refine ⟨inner, boundary, outer, he, ?_, ?_⟩
  · intro i hi
    rw [hfind] at hi
    rw [hvisible, List.find?_append, hi]
    rfl
  · intro hnone i hi hni
    rw [hfind, List.find?_eq_none] at hnone
    rw [hvisible] at hi
    have hi := (List.mem_append.1 hi).resolve_left fun hi => hnone i hi hni
    obtain ⟨g, hg, hig⟩ := List.mem_flatMap.1 hi
    have hig := List.mem_reverse.1 hig
    have hgf := hframes g (List.mem_append_right _ (List.mem_cons_of_mem _ hg))
    exact ⟨g, hg, hig, fun f hf hif => hlaid.frame_unique hf hgf hif hig⟩

/-- `SELECT VALUE (SELECT VALUE i FROM o.items AS "I") FROM orders AS o AT i`. -/
def Sample.nestedItems : Syntax.Statement :=
  (Syntax.Select.ofProjection (.value (.select
    ((Syntax.Select.ofProjection (.value (.bare "i" ⟨1, 28⟩))).addFrom
      (.scan ⟨.fields (.bare "o" ⟨1, 35⟩) ["items"], some ⟨.quoted "I", ⟨1, 46⟩⟩, none, none, {}⟩))))).addFrom
    (.scan ⟨.bare "orders" ⟨1, 56⟩, some (.bare "o" ⟨1, 66⟩), some (.bare "i" ⟨1, 71⟩), none, {}⟩) |>.toStatement

/-- From the inner item, the bare name is bound to the inner alias, which comes first of the locals that it names. The
quoted name is not bound: it names the alias outside of the inner query. -/
theorem LogicalPlan.build_finds_first_nestedItems :
    let plan := (build Sample.nestedItems).1
    (∀ p ∈ (build Sample.nestedItems).2, ∀ n, p.fault ≠ .variablePreviouslyDefined n) ∧
      4 < plan.scopes.frames.length ∧ plan.scopes.visibleLocals 4 = [2, 1, 0] ∧
      (plan.scopes.visibleLocals 4).find? (namesLocal plan.locals (.bare "i")) = some 2 ∧
      ∃ inner boundary outer, plan.scopes.Enclosed 4 inner boundary outer ∧ ∃ g ∈ outer, 1 ∈ g.locals := by
  intro plan
  have hp : ∀ p ∈ (build Sample.nestedItems).2, ∀ n, p.fault ≠ .variablePreviouslyDefined n := by
    rw [show (build Sample.nestedItems).2 = [] by decide]
    exact List.forall_mem_nil _
  have hs : 4 < plan.scopes.frames.length := by decide
  obtain ⟨_, _, _, -, hsome, -⟩ := build_finds_first Sample.nestedItems (.bare "i") 4 hp hs
  obtain ⟨inner, boundary, outer, he, -, hnone⟩ := build_finds_first Sample.nestedItems (.quoted "i") 4 hp hs
  obtain ⟨g, hg, hig, -⟩ := hnone (by decide) 1 (by decide) (by decide)
  exact ⟨hp, hs, by decide, hsome 2 (by decide), inner, boundary, outer, he, g, hg, hig⟩

end NestedQuery
