/-
The exchanged forms of names, places, literals, references, bindings, problems and frames read back. A number is read
only if it has at most 32 bits; `Fits` says of a value that its numbers do. What is read fits.
-/
import NestedQuery.Exchange.Reference
import NestedQuery.Proofs.Json.Decode

namespace NestedQuery

open Decoder (Yields andThen required_of nullable_of)

/-! ## Closed choices -/

theorem CaseRule.ofJson?_toJson (r : CaseRule) : ofJson? r.toJson = some r := by cases r <;> rfl

theorem ScopeQualifier.ofJson?_toJson (q : ScopeQualifier) : ofJson? q.toJson = some q := by cases q <;> rfl

theorem Role.ofJson?_toJson (r : Role) : ofJson? r.toJson = some r := by cases r <;> rfl

theorem BinaryOp.ofJson?_toJson (op : BinaryOp) : ofJson? op.toJson = some op := by cases op <;> rfl

theorem UnaryOp.ofJson?_toJson (op : UnaryOp) : ofJson? op.toJson = some op := by cases op <;> rfl

theorem CollectionKind.ofJson?_toJson (k : CollectionKind) : ofJson? k.toJson = some k := by cases k <;> rfl

theorem JoinKind.ofJson?_toJson (k : JoinKind) : ofJson? k.toJson = some k := by cases k <;> rfl

theorem SetOpKind.ofJson?_toJson (k : SetOpKind) : ofJson? k.toJson = some k := by cases k <;> rfl

theorem SetQuantifier.ofJson?_toJson (q : SetQuantifier) : ofJson? q.toJson = some q := by cases q <;> rfl

theorem SortOrder.ofJson?_toJson (o : SortOrder) : ofJson? o.toJson = some o := by cases o <;> rfl

theorem NullsOrder.ofJson?_toJson (o : NullsOrder) : ofJson? o.toJson = some o := by cases o <;> rfl

theorem OnConflict.ofJson?_toJson (c : OnConflict) : ofJson? c.toJson = some c := by cases c <;> rfl

theorem EntityKind.ofJson?_toJson (k : EntityKind) : ofJson? k.toJson = some k := by cases k <;> rfl

theorem Scope.FrameKind.ofJson?_toJson (k : FrameKind) : ofJson? k.toJson = some k := by cases k <;> rfl

theorem Plan.Action.ofJson?_toJson (a : Action) : ofJson? a.toJson = some a := by cases a <;> rfl

/-! ## Names, places and literals -/

theorem Location.ofJson?_toJson (l : Location) : ofJson? l.toJson = some l :=
  andThen rfl <| andThen (required_of rfl (Decoder.uint32_ofNat _)) <|
    andThen (required_of rfl (Decoder.uint32_ofNat _)) rfl

theorem Identifier.ofJson?_toJson (i : Identifier) : ofJson? i.toJson = some i :=
  andThen rfl <| andThen (required_of rfl rfl) <| andThen (required_of rfl (CaseRule.ofJson?_toJson _)) rfl

theorem Literal.ofJson?_toJson (l : Literal) : ofJson? l.toJson = some l := by
  cases l with
  | integer n => exact andThen rfl (andThen (Decoder.int64_toInt n) rfl)
  | _ => rfl

/-! ## Locals and references -/

theorem Local.ofJson?_toJson {l : Local} (h : l.index < UInt32.size) : ofJson? l.toJson = some l :=
  andThen rfl <| andThen (required_of rfl (Identifier.ofJson?_toJson _)) <|
    andThen (required_of rfl (Decoder.index_ofNat h)) rfl

theorem Local.ofJson?_yields : Yields ofJson? fun l => l.index < UInt32.size := fun _ =>
  .skip fun _ => .skip fun _ => .bind (.required Decoder.index_yields) fun _ hi => .some hi

theorem Declaration.ofJson?_toJson {d : Declaration} (h : d.index < UInt32.size) : ofJson? d.toJson = some d :=
  andThen rfl <| andThen (required_of rfl (Identifier.ofJson?_toJson _)) <|
    andThen (required_of rfl (Decoder.index_ofNat h)) <| andThen (required_of rfl (Location.ofJson?_toJson _)) rfl

theorem Declaration.ofJson?_yields : Yields ofJson? fun d => d.index < UInt32.size := fun _ =>
  .skip fun _ => .skip fun _ => .bind (.required Decoder.index_yields) fun _ hi => .skip fun _ => .some hi

theorem Reference.ofJson?_toJson {r : Reference} (h : r.scope < UInt32.size) : ofJson? r.toJson = some r :=
  andThen rfl <| andThen (required_of rfl (Identifier.ofJson?_toJson _)) <|
    andThen (required_of rfl (ScopeQualifier.ofJson?_toJson _)) <|
    andThen (required_of rfl (Role.ofJson?_toJson _)) <| andThen (required_of rfl (Decoder.index_ofNat h)) <|
    andThen (required_of rfl (Location.ofJson?_toJson _)) rfl

theorem Reference.ofJson?_yields : Yields ofJson? fun r => r.scope < UInt32.size := fun _ =>
  .skip fun _ => .skip fun _ => .skip fun _ => .skip fun _ =>
    .bind (.required Decoder.index_yields) fun _ hs => .skip fun _ => .some hs

/-! ## Bindings -/

/-- The numbers of the locals that it speaks of have at most 32 bits. -/
def Meaning.Fits : Meaning → Prop
  | .global _ => True
  | .loc index => index < UInt32.size
  | .dynamic _ _ candidates => ∀ i ∈ candidates, i < UInt32.size

def Binding.Fits (b : Binding) : Prop := ∀ m ∈ b.meaning, m.Fits

variable (form : Json.Form)

theorem Meaning.ofJson?_toJson {m : Meaning} (h : m.Fits) : ofJson? form m.toJson = some m := by
  cases m with
  | global id => rfl
  | loc index => exact andThen rfl (andThen (Decoder.index_ofNat h) rfl)
  | dynamic name globalsFirst candidates =>
    have hc := Decoder.list_ofList fun i hi => Decoder.index_ofNat (h i hi)
    exact andThen rfl <| andThen rfl <| andThen (required_of rfl (Identifier.ofJson?_toJson name)) <|
      andThen (required_of rfl rfl) <| andThen (required_of rfl hc) rfl

theorem Meaning.ofJson?_yields : Yields (ofJson? form) Meaning.Fits := by
  intro j
  refine .skip fun choice => ?_
  split
  · exact .skip fun _ => .some trivial
  · exact .bind (Decoder.index_yields _) fun _ hi => .some hi
  · exact .skip fun _ => .skip fun _ => .skip fun _ =>
      .bind (.required (Decoder.list_yields_mem Decoder.index_yields)) fun _ hc => .some hc
  · exact .none

theorem Binding.ofJson?_toJson {b : Binding} (h : b.Fits) : ofJson? form b.toJson = some b := by
  have hm := Decoder.nullable_ofOption rfl fun m hm => Meaning.ofJson?_toJson form (h m hm)
  exact andThen rfl <| andThen (required_of rfl (Identifier.ofJson?_toJson _)) <| andThen (nullable_of rfl hm) <|
    andThen (required_of rfl (Location.ofJson?_toJson _)) rfl

theorem Binding.ofJson?_yields : Yields (ofJson? form) Binding.Fits := fun _ =>
  .skip fun _ => .skip fun _ => .bind (.nullable (Meaning.ofJson?_yields form)) fun _ hm => .skip fun _ => .some hm

/-! ## Problems and frames -/

theorem Problem.ofJson?_toJson (p : Problem) : ofJson? form p.toJson = some p := by
  have hf : Fault.ofJson? form p.fault.toJson = some p.fault := by cases p.fault <;> rfl
  exact andThen rfl <| andThen (required_of rfl (Location.ofJson?_toJson _)) <| andThen (required_of rfl hf) rfl

def Scope.Frame.Fits (f : Frame) : Prop :=
  f.id < UInt32.size ∧ (∀ p ∈ f.parent, p < UInt32.size) ∧ ∀ i ∈ f.locals, i < UInt32.size

theorem Scope.Frame.ofJson?_toJson {f : Frame} (h : f.Fits) : ofJson? f.toJson = some f := by
  have hp := Decoder.nullable_ofOption rfl fun p hp => Decoder.index_ofNat (h.2.1 p hp)
  have hl := Decoder.list_ofList fun i hi => Decoder.index_ofNat (h.2.2 i hi)
  exact andThen rfl <| andThen (required_of rfl (Decoder.index_ofNat h.1)) <| andThen (nullable_of rfl hp) <|
    andThen (required_of rfl (FrameKind.ofJson?_toJson _)) <| andThen (required_of rfl hl) rfl

theorem Scope.Frame.ofJson?_yields : Yields ofJson? Frame.Fits := fun _ =>
  .skip fun _ => .bind (.required Decoder.index_yields) fun _ hi =>
    .bind (.nullable Decoder.index_yields) fun _ hp => .skip fun _ =>
    .bind (.required (Decoder.list_yields_mem Decoder.index_yields)) fun _ hl => .some ⟨hi, hp, hl⟩

theorem Scope.Tree.ofJson?_toJson {t : Tree} (h : ∀ f ∈ t.frames, f.Fits) : ofJson? t.toJson = some t :=
  andThen rfl <| andThen (required_of rfl (Decoder.list_ofList fun f hf => Frame.ofJson?_toJson (h f hf))) rfl

theorem Scope.Tree.ofJson?_yields : Yields ofJson? fun t => ∀ f ∈ t.frames, f.Fits := fun _ =>
  .skip fun _ => .bind (.required (Decoder.list_yields_mem Frame.ofJson?_yields)) fun _ hf => .some hf

end NestedQuery
