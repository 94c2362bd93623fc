/-
All that is exchanged reads back as it was: statements, plans, compilations and catalogs. So a document that was read
may be replaced by what is written for its value, whether it gave its records as objects or by position, left fields
to their defaults or held members that nobody reads.
-/
import NestedQuery.Catalog.Document
import NestedQuery.Logical.Build
import NestedQuery.Proofs.Catalog.Registration
import NestedQuery.Proofs.Exchange.Plan
import NestedQuery.Proofs.Exchange.Syntax
import NestedQuery.Sample.Statements

namespace NestedQuery

open Decoder (andThen required_of withDefault_of optional_of nullable_of)

/-- What fits reads back as it was written, in either form. And whatever value was read, in whatever way it was given,
reads back from what is written for it. -/
structure RoundTrips {α : Type} (fits : α → Prop) (write : α → Json) (read : Json.Form → Decoder α) : Prop where
  read_write : ∀ form a, fits a → read form (write a) = some a
  read_again : ∀ form form' j a, read form j = some a → read form' (write a) = some a

theorem Codec.roundTrips {α : Type} (c : Codec α) : RoundTrips c.Fits c.write c.read where
  read_write form _ h := c.reads form h
  read_again form form' j a h := c.reads form' (c.yields form j a h)

/-! ## Plans -/

def Reference.codec : Codec Reference where
  write := toJson
  read _ := ofJson?
  Fits r := r.scope < UInt32.size
  reads _ _ h := ofJson?_toJson h
  yields _ := ofJson?_yields

def Binding.codec : Codec Binding where
  write := toJson
  read := ofJson?
  Fits := Fits
  reads form _ h := ofJson?_toJson form h
  yields := ofJson?_yields

/-- All numbers of locals and of frames have at most 32 bits. -/
structure LogicalPlan.Fits (p : LogicalPlan) : Prop where
  statement : Plan.Fit (·.scope < UInt32.size) p.statement.decls p.statement.vars
  locals : ∀ l ∈ p.locals, l.index < UInt32.size
  frames : ∀ f ∈ p.scopes.frames, f.Fits

def LogicalPlan.codec : Codec LogicalPlan where
  write := toJson
  read := ofJson?
  Fits := Fits
  reads form _ h :=
    andThen rfl <| andThen (required_of rfl ((Plan.Statement.codec Reference.codec).reads form h.statement)) <|
      andThen (required_of rfl (Decoder.list_ofList fun l hl => Local.ofJson?_toJson (h.locals l hl))) <|
      andThen (required_of rfl (Scope.Tree.ofJson?_toJson h.frames)) rfl
  yields form _ :=
    .skip fun _ => .bind (.required ((Plan.Statement.codec Reference.codec).yields form)) fun _ hs =>
      .bind (.required (Decoder.list_yields_mem Local.ofJson?_yields)) fun _ hl =>
      .bind (.required Scope.Tree.ofJson?_yields) fun _ hf => .some ⟨hs, hl, hf⟩

structure ResolvedPlan.Fits (p : ResolvedPlan) : Prop where
  statement : Plan.Fit Binding.Fits p.statement.decls p.statement.vars
  locals : ∀ l ∈ p.locals, l.index < UInt32.size

def ResolvedPlan.codec : Codec ResolvedPlan where
  write := toJson
  read := ofJson?
  Fits := Fits
  reads form _ h :=
    andThen rfl <| andThen (required_of rfl ((Plan.Statement.codec Binding.codec).reads form h.statement)) <|
      andThen (required_of rfl (Decoder.list_ofList fun l hl => Local.ofJson?_toJson (h.locals l hl))) rfl
  yields form _ :=
    .skip fun _ => .bind (.required ((Plan.Statement.codec Binding.codec).yields form)) fun _ hs =>
      .bind (.required (Decoder.list_yields_mem Local.ofJson?_yields)) fun _ hl => .some ⟨hs, hl⟩

/-! ## Compilations and statements -/

structure Compilation.Fits (c : Compilation) : Prop where
  resolved : Plan.Fit Binding.Fits c.resolved.decls c.resolved.vars
  locals : ∀ l ∈ c.locals, l.index < UInt32.size
  physical : ∀ s ∈ c.physical, Plan.Fit Binding.Fits s.decls s.vars

def Compilation.codec : Codec Compilation where
  write := toJson
  read := ofJson?
  Fits := Fits
  reads form _ h := by
    have hphysical := Decoder.nullable_ofOption rfl fun s hs =>
      (Plan.Statement.codec Binding.codec).reads form (h.physical s hs)
    exact andThen rfl <| andThen (required_of rfl ((Plan.Statement.codec Binding.codec).reads form h.resolved)) <|
      andThen (required_of rfl (Decoder.list_ofList fun l hl => Local.ofJson?_toJson (h.locals l hl))) <|
      andThen (nullable_of rfl hphysical) <|
      andThen (required_of rfl (Decoder.list_ofList fun p _ => Problem.ofJson?_toJson form p)) rfl
  yields form _ := by
    have hstatement := (Plan.Statement.codec Binding.codec).yields form
    exact .skip fun _ => .bind (.required hstatement) fun _ hr =>
      .bind (.required (Decoder.list_yields_mem Local.ofJson?_yields)) fun _ hl =>
      .bind (.nullable hstatement) fun _ hp => .skip fun _ => .some ⟨hr, hl, hp⟩

def Syntax.Statement.codec : Codec Syntax.Statement where
  write := toJson
  read := ofJson?
  Fits _ := True
  reads form s _ := ofJson?_toJson form s
  yields _ _ _ _ := trivial

/-! ## Catalogs -/

theorem CatalogEntry.ofJson?_toJson (e : CatalogEntry) : ofJson? e.toJson = some e := by
  have htext : ∀ x : Option String, Decoder.nullable Decoder.string (.ofOption .str x) = some x :=
    fun x => Decoder.nullable_ofOption rfl fun _ _ => rfl
  exact andThen rfl <| andThen (required_of rfl rfl) <| andThen (optional_of rfl (htext _)) <|
    andThen (optional_of rfl (htext _)) <| andThen (withDefault_of rfl (EntityKind.ofJson?_toJson _)) <|
    andThen (optional_of rfl (htext _)) rfl

theorem Catalog.entriesOfJson?_toJson (c : Catalog) : entriesOfJson? c.toJson = some c.entries :=
  andThen rfl (withDefault_of rfl (Decoder.list_ofList fun e _ => CatalogEntry.ofJson?_toJson e))

def Catalog.codec : Codec Catalog where
  write := toJson
  read _ j := (entriesOfJson? j).map Catalog.mk
  Fits _ := True
  reads _ c _ := congrArg (Option.map Catalog.mk) (entriesOfJson?_toJson c)
  yields _ _ _ _ := trivial

/-! ## The exchange -/

/-- Statements, plans, compilations and catalogs read back as they were written. A catalog of a list of entries is also
accepted again: its entries can be registered once more, and give the same catalog. -/
theorem exchange_roundTrips :
    RoundTrips (fun _ => True) Syntax.Statement.toJson Syntax.Statement.ofJson? ∧
    RoundTrips LogicalPlan.Fits LogicalPlan.toJson LogicalPlan.ofJson? ∧
    RoundTrips ResolvedPlan.Fits ResolvedPlan.toJson ResolvedPlan.ofJson? ∧
    RoundTrips Compilation.Fits Compilation.toJson Compilation.ofJson? ∧
    RoundTrips (fun _ => True) Catalog.toJson (fun _ j => (Catalog.entriesOfJson? j).map Catalog.mk) ∧
    ∀ entries c, Catalog.ofEntries entries = .ok c →
      (Catalog.entriesOfJson? c.toJson).map Catalog.ofEntries = some (.ok c) := by
  refine ⟨Syntax.Statement.codec.roundTrips, LogicalPlan.codec.roundTrips, ResolvedPlan.codec.roundTrips,
    Compilation.codec.roundTrips, Catalog.codec.roundTrips, ?_⟩
  intro entries c h
  rw [Catalog.entriesOfJson?_toJson, Catalog.entries_of_ofEntries h, Option.map_some, h]

theorem exchange_roundTrips_ordersWithItems :
    (LogicalPlan.build Sample.ordersWithItems).1.Fits ∧ ∀ form,
      LogicalPlan.ofJson? form (LogicalPlan.build Sample.ordersWithItems).1.toJson =
        some (LogicalPlan.build Sample.ordersWithItems).1 := by
  have hdecls : ∀ d ∈ (LogicalPlan.build Sample.ordersWithItems).1.statement.decls, d.index < UInt32.size := by decide
  have hvars : ∀ v ∈ (LogicalPlan.build Sample.ordersWithItems).1.statement.vars, v.scope < UInt32.size := by decide
  have hframes : ∀ f ∈ (LogicalPlan.build Sample.ordersWithItems).1.scopes.frames, f.Fits := by
    unfold Scope.Frame.Fits
    decide
  have hfits : (LogicalPlan.build Sample.ordersWithItems).1.Fits := ⟨⟨hdecls, hvars⟩, by decide, hframes⟩
  exact ⟨hfits, fun form => exchange_roundTrips.2.1.read_write form _ hfits⟩

end NestedQuery
