/-
Laws of reading. What is written reads back: numbers of the right size, lists, and values that may be null. And what a
reader gives is as the readers of its parts say: `Yields` says that a reader gives values of one kind only, whatever
it is given.
-/
import NestedQuery.Json.Decode

namespace NestedQuery

namespace Json

/-! ## Nesting

A part nests less deep than the whole. -/

theorem depth_obj_lt {members : List (String × Json)} {n : Nat} :
    (Json.obj members).depth < n ↔ depthMembers members < n - 1 :=
  Nat.lt_sub_iff_add_lt.symm

theorem depth_arr_lt {items : List Json} {n : Nat} : (Json.arr items).depth < n ↔ depthItems items < n - 1 :=
  Nat.lt_sub_iff_add_lt.symm

theorem depthMembers_cons_lt {name : String} {j : Json} {members : List (String × Json)} {n : Nat} :
    depthMembers ((name, j) :: members) < n ↔ j.depth < n ∧ depthMembers members < n :=
  Nat.max_lt

theorem depthItems_cons_lt {j : Json} {items : List Json} {n : Nat} :
    depthItems (j :: items) < n ↔ j.depth < n ∧ depthItems items < n :=
  Nat.max_lt

end Json

namespace Decoder

variable {α : Type}

/-! ## Reading back -/

theorem index_ofNat {n : Nat} (h : n < UInt32.size) : index (.ofNat n) = some n := by
  have hn : (0 ≤ (n : Int) && (n : Int) < ((0x100000000 : Nat) : Int)) = true := by
    unfold UInt32.size at h
    simp only [Bool.and_eq_true, decide_eq_true_eq]
    omega
  unfold index natBelow Json.ofNat
  simp only
  rw [if_pos hn, Int.toNat_natCast]

theorem uint32_ofNat (n : UInt32) : uint32 (.ofNat n.toNat) = some n := by
  unfold uint32
  rw [index_ofNat n.toNat_lt, Option.map_some, Nat.toUInt32_eq, UInt32.ofNat_toNat]

theorem int64_toInt (n : Int64) : int64 (.int n.toInt) = some n := by
  have hle := n.le_toInt
  have hlt := n.toInt_lt
  have hn : (-0x8000000000000000 ≤ n.toInt && n.toInt < 0x8000000000000000) = true := by
    simp only [Bool.and_eq_true, decide_eq_true_eq]
    omega
  show (if _ then some (Int64.ofInt n.toInt) else none) = some n
  rw [if_pos hn, Int64.ofInt_toInt]

theorem list_cons {item : Decoder α} {j : Json} {js : List Json} {a : α} {as : List α} (h : item j = some a)
    (hs : list item (.arr js) = some as) : list item (.arr (j :: js)) = some (a :: as) := by
  unfold list at hs ⊢
  simp only at hs ⊢
  rw [List.mapM_cons, h, hs]
  rfl

theorem list_ofList {item : Decoder α} {write : α → Json} {as : List α} (h : ∀ a ∈ as, item (write a) = some a) :
    list item (.ofList write as) = some as := by
  induction as with
  | nil => rfl
  | cons a as ih =>
    exact list_cons (h a List.mem_cons_self) (ih fun b hb => h b (List.mem_cons_of_mem a hb))

/-- A reader that refuses null reads its value also where null is allowed. -/
theorem nullable_some {value : Decoder α} (hnull : value .null = none) {j : Json} {a : α} (h : value j = some a) :
    value.nullable j = some (some a) := by
  cases j with
  | null => rw [hnull] at h; cases h
  | _ => exact congrArg (Option.map some) h

theorem nullable_ofOption {value : Decoder α} {write : α → Json} (hnull : value .null = none) {x : Option α}
    (h : ∀ a ∈ x, value (write a) = some a) : value.nullable (.ofOption write x) = some x := by
  cases x with
  | none => rfl
  | some a => exact nullable_some hnull (h a rfl)

/-! ## Reading in steps -/

theorem andThen {β : Type} {x : Option α} {a : α} {f : α → Option β} {b : β} (hx : x = some a) (hf : f a = some b) :
    x >>= f = some b := by
  rw [hx]
  exact hf

section Fields

variable {r : Json.Record} {name : String} {j : Json} {value : Decoder α} (hj : r.field? name = some j)

include hj

theorem required_of {a : α} (h : value j = some a) : r.required name value = some a := by
  unfold Json.Record.required
  rw [hj]
  exact h

theorem withDefault_of {default a : α} (h : value j = some a) : r.withDefault name default value = some a := by
  unfold Json.Record.withDefault
  rw [hj]
  exact h

theorem optional_of {x : Option α} (h : value.nullable j = some x) : r.optional name value = some x :=
  withDefault_of hj h

theorem nullable_of {x : Option α} (h : value.nullable j = some x) : r.nullable name value = some x := by
  unfold Json.Record.nullable
  rw [hj]
  exact h

end Fields

/-! ## What readers give -/

/-- Whatever is read has the property. -/
def Gives (x : Option α) (P : α → Prop) : Prop := ∀ a, x = some a → P a

/-- Whatever the reader gives has the property. -/
def Yields (value : Decoder α) (P : α → Prop) : Prop := ∀ j, Gives (value j) P

namespace Gives

variable {β : Type} {x : Option α} {f : α → Option β} {P : α → Prop} {Q : β → Prop}

theorem none : Gives Option.none P := fun _ h => nomatch h

theorem some {a : α} (h : P a) : Gives (some a) P := fun _ ha => Option.some.inj ha ▸ h

theorem bind (hx : Gives x P) (hf : ∀ a, P a → Gives (f a) Q) : Gives (x >>= f) Q := by
  intro b h
  obtain ⟨a, ha, hb⟩ := Option.bind_eq_some_iff.1 h
  exact hf a (hx a ha) b hb

/-- A part that says nothing about the whole. -/
theorem skip (hf : ∀ a, Gives (f a) Q) : Gives (x >>= f) Q :=
  bind (P := fun _ => True) (fun _ _ => trivial) fun a _ => hf a

theorem map {g : α → β} (hx : Gives x P) (hg : ∀ a, P a → Q (g a)) : Gives (x.map g) Q := by
  intro b h
  obtain ⟨a, ha, rfl⟩ := Option.map_eq_some_iff.1 h
  exact hg a (hx a ha)

end Gives

theorem index_yields : Yields index (· < UInt32.size) := by
  intro j n h
  cases j with
  | int value =>
    unfold index natBelow at h
    simp only at h
    split at h
    · next hn =>
      cases h
      simp only [Bool.and_eq_true, decide_eq_true_eq] at hn
      unfold UInt32.size
      omega
    · cases h
  | _ => cases h

section

variable {value : Decoder α} {P : α → Prop} (hv : Yields value P)

include hv

/-- A property of lists that holds step by step holds of what is read as a list. -/
theorem list_yields {Q : List α → Prop} (nil : Q []) (cons : ∀ a as, P a → Q as → Q (a :: as)) :
    Yields (list value) Q := by
  intro j
  cases j with
  | arr items =>
    show Gives (items.mapM value) Q
    induction items with
    | nil => exact .some nil
    | cons item items ih =>
      rw [List.mapM_cons]
      exact .bind (hv item) fun a ha => .bind ih fun as has => .some (cons a as ha has)
  | _ => exact .none

theorem list_yields_mem : Yields (list value) fun as => ∀ a ∈ as, P a := by
  refine list_yields hv (List.forall_mem_nil P) fun a as ha has => ?_
  exact List.forall_mem_cons.2 ⟨ha, has⟩

theorem nullable_yields : Yields value.nullable fun x => ∀ a ∈ x, P a := by
  have hsome : ∀ j, Gives ((value j).map Option.some) fun x => ∀ a ∈ x, P a :=
    fun j => (hv j).map fun a ha b hb => Option.some.inj hb ▸ ha
  intro j
  cases j with
  | null => exact .some fun a ha => nomatch ha
  | _ => exact hsome _

variable {r : Json.Record} {name : String}

theorem Gives.required : Gives (r.required name value) P := by
  intro a h
  obtain ⟨j, -, h⟩ := Option.bind_eq_some_iff.1 h
  exact hv j a h

theorem Gives.nullable : Gives (r.nullable name value) fun x => ∀ a ∈ x, P a := by
  unfold Json.Record.nullable
  split
  · exact nullable_yields hv _
  · split
    · exact .none
    · exact .some fun a ha => nomatch ha

end

end Decoder

/-! ## Codecs -/

/-- A form of values in JSON: how they are written, how they are read, and which of them can be exchanged. What can be
exchanged reads back as it was, and all that is read can be exchanged. -/
structure Codec (α : Type) where
  write : α → Json
  read : Json.Form → Decoder α
  Fits : α → Prop
  reads : ∀ form {a : α}, Fits a → read form (write a) = some a
  yields : ∀ form, Decoder.Yields (read form) Fits

end NestedQuery
