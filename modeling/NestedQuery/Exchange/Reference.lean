/-
The JSON form of names, places, literals, references, bindings, problems and frames.
-/
import NestedQuery.Exchange.Names
import NestedQuery.Problem

namespace NestedQuery

namespace Location

def toJson (l : Location) : Json :=
  .obj [("line", .ofNat l.line.toNat), ("offset", .ofNat l.offset.toNat)]

def ofJson? : Decoder Location := fun j => do
  let r ← j.record? ["line", "offset"]
  return ⟨← r.required "line" Decoder.uint32, ← r.required "offset" Decoder.uint32⟩

end Location

namespace Identifier

def toJson (i : Identifier) : Json := .obj [("text", .str i.text), ("case", i.case.toJson)]

def ofJson? : Decoder Identifier := fun j => do
  let r ← j.record? ["text", "case"]
  return ⟨← r.required "text" Decoder.string, ← r.required "case" CaseRule.ofJson?⟩

end Identifier

namespace Literal

def toJson : Literal → Json
  | .null => .str "null"
  | .missing => .str "missing"
  | .boolean b => .obj [("boolean", .bool b)]
  | .integer n => .obj [("integer", .int n.toInt)]
  | .float x => .obj [("float", .float x)]
  | .string s => .obj [("string", .str s)]

def ofJson? : Decoder Literal := fun j => do
  let choice ← j.choice?
  match choice.name, choice.content with
  | "null", _ => if choice.isBare then some .null else none
  | "missing", _ => if choice.isBare then some .missing else none
  | "boolean", some c => return .boolean (← Decoder.bool c)
  | "integer", some c => return .integer (← Decoder.int64 c)
  | "float", some c => return .float (← Decoder.double c)
  | "string", some c => return .string (← Decoder.string c)
  | _, _ => none

end Literal

/-! ## Locals and references -/

namespace Local

def toJson (l : Local) : Json := .obj [("name", l.name.toJson), ("index", .ofNat l.index)]

def ofJson? : Decoder Local := fun j => do
  let r ← j.record? ["name", "index"]
  return ⟨← r.required "name" Identifier.ofJson?, ← r.required "index" Decoder.index⟩

end Local

namespace Declaration

def toJson (d : Declaration) : Json :=
  .obj [("name", d.name.toJson), ("index", .ofNat d.index), ("location", d.location.toJson)]

def ofJson? : Decoder Declaration := fun j => do
  let r ← j.record? ["name", "index", "location"]
  return ⟨← r.required "name" Identifier.ofJson?, ← r.required "index" Decoder.index,
    ← r.required "location" Location.ofJson?⟩

end Declaration

namespace Reference

def toJson (r : Reference) : Json :=
  .obj [("name", r.name.toJson), ("qualifier", r.qualifier.toJson), ("position", r.role.toJson),
    ("scope", .ofNat r.scope), ("location", r.location.toJson)]

def ofJson? : Decoder Reference := fun j => do
  let r ← j.record? ["name", "qualifier", "position", "scope", "location"]
  return ⟨← r.required "name" Identifier.ofJson?, ← r.required "qualifier" ScopeQualifier.ofJson?,
    ← r.required "position" Role.ofJson?, ← r.required "scope" Decoder.index,
    ← r.required "location" Location.ofJson?⟩

end Reference

namespace Meaning

def toJson : Meaning → Json
  | .global id => .obj [("global", .str id)]
  | .loc index => .obj [("local", .ofNat index)]
  | .dynamic name globalsFirst candidates =>
    .obj [("dynamic", .obj [("name", name.toJson), ("search_globals_first", .bool globalsFirst),
      ("candidate_locals", .ofList .ofNat candidates)])]

def dynamicOfJson? (form : Json.Form) : Decoder Meaning := fun j => do
  let r ← j.content? form ["name", "search_globals_first", "candidate_locals"]
  return .dynamic (← r.required "name" Identifier.ofJson?)
    (← r.required "search_globals_first" Decoder.bool)
    (← r.required "candidate_locals" (Decoder.list Decoder.index))

def ofJson? (form : Json.Form) : Decoder Meaning := fun j => do
  let choice ← j.choice?
  match choice.name, choice.content with
  | "global", some c => return .global (← Decoder.string c)
  | "local", some c => return .loc (← Decoder.index c)
  | "dynamic", some c => dynamicOfJson? form c
  | _, _ => none

end Meaning

namespace Binding

def toJson (b : Binding) : Json :=
  .obj [("name", b.name.toJson), ("resolved", .ofOption Meaning.toJson b.meaning),
    ("location", b.location.toJson)]

def ofJson? (form : Json.Form) : Decoder Binding := fun j => do
  let r ← j.record? ["name", "resolved", "location"]
  return ⟨← r.required "name" Identifier.ofJson?, ← r.nullable "resolved" (Meaning.ofJson? form),
    ← r.required "location" Location.ofJson?⟩

end Binding

/-! ## Problems -/

namespace Fault

def toJson : Fault → Json
  | .undefinedVariable name caseSensitive =>
    .obj [("undefined_variable", .obj [("name", .str name), ("case_sensitive", .bool caseSensitive)])]
  | .variablePreviouslyDefined name =>
    .obj [("variable_previously_defined", .obj [("name", .str name)])]

def ofJson? (form : Json.Form) : Decoder Fault := fun j => do
  let choice ← j.choice?
  match choice.name, choice.content with
  | "undefined_variable", some c => do
    let r ← c.content? form ["name", "case_sensitive"]
    return .undefinedVariable (← r.required "name" Decoder.string) (← r.required "case_sensitive" Decoder.bool)
  | "variable_previously_defined", some c => do
    let r ← c.content? form ["name"]
    return .variablePreviouslyDefined (← r.required "name" Decoder.string)
  | _, _ => none

end Fault

namespace Problem

def toJson (p : Problem) : Json := .obj [("location", p.location.toJson), ("details", p.fault.toJson)]

def ofJson? (form : Json.Form) : Decoder Problem := fun j => do
  let r ← j.record? ["location", "details"]
  return ⟨← r.required "location" Location.ofJson?, ← r.required "details" (Fault.ofJson? form)⟩

end Problem

/-! ## Frames -/

namespace Scope.Frame

def toJson (f : Frame) : Json :=
  .obj [("id", .ofNat f.id), ("parent", .ofOption .ofNat f.parent), ("kind", f.kind.toJson),
    ("locals", .ofList .ofNat f.locals)]

def ofJson? : Decoder Frame := fun j => do
  let r ← j.record? ["id", "parent", "kind", "locals"]
  return ⟨← r.required "id" Decoder.index, ← r.nullable "parent" Decoder.index,
    ← r.required "kind" FrameKind.ofJson?, ← r.required "locals" (Decoder.list Decoder.index)⟩

end Scope.Frame

namespace Scope.Tree

def toJson (t : Tree) : Json := .obj [("frames", .ofList Frame.toJson t.frames)]

def ofJson? : Decoder Tree := fun j => do
  let r ← j.record? ["frames"]
  return ⟨← r.required "frames" (Decoder.list Frame.ofJson?)⟩

end Scope.Tree

end NestedQuery
