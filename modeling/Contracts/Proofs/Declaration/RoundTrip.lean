import Contracts.Manifest.Basic
import Contracts.Proofs.Json.Printing
import Contracts.Proofs.Json.Reordering

/-!
# Declarations that are read back

Every declaration is written as a document without numbers, nested three containers deep at most,
so it comes back from the text of the document as well as from the document itself. A type is read
back as it was. Methods and properties are read back without attributes, which are not written, so
it does not matter how attributes are read.
-/

namespace Contracts

open Json (Decoder Record RecordField Variant IsPlain)

namespace Json

variable {α : Type} {json : Json} {a : α}

/-- Decoding a text that holds one document is decoding the document. -/
theorem decodeText_of_ofText {text : String} (h : Document.ofText text = ⟨json, false⟩)
    (decoder : Decoder α) : decodeText decoder text = decoder .stream json := by
  rw [decodeText, h]
  cases decoder .stream json <;> rfl

/-- Something is read back from its document, whichever way the document is passed on. -/
structure Restores (decoder : Decoder α) (json : Json) (a : α) : Prop where
  /-- As text on one line. -/
  compact : decodeText decoder json.toCompact = .ok a
  /-- As text over several lines. -/
  indented : decodeText decoder json.toIndented = .ok a
  /-- As a document of any source, the members of its objects in any order. -/
  document : ∀ source moved, json.Reorders moved → decoder source moved = .ok a

/-- What is read from a plain document is read from its texts. -/
theorem Decoder.Reads.restores {decoder : Decoder α} (h : decoder.Reads json a) {depth : Nat}
    (hplain : json.IsPlain depth) (hdepth : depth ≤ deepest) : Restores decoder json a where
  compact := by
    rw [decodeText_of_ofText (ofText_toCompact hplain hdepth)]
    exact h .stream json (.refl json)
  indented := by
    rw [decodeText_of_ofText (ofText_toIndented hplain hdepth)]
    exact h .stream json (.refl json)
  document := h

end Json

/-! ### Types -/

/-- A capability is read from its document. -/
theorem Capability.reads_toJson (c : Capability) : Capability.decoder.Reads c.toJson c := by
  cases c with
  | collectionOf element =>
    exact Variant.reads_content rfl ((Decoder.reads_text element).map Capability.collectionOf)
  | _ => exact Variant.reads_unit rfl

/-- A shape is read from its document. -/
theorem TypeShape.reads_toJson (s : TypeShape) : TypeShape.decoder.Reads s.toJson s := by
  cases s with
  | reference => exact Variant.reads_unit rfl
  | value => exact Variant.reads_unit rfl
  | optional inner =>
    exact Variant.reads_content rfl ((Decoder.reads_text inner).map TypeShape.optional)
  | capability c => exact Variant.reads_content rfl (c.reads_toJson.map TypeShape.capability)

/-- A type is read from its document. -/
theorem TypeDecl.reads_toJson (d : TypeDecl) : TypeDecl.decoder.Reads d.toJson d := by
  have hcapabilities : (Decoder.list Capability.decoder).Reads
      (.array (d.implemented.map Capability.toJson)) d.implemented := by
    simpa using Decoder.Reads.list Capability.reads_toJson d.implemented
  refine Record.reads_object (.cons (Record.fills_of rfl (Decoder.reads_text d.name))
    (.cons (Record.fills_of rfl d.shape.reads_toJson)
      (.cons (Record.fills_of rfl hcapabilities) .nil))) (by simp) ?_ (by simp) rfl
  simp [TypeDecl.record, RecordField.of]

/-- The document of a capability holds at most a name in an object. -/
theorem Capability.isPlain_toJson (c : Capability) : c.toJson.IsPlain 1 := by
  cases c with
  | collectionOf element => exact .object (by simpa using .word (.text element))
  | _ => exact .word (.text _)

/-- The document of a shape holds at most a capability in an object. -/
theorem TypeShape.isPlain_toJson (s : TypeShape) : s.toJson.IsPlain 2 := by
  cases s with
  | reference => exact .word (.text _)
  | value => exact .word (.text _)
  | optional inner => exact .object (by simpa using .word (.text inner))
  | capability c => exact .object (by simpa using c.isPlain_toJson)

/-- The document of a type is plain. -/
theorem TypeDecl.isPlain_toJson (d : TypeDecl) : d.toJson.IsPlain 3 := by
  have hcapabilities : IsPlain 2 (.array (d.implemented.map Capability.toJson)) :=
    .array (List.forall_mem_map.mpr fun c _ => c.isPlain_toJson)
  refine .object ?_
  simpa using ⟨.word (.text d.name), d.shape.isPlain_toJson, hcapabilities⟩

/-! ### Members -/

variable {α β : Type}

/-- A parameter without its attributes. -/
def ParameterDecl.bare (p : ParameterDecl α) : ParameterDecl β :=
  { name := p.name, type := p.type, attributes := [] }

/-- A method without its attributes and those of its parameters. -/
def MethodDecl.bare (m : MethodDecl α) : MethodDecl β :=
  { name := m.name
    declaringType := m.declaringType
    parameters := m.parameters.map ParameterDecl.bare
    attributes := [] }

/-- A property without its attributes. -/
def PropertyDecl.bare (p : PropertyDecl α) : PropertyDecl β :=
  { name := p.name
    declaringType := p.declaringType
    type := p.type
    writable := p.writable
    attributes := [] }

/-- A parameter is read from its document without its attributes. -/
theorem ParameterDecl.reads_toJson (item : Decoder (Attribute β)) (p : ParameterDecl α) :
    (ParameterDecl.record item).decoder.Reads p.toJson p.bare := by
  refine Record.reads_object (.cons (Record.fills_of rfl (Decoder.reads_text p.name))
    (.cons (Record.fills_of rfl (Decoder.reads_text p.type)) .nil)) (by simp) ?_ (by simp) rfl
  simp [ParameterDecl.record, RecordField.of]

/-- A method is read from its document without attributes. -/
theorem MethodDecl.reads_toJson (item : Decoder (Attribute β)) (m : MethodDecl α) :
    (MethodDecl.record item).decoder.Reads m.toJson m.bare := by
  have hparameters := Decoder.Reads.list (ParameterDecl.reads_toJson item) m.parameters
  refine Record.reads_object (.cons (Record.fills_of rfl (Decoder.reads_text m.name))
    (.cons (Record.fills_of rfl (Decoder.reads_text m.declaringType))
      (.cons (Record.fills_of rfl hparameters) .nil))) (by simp) ?_ (by simp) rfl
  simp [MethodDecl.record, RecordField.of]

/-- A property is read from its document without its attributes. -/
theorem PropertyDecl.reads_toJson (item : Decoder (Attribute β)) (p : PropertyDecl α) :
    (PropertyDecl.record item).decoder.Reads p.toJson p.bare := by
  refine Record.reads_object (.cons (Record.fills_of rfl (Decoder.reads_text p.name))
    (.cons (Record.fills_of rfl (Decoder.reads_text p.declaringType))
      (.cons (Record.fills_of rfl (Decoder.reads_text p.type))
        (.cons (Record.fills_of rfl (Decoder.reads_bool p.writable)) .nil))))
    (by simp) ?_ (by simp) rfl
  simp [PropertyDecl.record, RecordField.of]

/-- The document of a parameter is plain. -/
theorem ParameterDecl.isPlain_toJson (p : ParameterDecl α) : p.toJson.IsPlain 1 := by
  refine .object ?_
  simpa using ⟨.word (.text p.name), .word (.text p.type)⟩

/-- The document of a method is plain. -/
theorem MethodDecl.isPlain_toJson (m : MethodDecl α) : m.toJson.IsPlain 3 := by
  have hparameters : IsPlain 2 (.array (m.parameters.map ParameterDecl.toJson)) :=
    .array (List.forall_mem_map.mpr fun p _ => p.isPlain_toJson)
  refine .object ?_
  simpa using ⟨.word (.text m.name), .word (.text m.declaringType), hparameters⟩

/-- The document of a property is plain. -/
theorem PropertyDecl.isPlain_toJson (p : PropertyDecl α) : p.toJson.IsPlain 1 := by
  refine .object ?_
  simpa using ⟨.word (.text p.name), .word (.text p.declaringType), .word (.text p.type),
    .word (.bool p.writable)⟩

/-- Writing and reading declarations. A type is read back from its document as it was, whatever its
name, its shape and its capabilities. A method and a property are read back with all that they are
but their attributes and those of the parameters, however attributes are read otherwise. -/
theorem restores_declarations (item : Decoder (Attribute β)) :
    (∀ d : TypeDecl, Json.Restores TypeDecl.decoder d.toJson d) ∧
      (∀ m : MethodDecl α, Json.Restores (MethodDecl.record item).decoder m.toJson m.bare) ∧
      ∀ p : PropertyDecl α, Json.Restores (PropertyDecl.record item).decoder p.toJson p.bare := by
  refine ⟨fun d => ?_, fun m => ?_, fun p => ?_⟩
  · exact d.reads_toJson.restores d.isPlain_toJson (by decide)
  · exact (m.reads_toJson item).restores m.isPlain_toJson (by decide)
  · exact (p.reads_toJson item).restores p.isPlain_toJson (by decide)

/-- The text of an abstract collection whose element type has a name with quotes in it. -/
example : (TypeDecl.toJson ⟨"Bag", .capability (.collectionOf "\"A\""), [.ordered]⟩).toCompact =
    "\x7b\"name\":\"Bag\"," ++
      "\"shape\":\x7b\"capability\":\x7b\"collection_of\":\"\\\"A\\\"\"\x7d\x7d," ++
      "\"capabilities\":[\"ordered\"]\x7d" := by
  decide

end Contracts
