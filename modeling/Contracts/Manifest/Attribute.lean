import Contracts.Annotation.Basic
import Contracts.Declaration.Member
import Contracts.Json.Decode
import Contracts.Value.Json

/-!
# Attributes in manifests

An attribute is a record of one of several kinds. Which fields it has depends on the kind, which
may stand anywhere among them, so the other fields are set aside until it is known. An attribute
may also be written as a list, the kind first.
-/

namespace Contracts

open Json (Decoder Decoded RecordField Record Variant)

/-- The variants of boundary modes. -/
def BoundaryMode.variants : List (Variant BoundaryMode) :=
  [.unit "inclusive" .inclusive, .unit "exclusive" .exclusive]

/-- Decode a boundary mode. -/
def BoundaryMode.decoder : Decoder BoundaryMode := Variant.decoder BoundaryMode.variants

/-- The record of pattern options. Fields of other names are passed over. -/
def PatternOptions.record : Record PatternOptions where
  title := "struct PatternOptions"
  blank := {}
  strict := false
  fields := [
    .of "case_insensitive" false Decoder.bool fun b o => { o with caseInsensitive := b },
    .of "multi_line" false Decoder.bool fun b o => { o with multiLine := b },
    .of "dot_matches_new_line" false Decoder.bool fun b o => { o with dotMatchesNewLine := b },
    .of "ignore_whitespace" false Decoder.bool fun b o => { o with ignoreWhitespace := b }]

/-- The fields that say how a breach is reported, in a draft that holds them beside the rule. -/
def FailureConfig.fields (ρ : Type) : List (RecordField (ρ × FailureConfig)) := [
  .of "error_type" false (Decoder.optional Decoder.text) fun errorType d =>
    (d.1, { d.2 with errorType }),
  .of "message" false (Decoder.optional Decoder.text) fun message d =>
    (d.1, { d.2 with message })]

/-- A field of a rule, in a draft that holds the rule beside the way to report a breach. -/
def ruleField {ρ α : Type} (name : String) (decoder : Decoder α) (put : α → ρ → ρ) :
    RecordField (ρ × FailureConfig) :=
  .of name false decoder fun a d => (put a d.1, d.2)

/-- The record of a kind of annotation. -/
def annotationRecord {ρ : Type} (name : String) (blank : ρ)
    (fields : List (RecordField (ρ × FailureConfig))) : Record (ρ × FailureConfig) where
  title := "struct variant AttributeConfig::" ++ name
  blank := (blank, {})
  fields := fields ++ FailureConfig.fields ρ

/-- A kind of annotation. -/
def annotationKind {ρ : Type} (kind : String) (record : Record (ρ × FailureConfig))
    (rule : ρ → AnnotationRule) : Variant (Attribute Annotation) :=
  .content kind fun source json =>
    (record.decoder source json).map fun d =>
      .validator { rule := rule d.1, failure := d.2 }

/-- The record of an interval annotation. -/
def IntervalRule.record : Record (IntervalRule × FailureConfig) :=
  annotationRecord "Interval" ⟨.null, .inclusive, .null, .inclusive⟩ [
    ruleField "min" Value.decoder fun min r => { r with min },
    ruleField "min_mode" BoundaryMode.decoder fun minMode r => { r with minMode },
    ruleField "max" Value.decoder fun max r => { r with max },
    ruleField "max_mode" BoundaryMode.decoder fun maxMode r => { r with maxMode }]

/-- The record of a pattern annotation. -/
def PatternRule.record : Record (PatternRule × FailureConfig) :=
  annotationRecord "Pattern" ⟨"", {}⟩ [
    ruleField "pattern" Decoder.text fun pattern r => { r with pattern },
    ruleField "options" PatternOptions.record.decoder fun options r => { r with options }]

/-- The record of an attribute that is no validator. -/
def otherRecord : Record String where
  title := "struct variant AttributeConfig::Other"
  blank := ""
  fields := [.of "name" true Decoder.text fun name _ => name]

/-- The kinds of attributes. -/
def Attribute.kinds : List (Variant (Attribute Annotation)) := [
  annotationKind "not_null" (annotationRecord "NotNull" () []) fun _ => .notNull,
  annotationKind "not_empty" (annotationRecord "NotEmpty" () []) fun _ => .notEmpty,
  annotationKind "interval" IntervalRule.record .interval,
  annotationKind "pattern" PatternRule.record .pattern,
  .content "other" fun source json => (otherRecord.decoder source json).map .other]

namespace Attribute

/-- Decode the kind of an attribute. -/
def kindOf : Json → Decoded (Variant (Attribute Annotation))
  | .text name => Variant.find kinds name
  | json => json.refuse "variant identifier"

/-- Decode an attribute of a known kind from what was set aside. -/
def ofKind (kind : Variant (Attribute Annotation)) (json : Json) :
    Decoded (Attribute Annotation) :=
  match kind with
  | .unit _ value => .ok value
  | .content _ read => read .buffer json

/-- Find the kind among members, and set the others aside. -/
def setAside : List (String × Json) → Option (Variant (Attribute Annotation)) →
    Decoded (Option (Variant (Attribute Annotation)) × List (String × Json))
  | [], kind => .ok (kind, [])
  | (name, json) :: rest, kind =>
    if name = "kind" then
      match kind with
      | some _ => .error (.duplicateField "kind")
      | none => do setAside rest (some (← kindOf json))
    else if json.readable then do
      let (kind, others) ← setAside rest kind
      return (kind, (name, json) :: others)
    else .error .unreadable

/-- Decode an attribute. -/
def decoder : Decoder (Attribute Annotation)
  | _, .object members => do
    match ← setAside members none with
    | (some kind, others) => ofKind kind (.object others)
    | (none, _) => .error (.missingField "kind")
  | _, .array [] => .error (.missingField "kind")
  | _, .array (first :: items) => do
    let kind ← kindOf first
    if items.all Json.readable then ofKind kind (.array items) else .error .unreadable
  | _, .torn (.object members) _ => do
    let _ ← setAside members none
    .error .unreadable
  | _, .torn (.array (first :: _)) _ => do
    let _ ← kindOf first
    .error .unreadable
  | _, .torn (.array []) _ => .error .unreadable
  | _, json => json.refuse "internally tagged enum AttributeConfig"

end Attribute

end Contracts
