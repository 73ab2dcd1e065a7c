import Contracts.Json.Decode

/-!
# What decoders yield

A property that the parts of a document give to what is decoded from them is carried from the parts
to lists, records and variants: a record yields what its blank draft has and every field keeps.
-/

namespace Contracts.Json

/-- A sequence of steps succeeds only if the first one does and the rest does on its result. -/
theorem Decoded.of_bind_eq_ok {α β : Type} {step : Decoded α} {next : α → Decoded β} {b : β}
    (h : (step >>= next) = .ok b) : ∃ a, step = .ok a ∧ next a = .ok b := by
  cases step with
  | ok a => exact ⟨a, rfl, h⟩
  | error e => contradiction

/-- Nothing comes of steps that end with an error. -/
theorem Decoded.bind_error_ne_ok {α β : Type} (step : Decoded α) (e : Mismatch) (b : β) :
    (step >>= fun _ => .error e) ≠ .ok b := by
  intro h
  obtain ⟨_, -, hnone⟩ := of_bind_eq_ok h
  contradiction

/-- A mapped result comes from a result. -/
theorem Decoded.of_map_eq_ok {α β : Type} {f : α → β} {decoded : Decoded α} {b : β}
    (h : decoded.map f = .ok b) : ∃ a, decoded = .ok a ∧ f a = b := by
  cases decoded with
  | ok a => exact ⟨a, rfl, Except.ok.inj h⟩
  | error e => contradiction

/-- A document of the wrong type is decoded to nothing. -/
theorem refuse_ne_ok {α : Type} (json : Json) (wanted : String) (a : α) :
    json.refuse wanted ≠ .ok a := by
  unfold refuse
  split
  · exact nofun
  · exact nofun

/-- A variant that is found is one of the variants, and has the name. -/
theorem Variant.mem_of_find_eq_ok {α : Type} {variants : List (Variant α)} {name : String}
    {variant : Variant α} (h : Variant.find variants name = .ok variant) :
    variant ∈ variants ∧ variant.name = name := by
  unfold Variant.find at h
  split at h
  · rename_i found hfound
    obtain rfl := Except.ok.inj h
    have hname := List.find?_some hfound
    exact ⟨List.mem_of_find?_eq_some hfound, beq_iff_eq.mp hname⟩
  · contradiction

namespace Decoder

variable {α : Type}

/-- Everything that a decoder yields has a property. -/
def Yields (decoder : Decoder α) (P : α → Prop) : Prop :=
  ∀ source json a, decoder source json = .ok a → P a

/-- Items that are decoded one by one all have the property of a single one. -/
theorem Yields.mapM {decoder : Decoder α} {P : α → Prop} (h : decoder.Yields P) {source : Source}
    {items : List Json} {decoded : List α} (hdecoded : items.mapM (decoder source) = .ok decoded) :
    ∀ a ∈ decoded, P a := by
  induction items generalizing decoded with
  | nil =>
    cases hdecoded
    exact fun a ha => nomatch ha
  | cons item rest ih =>
    rw [List.mapM_cons] at hdecoded
    obtain ⟨first, hfirst, hrest⟩ := Decoded.of_bind_eq_ok hdecoded
    obtain ⟨others, hothers, hall⟩ := Decoded.of_bind_eq_ok hrest
    cases hall
    intro a ha
    rcases List.mem_cons.mp ha with rfl | hlater
    · exact h source item a hfirst
    · exact ih hothers a hlater

/-- A list yields items with the property of a single one. -/
theorem Yields.list {decoder : Decoder α} {P : α → Prop} (h : decoder.Yields P) :
    (Decoder.list decoder).Yields fun decoded => ∀ a ∈ decoded, P a := by
  intro source json decoded hdecoded
  unfold Decoder.list at hdecoded
  split at hdecoded
  · exact h.mapM hdecoded
  · exact absurd hdecoded (Decoded.bind_error_ne_ok _ _ _)
  · exact absurd hdecoded (refuse_ne_ok _ _ _)

end Decoder

variable {δ : Type}

/-- A field keeps a property of drafts, whatever is put into it. -/
def RecordField.Keeps (field : RecordField δ) (P : δ → Prop) : Prop :=
  ∀ source json put, field.read source json = .ok put → ∀ draft, P draft → P (put draft)

/-- A field keeps a property that what its decoder yields does not break. -/
theorem RecordField.keeps_of {α : Type} {decoder : Decoder α} {P : δ → Prop} {Q : α → Prop}
    {name : String} {required : Bool} {put : α → δ → δ} (h : decoder.Yields Q)
    (hput : ∀ a draft, Q a → P draft → P (put a draft)) :
    (RecordField.of name required decoder put).Keeps P := by
  intro source json put' hread draft hdraft
  obtain ⟨a, ha, rfl⟩ := Decoded.of_map_eq_ok hread
  exact hput a draft (h source json a ha) hdraft

/-- A field keeps a property that it has no part in. -/
theorem RecordField.keeps_of_same {α : Type} {decoder : Decoder α} {P : δ → Prop} {name : String}
    {required : Bool} {put : α → δ → δ} (hput : ∀ a draft, P draft → P (put a draft)) :
    (RecordField.of name required decoder put).Keeps P :=
  keeps_of (Q := fun _ => True) (fun _ _ _ _ => trivial) fun a draft _ => hput a draft

namespace Record

variable {r : Record δ} {P : δ → Prop}

/-- Members keep what all fields keep. -/
theorem keeps_readMembers (h : ∀ field ∈ r.fields, field.Keeps P) {source : Source}
    {members : List (String × Json)} {seen seen' : List String} {draft draft' : δ}
    (hread : r.readMembers source members seen draft = .ok (seen', draft')) (hdraft : P draft) :
    P draft' := by
  induction members generalizing seen draft with
  | nil =>
    cases hread
    exact hdraft
  | cons member rest ih =>
    obtain ⟨name, json⟩ := member
    unfold readMembers at hread
    split at hread
    · split at hread
      · contradiction
      · split at hread
        · exact ih hread hdraft
        · contradiction
    · rename_i field hfield
      split at hread
      · contradiction
      · split at hread
        · contradiction
        · rename_i put hput
          have hmem := List.mem_of_find?_eq_some hfield
          exact ih hread (h field hmem source json put hput draft hdraft)

/-- Items keep what all fields keep. -/
theorem keeps_readItems {fields : List (RecordField δ)} (h : ∀ field ∈ fields, field.Keeps P)
    {source : Source} {items items' : List Json} {count : Nat} {draft draft' : δ}
    (hread : r.readItems source fields items count draft = .ok (items', draft'))
    (hdraft : P draft) : P draft' := by
  induction fields generalizing items count draft with
  | nil =>
    cases hread
    exact hdraft
  | cons field rest ih =>
    have hrest : ∀ later ∈ rest, later.Keeps P := fun later hlater =>
      h later (List.mem_cons_of_mem _ hlater)
    cases items with
    | nil =>
      unfold readItems at hread
      split at hread
      · contradiction
      · exact ih hrest hread hdraft
    | cons item others =>
      unfold readItems at hread
      split at hread
      · contradiction
      · rename_i put hput
        exact ih hrest hread (h field List.mem_cons_self source item put hput draft hdraft)

/-- A record yields what its blank draft has and all its fields keep. -/
theorem yields (hblank : P r.blank) (h : ∀ field ∈ r.fields, field.Keeps P) :
    r.decoder.Yields P := by
  intro source json draft hdecoded
  unfold decoder at hdecoded
  split at hdecoded
  · unfold ofMembers at hdecoded
    split at hdecoded
    · contradiction
    · rename_i hread
      split at hdecoded
      · contradiction
      · cases hdecoded
        exact keeps_readMembers h hread hblank
  · unfold ofItems at hdecoded
    split at hdecoded
    · contradiction
    · rename_i hread
      cases hdecoded
      exact keeps_readItems h hread hblank
    · rename_i hread
      have hkept := keeps_readItems h hread hblank
      split at hdecoded
      all_goals first | contradiction | (cases hdecoded; exact hkept)
  · exact absurd hdecoded (Decoded.bind_error_ne_ok _ _ _)
  · exact absurd hdecoded (Decoded.bind_error_ne_ok _ _ _)
  · exact absurd hdecoded (refuse_ne_ok _ _ _)

end Record

end Contracts.Json
