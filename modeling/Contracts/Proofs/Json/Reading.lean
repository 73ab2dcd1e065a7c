import Contracts.Json.Reader
import Contracts.Proofs.Parts

/-!
# Numbers in documents that were read

Every number in a document that was read from a text is a number: reading rounds, and refuses what
is too large, but a text has no way to write what is no number. The words that a text is cut into
bring such numbers only, and the containers that are open, and those that were closed, hold nothing
else.
-/

namespace Contracts

namespace Binary64

/-- Parts of a number are put together to a number. -/
theorem ofParts_ne_nan (negative : Bool) (significand scale : Nat) :
    ofParts negative significand scale ≠ .nan := by
  unfold ofParts
  split
  · exact nofun
  · exact nofun

/-- A quotient is rounded to a number. -/
theorem ofQuotient_ne_nan (negative : Bool) (n d : Nat) : ofQuotient negative n d ≠ .nan := by
  unfold ofQuotient
  dsimp only
  split
  · exact ofParts_ne_nan _ _ _
  · exact ofParts_ne_nan _ _ _

/-- A product is rounded to a number. -/
theorem scaleUp_ne_nan (x y : Dyadic) : scaleUp x y ≠ .nan := ofQuotient_ne_nan _ _ _

/-- A quotient of two numbers is rounded to a number. -/
theorem scaleDown_ne_nan (x y : Dyadic) : scaleDown x y ≠ .nan := ofQuotient_ne_nan _ _ _

end Binary64

namespace Json

/-- Every number in a document is a number. -/
def IsNumeric (json : Json) : Prop := Everywhere (· ≠ .real .nan) json

/-- What holds nothing is numeric unless it is no number itself. -/
theorem isNumeric_leaf {json : Json} (hleaf : json.children = [])
    (h : json ≠ .real .nan) : json.IsNumeric :=
  (everywhere_leaf hleaf).mpr h

/-- An array is numeric if its items are. -/
theorem isNumeric_array {items : List Json} (h : ∀ item ∈ items, item.IsNumeric) :
    (array items).IsNumeric :=
  everywhere_array.mpr ⟨nofun, h⟩

/-- An object is numeric if the values of its members are. -/
theorem isNumeric_object {members : List (String × Json)}
    (h : ∀ member ∈ members, member.2.IsNumeric) : (object members).IsNumeric :=
  everywhere_object.mpr ⟨nofun, h⟩

/-- A place without a value holds no number. -/
theorem isNumeric_unreadable (wellFormed : Bool) : (unreadable wellFormed).IsNumeric :=
  isNumeric_leaf rfl nofun

/-- What is left of a container that could not be read counts for nothing. -/
theorem isNumeric_torn (container : Json) (wellFormed : Bool) :
    (torn container wellFormed).IsNumeric :=
  isNumeric_leaf rfl nofun

/-- A number is numeric. -/
theorem isNumeric_real {x : Binary64} (h : x ≠ .nan) : (real x).IsNumeric :=
  isNumeric_leaf rfl (by simpa using h)

namespace Number

/-- Dividing by a power of ten gives a number. -/
theorem divide_ne_nan (fuel : Nat) (x : Dyadic) (exponent : Nat) :
    divide fuel x exponent ≠ .nan := by
  induction fuel generalizing x exponent with
  | zero => simp [divide]
  | succ fuel ih =>
    rw [divide]
    have hstep := Binary64.scaleDown_ne_nan x (power 308)
    generalize Binary64.scaleDown x (power 308) = y at hstep ⊢
    split
    · exact nofun
    · split
      · exact Binary64.scaleDown_ne_nan _ _
      · cases y with
        | nan => contradiction
        | infinite negative => exact nofun
        | finite y => exact ih y _

/-- A coefficient and a power of ten give a number, if they give anything. -/
theorem isNumeric_combine (negative : Bool) (coefficient : Nat) (exponent : Int) :
    (combine negative coefficient exponent).IsNumeric := by
  unfold combine
  generalize Binary64.ofQuotient negative coefficient 1 = q
  cases q with
  | nan => exact isNumeric_unreadable true
  | infinite negative => exact isNumeric_unreadable true
  | finite x =>
    dsimp only [onFinite]
    split
    · split
      · exact isNumeric_real nofun
      · split
        · split
          · exact isNumeric_real (Binary64.scaleUp_ne_nan _ _)
          · exact isNumeric_unreadable true
        · exact isNumeric_unreadable true
    · exact isNumeric_real (divide_ne_nan _ _ _)

/-- A number without fraction and exponent is a number. -/
theorem isNumeric_whole (negative : Bool) (coefficient : Nat) :
    (whole negative coefficient).IsNumeric := by
  unfold whole
  split
  · split
    · exact isNumeric_real (Binary64.ofQuotient_ne_nan _ _ _)
    · exact isNumeric_leaf rfl nofun
  · exact isNumeric_leaf rfl nofun

/-- What is read is what was found, with the characters that it takes. -/
theorem isNumeric_of_eq_some {found json : Json} {n used : Nat} (hfound : found.IsNumeric)
    (h : some (found, n) = some (json, used)) : json.IsNumeric := by
  obtain ⟨rfl, -⟩ := Prod.mk.inj (Option.some.inj h)
  exact hfound

/-- What is read as a number is one. -/
theorem isNumeric_of_read {text : List Char} {json : Json} {used : Nat}
    (h : read text = some (json, used)) : json.IsNumeric := by
  unfold read at h
  -- only the last step makes a number, whatever has been read before it
  extract_lets negative body front lead rest used₀ hasFraction fraction tail exponent rest₁ used₁
    at h
  clear_value negative body front lead rest hasFraction fraction tail exponent rest₁ used₁
  obtain ⟨-, -, h⟩ := Option.bind_eq_some_iff.mp h
  obtain ⟨-, -, h⟩ := Option.bind_eq_some_iff.mp h
  obtain ⟨-, -, h⟩ := Option.bind_eq_some_iff.mp h
  by_cases hexponent : (rest₁.head? == some 'e' || rest₁.head? == some 'E') = true
  · rw [if_pos hexponent] at h
    obtain ⟨-, -, h⟩ := Option.bind_eq_some_iff.mp h
    split at h
    · split at h
      · exact isNumeric_of_eq_some (isNumeric_real (Binary64.ofParts_ne_nan _ _ _)) h
      · exact isNumeric_of_eq_some (isNumeric_unreadable true) h
    · exact isNumeric_of_eq_some (isNumeric_combine _ _ _) h
  · rw [if_neg hexponent] at h
    split at h
    · exact isNumeric_of_eq_some (isNumeric_combine _ _ _) h
    · exact isNumeric_of_eq_some (isNumeric_whole _ _) h

end Number

namespace Token

/-- Every number in a word is a number. -/
def IsNumeric : Token → Prop
  | .scalar value => value.IsNumeric
  | _ => True

/-- A literal is numeric if its value is. -/
theorem isNumeric_literal {rest tail : List Char} {value : Json} (h : value.IsNumeric) :
    (if rest.take tail.length = tail then (scalar value, tail.length)
      else (unknown, 0)).1.IsNumeric := by
  split
  · exact h
  · trivial

/-- The word at the front of a text is numeric. -/
theorem isNumeric_first (c : Char) (rest : List Char) : (first c rest).1.IsNumeric := by
  unfold first
  dsimp only
  split
  · trivial
  · trivial
  · trivial
  · trivial
  · trivial
  · trivial
  · exact isNumeric_literal (isNumeric_leaf rfl nofun)
  · exact isNumeric_literal (isNumeric_leaf rfl nofun)
  · exact isNumeric_literal (isNumeric_leaf rfl nofun)
  · split
    · exact isNumeric_leaf rfl nofun
    · trivial
    · trivial
  · split
    case h_1 value used hread => exact Number.isNumeric_of_read hread
    case h_2 => trivial

/-- All words of a text are numeric. -/
theorem isNumeric_of_mem_cut {text : List Char} : ∀ token ∈ cut text, token.IsNumeric := by
  induction text using cut.induct with
  | case1 => simp [cut]
  | case2 c rest hblank ih => rwa [cut, if_pos hblank]
  | case3 c rest hblank used hfirst =>
    simp only [cut, hblank, hfirst]
    simp [IsNumeric]
  | case4 c rest hblank token used hunknown hfirst ih =>
    have hnumeric : token.IsNumeric := by
      simpa only [hfirst] using isNumeric_first c rest
    rw [cut, if_neg hblank, hfirst]
    simp only [List.forall_mem_cons]
    exact ⟨hnumeric, ih⟩

end Token

section Containers

variable {outer : List Frame} {items : List Json}

/-- A closed array is numeric if its items are. -/
theorem isNumeric_arrayWithin (outer : List Frame) (wellFormed : Bool)
    (h : ∀ item ∈ items, item.IsNumeric) : (arrayWithin outer items wellFormed).IsNumeric := by
  unfold arrayWithin
  split
  · exact isNumeric_torn _ _
  · exact isNumeric_array h

/-- Every number in an open object is a number. -/
def OpenObject.IsNumeric (o : OpenObject) : Prop := ∀ member ∈ o.members, member.2.IsNumeric

variable {o : OpenObject}

/-- A member that is numeric may be added. -/
theorem OpenObject.IsNumeric.add (h : o.IsNumeric) (name : String) {value : Json}
    (hvalue : value.IsNumeric) : (o.add name value).IsNumeric := by
  unfold OpenObject.add
  split
  · exact List.forall_mem_cons.mpr ⟨hvalue, h⟩
  · exact h

/-- A closed object is numeric if what it keeps is. -/
theorem OpenObject.IsNumeric.within (h : o.IsNumeric) (outer : List Frame) (wellFormed : Bool) :
    (o.within outer wellFormed).IsNumeric := by
  unfold OpenObject.within
  split
  · exact isNumeric_torn _ _
  · split
    · exact isNumeric_object fun member hmember => h member (List.mem_reverse.mp hmember)
    · exact isNumeric_torn _ _

/-- Every number in a frame is a number. -/
def Frame.IsNumeric : Frame → Prop
  | .array items => ∀ item ∈ items, item.IsNumeric
  | .object o _ => o.IsNumeric

/-- Closing all frames leaves a numeric document. -/
theorem isNumeric_abandon {broken : Json} (hbroken : broken.IsNumeric)
    (h : ∀ frame ∈ outer, frame.IsNumeric) : (abandon broken outer).IsNumeric := by
  induction outer generalizing broken with
  | nil => exact hbroken
  | cons frame outer ih =>
    obtain ⟨hframe, houter⟩ := List.forall_mem_cons.mp h
    cases frame with
    | array items =>
      refine ih (isNumeric_arrayWithin outer false fun item hitem => ?_) houter
      rcases List.mem_append.mp hitem with hold | hnew
      · exact hframe item (List.mem_reverse.mp hold)
      · rwa [List.mem_singleton.mp hnew]
    | object o name => exact ih ((hframe.add name hbroken).within outer false) houter

end Containers

namespace Progress

/-- Every number that has been read is a number. -/
def IsNumeric : Progress → Prop
  | .value outer => ∀ frame ∈ outer, frame.IsNumeric
  | .item outer => ∀ frame ∈ outer, frame.IsNumeric
  | .member outer => ∀ frame ∈ outer, frame.IsNumeric
  | .name o outer => o.IsNumeric ∧ ∀ frame ∈ outer, frame.IsNumeric
  | .colon o _ outer => o.IsNumeric ∧ ∀ frame ∈ outer, frame.IsNumeric
  | .next v outer => v.IsNumeric ∧ ∀ frame ∈ outer, frame.IsNumeric
  | .stopped root => root.IsNumeric
  | .surplus root => root.IsNumeric

variable {outer : List Frame} {token : Token}

/-- A value starts with a numeric word. -/
theorem isNumeric_start (h : ∀ frame ∈ outer, frame.IsNumeric) (htoken : token.IsNumeric) :
    (start outer token).IsNumeric := by
  unfold start
  split
  · exact ⟨htoken, h⟩
  · exact ⟨isNumeric_unreadable true, h⟩
  · exact h
  · exact h
  · exact isNumeric_abandon (isNumeric_unreadable false) h

/-- A name holds no number. -/
theorem isNumeric_named {o : OpenObject} (ho : o.IsNumeric)
    (h : ∀ frame ∈ outer, frame.IsNumeric) (token : Token) :
    (named o outer token).IsNumeric := by
  unfold named
  split
  · exact ⟨ho, h⟩
  · exact ⟨ho, h⟩
  · exact isNumeric_abandon (isNumeric_torn _ _) h

/-- A numeric word leaves what has been read numeric. -/
theorem IsNumeric.step {progress : Progress} (h : progress.IsNumeric) (htoken : token.IsNumeric) :
    (progress.step token).IsNumeric := by
  have hempty : OpenObject.IsNumeric {} := nofun
  unfold Progress.step
  split
  · exact isNumeric_start h htoken
  · exact ⟨isNumeric_arrayWithin _ true nofun, h⟩
  · exact isNumeric_start (List.forall_mem_cons.mpr ⟨nofun, h⟩) htoken
  · exact ⟨hempty.within _ true, h⟩
  · exact isNumeric_named hempty h _
  · exact isNumeric_named h.1 h.2 _
  · exact List.forall_mem_cons.mpr h
  · exact isNumeric_abandon (isNumeric_unreadable false) (List.forall_mem_cons.mpr h)
  · obtain ⟨hvalue, hframes⟩ := h
    obtain ⟨hitems, houter⟩ := List.forall_mem_cons.mp hframes
    exact List.forall_mem_cons.mpr ⟨List.forall_mem_cons.mpr ⟨hvalue, hitems⟩, houter⟩
  · obtain ⟨hvalue, hframes⟩ := h
    obtain ⟨hitems, houter⟩ := List.forall_mem_cons.mp hframes
    refine ⟨isNumeric_arrayWithin _ true fun item hitem => ?_, houter⟩
    exact List.forall_mem_cons.mpr ⟨hvalue, hitems⟩ item (List.mem_reverse.mp hitem)
  · exact isNumeric_abandon (isNumeric_torn _ _) (List.forall_mem_cons.mp h.2).2
  · obtain ⟨hvalue, hframes⟩ := h
    obtain ⟨hobject, houter⟩ := List.forall_mem_cons.mp hframes
    exact ⟨OpenObject.IsNumeric.add hobject _ hvalue, houter⟩
  · obtain ⟨hvalue, hframes⟩ := h
    obtain ⟨hobject, houter⟩ := List.forall_mem_cons.mp hframes
    exact ⟨(OpenObject.IsNumeric.add hobject _ hvalue).within _ true, houter⟩
  · exact isNumeric_abandon (isNumeric_torn _ _) (List.forall_mem_cons.mp h.2).2
  · exact h.1
  · exact h
  · exact h

/-- What is left at the end of a text is numeric. -/
theorem IsNumeric.finish {progress : Progress} (h : progress.IsNumeric) :
    progress.finish.root.IsNumeric := by
  unfold Progress.finish
  split
  · exact h.1
  · exact isNumeric_abandon (isNumeric_torn _ _) (List.forall_mem_cons.mp h.2).2
  · exact isNumeric_abandon (isNumeric_torn _ _) (List.forall_mem_cons.mp h.2).2
  · exact isNumeric_abandon (isNumeric_unreadable false) h
  · exact isNumeric_abandon (isNumeric_torn _ _) h
  · exact isNumeric_abandon (isNumeric_torn _ _) h
  · exact isNumeric_abandon (isNumeric_torn _ _) h.2
  · exact isNumeric_abandon (isNumeric_unreadable false) (List.forall_mem_cons.mpr h)
  · exact h
  · exact h

/-- Numeric words leave what has been read numeric. -/
theorem IsNumeric.foldl_step {progress : Progress} (h : progress.IsNumeric) {tokens : List Token}
    (htokens : ∀ token ∈ tokens, token.IsNumeric) :
    (tokens.foldl Progress.step progress).IsNumeric := by
  induction tokens generalizing progress with
  | nil => exact h
  | cons token tokens ih =>
    obtain ⟨hfirst, hrest⟩ := List.forall_mem_cons.mp htokens
    exact ih (h.step hfirst) hrest

end Progress

/-- Every number in what has been read of a text is a number. -/
theorem isNumeric_ofText (text : String) : (Document.ofText text).root.IsNumeric := by
  have hstart : Progress.IsNumeric (.value []) := nofun
  exact (hstart.foldl_step Token.isNumeric_of_mem_cut).finish

/-- A text that was read is a document to its end, and the document is readable. -/
theorem ofText_of_read? {text : String} {json : Json} (h : read? text = some json) :
    Document.ofText text = ⟨json, false⟩ ∧ json.readable = true := by
  unfold read? at h
  dsimp only at h
  split at h
  case isTrue => contradiction
  case isFalse hfault =>
    rw [Bool.or_eq_true, not_or, Bool.not_eq_true, Bool.not_eq_true', Bool.not_eq_false] at hfault
    obtain ⟨hend, hreadable⟩ := hfault
    rw [← Option.some.inj h, ← hend]
    exact ⟨rfl, hreadable⟩

/-- Every number in a document that was read is a number. -/
theorem isNumeric_of_read? {text : String} {json : Json} (h : read? text = some json) :
    json.IsNumeric := by
  have hnumeric := isNumeric_ofText text
  rwa [(ofText_of_read? h).1] at hnumeric

end Json

end Contracts
