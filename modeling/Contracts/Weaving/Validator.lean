import Contracts.Annotation.SelfCheck

/-!
# Validators

A validator checks itself against the sites it would guard, and judges values at them. Both may
leave it changed. Several declarations may carry the same validator, so declarations refer to
validators by number, and a store holds the validator of every number.
-/

namespace Contracts

/-- A type of validators. -/
class Validator (V : Type) where
  /-- The name of the rule with its configuration. -/
  describe : V → String
  /-- Check the validator at a site: what happened, and the validator afterwards. -/
  selfCheck : V → Site → Catalogue → Trace × V
  /-- Judge a value of a named parameter, on a target if the call has one: the outcome, and the
  validator afterwards. -/
  validate : V → Option Value → Value → String → Outcome × V

instance : Validator Annotation where
  describe a := a.rule.describe
  selfCheck := Annotation.selfCheck
  validate a _ value parameter := (a.judge value parameter, a.settle)

/-- The validator of every number. -/
abbrev Store (V : Type) := Nat → V

namespace Store

variable {V : Type}

/-- Replace the validator of a number. -/
def set (store : Store V) (id : Nat) (validator : V) : Store V :=
  fun n => if n = id then validator else store n

@[simp] theorem set_same (store : Store V) (id : Nat) (v : V) : store.set id v id = v := by
  simp [set]

@[simp] theorem set_other (store : Store V) {id n : Nat} (v : V) (h : n ≠ id) :
    store.set id v n = store n := by simp [set, h]

/-- The store of a list of validators, numbered from zero. -/
def ofList (validators : List V) (default : V) : Store V :=
  fun n => validators.getD n default

end Store

end Contracts
