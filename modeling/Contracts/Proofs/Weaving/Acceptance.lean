import Contracts.Proofs.Weaving.Calls
import Contracts.Proofs.Weaving.Evolution

/-!
# Calls that are accepted

A call names a type and a method, and the plan is asked for this name alone. A call is therefore
judged by the units of all declarations that have the name, which may be several: methods with other
parameters, and a writable property whose setter is called so. It is judged by no other declaration.
If every unit of these declarations accepts the arguments that it covers, so does the call.
-/

namespace Contracts

variable {V : Type} [Validator V]

/-- Validations bring a validator from one state to another. -/
inductive Validator.Reaches : V → V → Prop
  | refl (v : V) : Reaches v v
  | validate {v w : V} (h : Reaches v w) (target : Option Value) (value : Value) (name : String) :
    Reaches v (Validator.validate w target value name).2

/-- Validations bring the validators of a store to those of another one. -/
def Store.Reaches (s t : Store V) : Prop := ∀ n, Validator.Reaches (s n) (t n)

/-- A unit accepts the arguments that it covers, whatever its validator has validated before. -/
def Interception.Accepts (i : Interception) (store : Store V) (target : Option Value)
    (arguments : List Value) : Prop :=
  ∀ p ∈ i.joinPoint.covered, ∀ v, Validator.Reaches (store i.validator) v →
    (Validator.validate v target (argument arguments p) p.name).1 = .ok ()

/-- Validating with one of the validators reaches another store. -/
theorem Store.Reaches.set {s t : Store V} (h : s.Reaches t) (id : Nat) (target : Option Value)
    (value : Value) (name : String) :
    s.Reaches (t.set id (Validator.validate (t id) target value name).2) := by
  intro n
  by_cases hn : n = id
  · rw [hn, set_same]
    exact (h id).validate target value name
  · rw [set_other t _ hn]
    exact h n

/-- Validations change no judgement of an annotation. -/
theorem Annotation.judge_of_reaches {a b : Annotation} (h : Validator.Reaches a b) (value : Value)
    (name : String) : b.judge value name = a.judge value name := by
  induction h with
  | refl => rfl
  | validate h target value' name' ih => exact (judge_settle _ value name).trans ih

/-- A unit of an annotation accepts the arguments that the annotation accepts as it is. -/
theorem Interception.accepts_iff (i : Interception) (store : Store Annotation)
    (target : Option Value) (arguments : List Value) :
    i.Accepts store target arguments ↔
      ∀ p ∈ i.joinPoint.covered,
        (store i.validator).judge (argument arguments p) p.name = .ok () := by
  constructor
  · intro h p hp
    exact h p hp (store i.validator) (.refl _)
  · intro h p hp v hv
    have hjudged := Annotation.judge_of_reaches hv (argument arguments p) p.name
    exact hjudged.trans (h p hp)

section Runs

variable {start store : Store V} {target : Option Value} {arguments : List Value}

/-- A validator that accepts what it runs on lets the run pass. -/
theorem Validator.run_of_accepts (hstore : start.Reaches store) {id : Nat}
    {parameters : List ParameterRef}
    (h : ∀ p ∈ parameters, ∀ v, Validator.Reaches (start id) v →
      (Validator.validate v target (argument arguments p) p.name).1 = .ok ()) :
    (Validator.run store id target arguments parameters).1 = .ok () ∧
      start.Reaches (Validator.run store id target arguments parameters).2 := by
  induction parameters generalizing store with
  | nil => exact ⟨rfl, hstore⟩
  | cons p rest ih =>
    have hfirst := h p List.mem_cons_self (store id) (hstore id)
    have hnext := hstore.set id target (argument arguments p) p.name
    rw [run_cons]
    simp only [hfirst]
    exact ih hnext fun q hq => h q (List.mem_cons_of_mem _ hq)

/-- Units that accept the arguments let a call pass. -/
theorem WeavePlan.checkAll_of_accepts (hstore : start.Reaches store) {plan : WeavePlan}
    (h : ∀ i ∈ plan, i.Accepts start target arguments) :
    (plan.checkAll store target arguments).1 = .ok () := by
  induction plan generalizing store with
  | nil => rfl
  | cons i rest ih =>
    -- After the first unit all validators are still in states that validations lead to.
    obtain ⟨hfirst, hnext⟩ := Validator.run_of_accepts hstore (h i List.mem_cons_self)
    rw [checkAll_cons]
    unfold Interception.check
    generalize Validator.run store i.validator target arguments i.joinPoint.covered = ran at *
    obtain ⟨outcome, next⟩ := ran
    obtain rfl : outcome = .ok () := hfirst
    exact ih hnext fun j hj => h j (List.mem_cons_of_mem _ hj)

end Runs

/-- A method whose unit stands before the body of a name has this name. -/
theorem MethodDecl.is_of_mem_units {m : MethodDecl (Nat × Bool)} {i : Interception}
    (hi : i ∈ m.units) {type name : String} (hbody : i.joinPoint.isBodyOf type name = true) :
    m.reference.is type name = true := by
  rcases List.mem_append.mp hi with hparameter | hwhole
  · obtain ⟨p, -, hunit⟩ := List.mem_flatMap.mp hparameter
    obtain ⟨id, -, rfl⟩ := List.mem_map.mp hunit
    exact hbody
  · obtain ⟨id, -, hunit⟩ := List.mem_flatMap.mp hwhole
    simp only [List.mem_cons, List.not_mem_nil, or_false] at hunit
    rcases hunit with rfl | rfl
    · exact hbody
    · contradiction

/-- A property whose unit stands before the body of a name has a setter of this name. -/
theorem PropertyDecl.is_of_mem_units {p : PropertyDecl (Nat × Bool)} {i : Interception}
    (hi : i ∈ p.units) {type name : String} (hbody : i.joinPoint.isBodyOf type name = true) :
    p.setterRef.is type name = true := by
  unfold units at hi
  split at hi
  · obtain ⟨id, -, rfl⟩ := List.mem_map.mp hi
    exact hbody
  · contradiction

namespace Declarations

/-- A unit that is woven into the calls of a name stems from a method of this name or from a
property whose setter has it. -/
theorem ofMethod_cases (d : Declarations) (store : Store V) {type name : String} {i : Interception}
    (hi : i ∈ (d.scan store).plan.ofMethod type name) :
    (∃ m ∈ (d.mark store).methods, m.reference.is type name = true ∧ i ∈ m.units) ∨
      ∃ p ∈ (d.mark store).properties, p.setterRef.is type name = true ∧ i ∈ p.units := by
  obtain ⟨hplanned, hbody⟩ := List.mem_filter.mp hi
  have hplan : (d.scan store).plan = (d.mark store).methods.flatMap MethodDecl.units ++
      (d.mark store).properties.flatMap PropertyDecl.units :=
    congrArg Prod.fst (d.planAll_steps store)
  rw [hplan, List.mem_append] at hplanned
  rcases hplanned with hmethod | hproperty
  · obtain ⟨m, hm, hunit⟩ := List.mem_flatMap.mp hmethod
    exact .inl ⟨m, hm, MethodDecl.is_of_mem_units hunit hbody, hunit⟩
  · obtain ⟨p, hp, hunit⟩ := List.mem_flatMap.mp hproperty
    exact .inr ⟨p, hp, PropertyDecl.is_of_mem_units hunit hbody, hunit⟩

/-- A call is judged by the declarations of its name only. If every admitted validator on a method
of this type and name or on its parameters, and on a property whose setter has the name, accepts the
arguments that it covers, then the call is accepted, whatever else is declared. -/
theorem checkCall_of_accepts (d : Declarations) (store later : Store V) (type name : String)
    (target : Option Value) (arguments : List Value)
    (hmethods : ∀ m ∈ (d.mark store).methods, m.reference.is type name = true →
      ∀ i ∈ m.units, i.Accepts later target arguments)
    (hproperties : ∀ p ∈ (d.mark store).properties, p.setterRef.is type name = true →
      ∀ i ∈ p.units, i.Accepts later target arguments) :
    ((d.scan store).plan.checkCall later type name target arguments).1 = .ok () := by
  have hstart : later.Reaches later := fun n => .refl (later n)
  refine WeavePlan.checkAll_of_accepts hstart fun i hi => ?_
  rcases d.ofMethod_cases store hi with ⟨m, hm, his, hunit⟩ | ⟨p, hp, his, hunit⟩
  · exact hmethods m hm his i hunit
  · exact hproperties p hp his i hunit

/-- A call with orders is accepted, whatever is asked of the invoices of another method. -/
theorem checkCall_of_accepts_orders :
    let place : MethodDecl Nat := ⟨"place", "Shop", [⟨"orders", "Orders", [.validator 0]⟩], []⟩
    let settle : MethodDecl Nat :=
      ⟨"settle", "Shop", [⟨"invoices", "Invoices", [.validator 1]⟩], []⟩
    let d : Declarations := ⟨.shop, [place, settle], []⟩
    let store : Store Annotation := fun _ => .fresh .notEmpty {}
    let later := (d.scan store).store
    let arguments := [Value.collection "Order" [.null]]
    (∀ m ∈ (d.mark store).methods, m.reference.is "Shop" "place" = true →
      ∀ i ∈ m.units, i.Accepts later none arguments) ∧
    (∀ p ∈ (d.mark store).properties, p.setterRef.is "Shop" "place" = true →
      ∀ i ∈ p.units, i.Accepts later none arguments) ∧
    ((d.scan store).plan.checkCall later "Shop" "place" none arguments).1 = .ok () ∧
    ((d.scan store).plan.checkCall later "Shop" "settle" none arguments).1 =
      .error (.configuration (.elementTypeMismatch "Invoice" "Order")) := by
  intro place settle d store later arguments
  have hmethods : ∀ m ∈ (d.mark store).methods, m.reference.is "Shop" "place" = true →
      ∀ i ∈ m.units, i.Accepts later none arguments := by
    intro m hm his i hi
    rcases List.mem_cons.mp hm with rfl | hm
    · obtain rfl := List.mem_singleton.mp hi
      refine (Interception.accepts_iff _ later none arguments).mpr fun p hp => ?_
      obtain rfl := List.mem_singleton.mp hp
      rfl
    · obtain rfl := List.mem_singleton.mp hm
      contradiction
  have hproperties : ∀ p ∈ (d.mark store).properties, p.setterRef.is "Shop" "place" = true →
      ∀ i ∈ p.units, i.Accepts later none arguments := fun p hp => nomatch hp
  exact ⟨hmethods, hproperties,
    d.checkCall_of_accepts store later "Shop" "place" none arguments hmethods hproperties,
    rfl⟩

/-- A method without annotations shares its name with one that asks for invoices, and another shares
it with the setter of a property that asks for a value; calls of either are refused. -/
theorem checkCall_homonyms :
    let place : MethodDecl Nat := ⟨"place", "Shop", [⟨"orders", "Orders", []⟩], []⟩
    let overload : MethodDecl Nat := ⟨"place", "Shop",
      [⟨"orders", "Orders", []⟩, ⟨"invoices", "Invoices", [.validator 0]⟩], []⟩
    let setter : MethodDecl Nat := ⟨"set_orders", "Shop", [⟨"orders", "Orders", []⟩], []⟩
    let orders : PropertyDecl Nat := ⟨"orders", "Shop", "Orders", true, [.validator 1]⟩
    let d : Declarations := ⟨.shop, [place, overload, setter], [orders]⟩
    let store : Store Annotation := fun _ => .fresh .notNull {}
    let later := (d.scan store).store
    (∃ m ∈ (d.mark store).methods, m.map Prod.fst = place ∧ m.units = [] ∧ ∃ v,
      ((d.scan store).plan.checkCall later "Shop" "place" none [.collection "Order" []]).1 =
        .error (.violation v)) ∧
    (∃ m ∈ (d.mark store).methods, m.map Prod.fst = setter ∧ m.units = [] ∧ ∃ v,
      ((d.scan store).plan.checkCall later "Shop" "set_orders" none [.null]).1 =
        .error (.violation v)) := by
  intro place overload setter orders d store later
  have hplace : _ ∈ (d.mark store).methods := List.mem_cons_self
  have hsetter : _ ∈ (d.mark store).methods :=
    List.mem_cons_of_mem _ (List.mem_cons_of_mem _ List.mem_cons_self)
  exact ⟨⟨_, hplace, rfl, rfl, _, rfl⟩, ⟨_, hsetter, rfl, rfl, _, rfl⟩⟩

end Declarations

end Contracts
