import Contracts.Proofs.Weaving.Registration

/-!
# What a call checks

A call runs the units of all declarations of its name, in the order in which the scan registered
them. Each unit validates the arguments at the positions of the parameters that it covers, so a
call comes down to a list of single checks that can be read off the marked declarations.
-/

namespace Contracts

variable {V : Type} [Validator V] {α β : Type}

/-- A validation that a call makes. -/
structure Check where
  validator : Nat
  parameter : String
  value : Value

namespace Check

/-- Make checks in order, up to the first failure. -/
def runAll (store : Store V) (target : Option Value) : List Check → Outcome × Store V
  | [] => (.ok (), store)
  | check :: rest =>
    let judged := Validator.validate (store check.validator) target check.value check.parameter
    match judged.1 with
    | .error e => (.error e, store.set check.validator judged.2)
    | .ok () => runAll (store.set check.validator judged.2) target rest

/-- Checks that follow each other are made one behind the other, unless the first ones fail. -/
theorem runAll_append (store : Store V) (target : Option Value) (checks more : List Check) :
    runAll store target (checks ++ more) =
      match runAll store target checks with
      | (.error e, next) => (.error e, next)
      | (.ok (), next) => runAll next target more := by
  induction checks generalizing store with
  | nil => rfl
  | cons check rest ih =>
    rw [List.cons_append, runAll, runAll]
    cases (Validator.validate (store check.validator) target check.value check.parameter).1 with
    | error e => rfl
    | ok u => exact ih _

end Check

/-- The checks of a unit: its validator on every covered parameter. -/
def Interception.checks (arguments : List Value) (i : Interception) : List Check :=
  i.joinPoint.covered.map fun p => ⟨i.validator, p.name, argument arguments p⟩

/-- A validator that runs on parameters makes a check for each of them. -/
theorem Validator.run_eq_runAll (store : Store V) (id : Nat) (target : Option Value)
    (arguments : List Value) (parameters : List ParameterRef) :
    Validator.run store id target arguments parameters =
      Check.runAll store target (parameters.map fun p => ⟨id, p.name, argument arguments p⟩) := by
  induction parameters generalizing store with
  | nil => rfl
  | cons p rest ih =>
    rw [List.map_cons, Check.runAll, Validator.run]
    dsimp only
    cases (Validator.validate (store id) target (argument arguments p) p.name).1 with
    | error e => rfl
    | ok u => exact ih _

/-- Units that run on arguments make their checks, unit after unit. -/
theorem WeavePlan.checkAll_eq_runAll (store : Store V) (target : Option Value)
    (arguments : List Value) (plan : WeavePlan) :
    plan.checkAll store target arguments =
      Check.runAll store target (plan.flatMap (Interception.checks arguments)) := by
  induction plan generalizing store with
  | nil => rfl
  | cons i rest ih =>
    have hunit : i.check store target arguments =
        Check.runAll store target (i.checks arguments) :=
      Validator.run_eq_runAll store i.validator target arguments i.joinPoint.covered
    rw [List.flatMap_cons, Check.runAll_append, checkAll, hunit]
    obtain ⟨outcome, next⟩ := Check.runAll store target (i.checks arguments)
    cases outcome with
    | error e => rfl
    | ok u => exact ih next

/-- The checks of a marked method in a call of it: one for each admitted validator of a parameter,
on the argument at the parameter's position, and for each admitted validator of the method one on
the argument at every position. An argument that is missing is absent. -/
def MethodDecl.checks (m : MethodDecl (Nat × Bool)) (arguments : List Value) : List Check :=
  (m.parameters.zipIdx.flatMap fun (p, position) =>
    (Attribute.admitted p.attributes).map fun id =>
      ⟨id, p.name, arguments[position]?.getD .null⟩) ++
    (Attribute.admitted m.attributes).flatMap fun id =>
      m.parameters.zipIdx.map fun (p, position) =>
        ⟨id, p.name, arguments[position]?.getD .null⟩

/-- The checks of a marked property in a call of its setter, on the first argument. -/
def PropertyDecl.checks (p : PropertyDecl (Nat × Bool)) (arguments : List Value) : List Check :=
  (Attribute.admitted p.attributes).map fun id => ⟨id, "value", arguments[0]?.getD .null⟩

/-- The units of plans behind each other are woven behind each other. -/
theorem WeavePlan.ofMethod_append (plan more : WeavePlan) (type name : String) :
    ofMethod (plan ++ more) type name = plan.ofMethod type name ++ more.ofMethod type name :=
  List.filter_append plan more

/-- The units of the plans of items are woven item after item. -/
theorem WeavePlan.ofMethod_flatMap (items : List α) (f : α → WeavePlan) (type name : String) :
    ofMethod (items.flatMap f) type name = items.flatMap fun a => (f a).ofMethod type name :=
  List.filter_flatMap

/-- Units before the body of one method are woven into its calls and into no others. -/
theorem WeavePlan.checks_ofMethod_bodies (method : MethodRef)
    (covered : Option (List ParameterRef)) (ids : List Nat) (type name : String)
    (arguments : List Value) :
    (ofMethod (ids.map (⟨.methodBody method covered, ·⟩)) type name).flatMap
        (Interception.checks arguments) =
      if method.is type name then
        ids.flatMap fun id => Interception.checks arguments ⟨.methodBody method covered, id⟩
      else [] := by
  rw [ofMethod, List.filter_map]
  -- The condition is the same for all of the units.
  change ((ids.filter fun _ => method.is type name).map _).flatMap _ = _
  cases method.is type name with
  | true => rw [List.filter_eq_self.mpr fun _ _ => rfl, List.flatMap_map, if_pos rfl]
  | false => rw [List.filter_eq_nil_iff.mpr fun _ _ => Bool.false_ne_true]; rfl

/-- Units before a static initializer are woven into no call. -/
theorem WeavePlan.ofMethod_wholes (method : MethodRef) (declaringType : String) (ids : List Nat)
    (type name : String) :
    ofMethod (ids.flatMap fun id =>
        [⟨.methodBody method none, id⟩, ⟨.staticInitializer declaringType, id⟩]) type name =
      ofMethod (ids.map (⟨.methodBody method none, ·⟩)) type name := by
  induction ids with
  | nil => rfl
  | cons id rest ih =>
    simp only [ofMethod, List.flatMap_cons, List.map_cons, List.filter_append, List.filter_cons,
      List.filter_nil, JoinPoint.isBodyOf] at ih ⊢
    rw [ih]
    split
    · rfl
    · rfl

/-- The positions and names of parameters, numbered in order. -/
theorem ParameterRef.number_names (start : Nat) (parameters : List (ParameterDecl α)) :
    number start (parameters.map (·.name)) =
      (parameters.zipIdx start).map fun (p, position) => ⟨position, p.name⟩ := by
  induction parameters generalizing start with
  | nil => rfl
  | cons p rest ih => simp only [List.map_cons, number, List.zipIdx_cons, ih]

/-- A call makes the checks of a marked method if it is a call of this method. -/
theorem MethodDecl.checks_units (m : MethodDecl (Nat × Bool)) (type name : String)
    (arguments : List Value) :
    (WeavePlan.ofMethod m.units type name).flatMap (Interception.checks arguments) =
      if m.reference.is type name then m.checks arguments else [] := by
  have hparameter (x : ParameterDecl (Nat × Bool) × Nat) :
      (WeavePlan.ofMethod (x.1.units m.reference x.2) type name).flatMap
          (Interception.checks arguments) =
        if m.reference.is type name then
          (Attribute.admitted x.1.attributes).map fun id =>
            ⟨id, x.1.name, arguments[x.2]?.getD .null⟩
        else [] := by
    rw [ParameterDecl.units, WeavePlan.checks_ofMethod_bodies, List.map_eq_flatMap]
    rfl
  have hwhole (id : Nat) : Interception.checks arguments ⟨.methodBody m.reference none, id⟩ =
      m.parameters.zipIdx.map fun (p, position) =>
        ⟨id, p.name, arguments[position]?.getD .null⟩ := by
    change (ParameterRef.number 0 (m.parameters.map (·.name))).map _ = _
    rw [ParameterRef.number_names, List.map_map]
    rfl
  rw [units, WeavePlan.ofMethod_append, WeavePlan.ofMethod_flatMap, WeavePlan.ofMethod_wholes,
    List.flatMap_append, List.flatMap_assoc, WeavePlan.checks_ofMethod_bodies]
  simp only [hparameter, hwhole]
  cases m.reference.is type name with
  | true => rfl
  | false => simp

/-- A call makes the checks of a marked property if it is a call of its setter. -/
theorem PropertyDecl.checks_units (p : PropertyDecl (Nat × Bool)) (type name : String)
    (arguments : List Value) :
    (WeavePlan.ofMethod p.units type name).flatMap (Interception.checks arguments) =
      if p.writable && p.setterRef.is type name then p.checks arguments else [] := by
  rw [units]
  cases p.writable with
  | true =>
    rw [if_pos rfl, WeavePlan.checks_ofMethod_bodies, checks, List.map_eq_flatMap]
    rfl
  | false => rfl

/-- A scan registers the admitted validators of all declarations and nothing else, in the order of
the declarations, and a call makes the checks of all declarations of its name, in the same order:
for a method those of its parameters and then its own, for a writable property that of the new
value. -/
theorem Declarations.scan_eq_mark (d : Declarations) (store : Store V) :
    let scan := d.scan store
    let marked := d.mark store
    marked.methods.map (MethodDecl.map Prod.fst) = d.methods ∧
      marked.properties.map (PropertyDecl.map Prod.fst) = d.properties ∧
      scan.store = marked.store ∧
      scan.plan = marked.methods.flatMap MethodDecl.units ++
        marked.properties.flatMap PropertyDecl.units ∧
      ∀ (later : Store V) type name target arguments,
        scan.plan.checkCall later type name target arguments =
          Check.runAll later target
            (((marked.methods.filter fun m => m.declaringType == type && m.name == name).flatMap
                fun m => m.checks arguments) ++
              (marked.properties.filter fun p =>
                  p.writable && (p.declaringType == type && "set_" ++ p.name == name)).flatMap
                fun p => p.checks arguments) := by
  have hscan := planAll_steps d store
  have hplan := congrArg Prod.fst hscan
  have hstore := congrArg Prod.snd hscan
  dsimp only [ScanStep.planAll] at hplan hstore
  refine ⟨?_, ?_, hstore, hplan, ?_⟩
  · have hmethods := Store.map_thread _ _ id (MethodDecl.map_fst_mark d.catalogue) store d.methods
    rwa [List.map_id] at hmethods
  · have hproperties := Store.map_thread _ _ id (PropertyDecl.map_fst_mark d.catalogue)
      (Store.thread (MethodDecl.mark d.catalogue) store d.methods).2 d.properties
    rwa [List.map_id] at hproperties
  · intro later type name target arguments
    rw [WeavePlan.checkCall, WeavePlan.checkAll_eq_runAll]
    change Check.runAll later target ((WeavePlan.ofMethod
      (ScanStep.runAll d.catalogue store d.steps).plan type name).flatMap _) = _
    rw [hplan, WeavePlan.ofMethod_append, WeavePlan.ofMethod_flatMap, WeavePlan.ofMethod_flatMap,
      List.flatMap_append, List.flatMap_assoc, List.flatMap_assoc]
    simp only [MethodDecl.checks_units, PropertyDecl.checks_units, flatMap_ite_nil]
    rfl

end Contracts
