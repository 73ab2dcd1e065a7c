import Mathlib.Data.List.Induction
import Contracts.Declaration.Catalogue

/-!
# Catalogues as they are built

A catalogue comes about by declaring types and registering constructors, any number of times and in
any order. Of a type it knows what was declared last under its name, and of an error type the
constructor that was registered last under its name, whatever was added in between.
-/

namespace Contracts

/-- The declaration of a name in a list into which a declaration was put. -/
theorem TypeDecl.find?_insertInto (d : TypeDecl) (decls : List TypeDecl) (name : String) :
    (d.insertInto decls).find? (·.name == name) =
      if d.name = name then some d else decls.find? (·.name == name) := by
  induction decls with
  | nil =>
    rw [insertInto, List.find?_singleton]
    simp
  | cons e rest ih =>
    by_cases hplace : e.name = d.name
    · rw [insertInto, if_pos hplace, List.find?_cons, List.find?_cons, hplace]
      by_cases hname : d.name = name
      · simp [hname]
      · have hother : (d.name == name) = false := by simpa using hname
        simp [hname, hother]
    · rw [insertInto, if_neg hplace, List.find?_cons, List.find?_cons, ih]
      by_cases hname : d.name = name
      · have hother : (e.name == name) = false := by simpa [hname] using hplace
        simp [hname, hother]
      · simp [hname]

/-- A type has a capability that it implements, or that its shape stands for. -/
theorem TypeDecl.has_iff (d : TypeDecl) (capability : Capability) :
    d.has capability = true ↔ capability ∈ d.implemented ∨ d.shape = .capability capability := by
  unfold has capabilities
  cases d.shape with
  | capability own =>
    rw [List.contains_iff_mem, List.mem_cons, or_comm, TypeShape.capability.injEq,
      eq_comm (a := own)]
  | reference => simp
  | value => simp
  | optional inner => simp

namespace Catalogue

/-- What can be added to a catalogue. -/
inductive Addition where
  /-- The declaration of a type. -/
  | type (d : TypeDecl)
  /-- The constructor of an error type. -/
  | constructor (k : ErrorConstructor)

namespace Addition

/-- The declaration of a type that is added. -/
def decl? (type : String) : Addition → Option TypeDecl
  | .type d => if d.name = type then some d else none
  | .constructor _ => none

/-- The constructor of an error type that is added. -/
def constructor? (type : String) : Addition → Option ErrorConstructor
  | .type _ => none
  | .constructor k => if k.typeName = type then some k else none

end Addition

/-- Make an addition. -/
def add (c : Catalogue) : Addition → Catalogue
  | .type d => c.declare d
  | .constructor k => c.register k

/-- The catalogue of a list of additions. -/
def build (additions : List Addition) : Catalogue := additions.foldl add ⟨.empty, []⟩

/-- The last declaration of a type among additions. -/
def lastDecl? (additions : List Addition) (type : String) : Option TypeDecl :=
  additions.reverse.findSome? (Addition.decl? type)

/-- The last constructor of an error type among additions. -/
def lastConstructor? (additions : List Addition) (type : String) : Option ErrorConstructor :=
  additions.reverse.findSome? (Addition.constructor? type)

/-- The constructor that is registered for an error type. -/
def registered? (c : Catalogue) (type : String) : Option ErrorConstructor :=
  c.constructors.find? (·.typeName == type)

/-- An addition may declare a type anew. -/
theorem decl?_add (c : Catalogue) (addition : Addition) (type : String) :
    (c.add addition).decl? type = (addition.decl? type).or (c.decl? type) := by
  cases addition with
  | constructor k => rfl
  | type d =>
    have hfound : (c.declare d).decl? type = if d.name = type then some d else c.decl? type :=
      d.find?_insertInto c.types.decls type
    rw [add, hfound, Addition.decl?]
    split <;> rfl

/-- An addition may register a constructor that goes before the ones so far. -/
theorem registered?_add (c : Catalogue) (addition : Addition) (type : String) :
    (c.add addition).registered? type = (addition.constructor? type).or (c.registered? type) := by
  cases addition with
  | type d => rfl
  | constructor k =>
    by_cases hname : k.typeName = type <;>
      simp [add, register, registered?, Addition.constructor?, hname]

/-- What every addition can bring anew is in the end what the last one to bring it has brought. -/
theorem read_build {α : Type} (read : Catalogue → Option α) (brought : Addition → Option α)
    (hempty : read ⟨.empty, []⟩ = none)
    (hadd : ∀ c addition, read (add c addition) = (brought addition).or (read c))
    (additions : List Addition) : read (build additions) = additions.reverse.findSome? brought := by
  induction additions using List.reverseRecOn with
  | nil => exact hempty
  | append_singleton additions addition ih =>
    rw [build, List.foldl_append, List.foldl_cons, List.foldl_nil, hadd, ← build, ih,
      List.reverse_append, List.reverse_singleton, List.singleton_append, List.findSome?_cons]
    cases brought addition <;> rfl

/-- A type is declared as it was declared last. -/
theorem decl?_build (additions : List Addition) (type : String) :
    (build additions).decl? type = lastDecl? additions type :=
  read_build (·.decl? type) (Addition.decl? type) rfl (fun c addition => c.decl?_add addition type)
    additions

/-- An error type has the constructor that was registered for it last. -/
theorem registered?_build (additions : List Addition) (type : String) :
    (build additions).registered? type = lastConstructor? additions type :=
  read_build (·.registered? type) (Addition.constructor? type) rfl
    (fun c addition => c.registered?_add addition type) additions

/-- A constructor is registered under its own name. -/
theorem typeName_of_lastConstructor? {additions : List Addition} {type : String}
    {k : ErrorConstructor} (h : lastConstructor? additions type = some k) : k.typeName = type := by
  obtain ⟨addition, -, hk⟩ := List.exists_of_findSome?_eq_some h
  cases addition with
  | type d => contradiction
  | constructor own =>
    rw [Addition.constructor?, Option.ite_none_right_eq_some] at hk
    obtain ⟨hname, hown⟩ := hk
    rw [← Option.some.inj hown, hname]

/-- The constructor of an error type is the registered one, or else the generic one. -/
theorem errorConstructor?_eq (c : Catalogue) (type : String) :
    c.errorConstructor? type =
      (c.registered? type).or
        (if (c.decl? type).any fun d => d.has .error && d.has .messageConstructor then
          some (.host type) else none) := by
  unfold errorConstructor? registered?
  cases c.constructors.find? (·.typeName == type) with
  | some k => rfl
  | none => cases c.decl? type <;> rfl

end Catalogue

end Contracts
