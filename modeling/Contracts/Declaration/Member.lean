/-!
# Members of a module

Methods with their parameters and properties with their setters, as they are declared, each with
the attributes attached to it. An attribute is a validator or something else; `α` is what stands
for a validator, for instance its configuration or its number.
-/

namespace Contracts

/-- An attribute of a declaration. -/
inductive Attribute (α : Type) where
  | validator (v : α)
  /-- An attribute that has nothing to do with validation. -/
  | other (name : String)
  deriving DecidableEq

/-- The validator, if the attribute is one. -/
def Attribute.validator? {α : Type} : Attribute α → Option α
  | .validator v => some v
  | .other _ => none

/-- The validators among attributes. -/
def Attribute.validators {α : Type} (attributes : List (Attribute α)) : List α :=
  attributes.filterMap validator?

/-- A parameter of a method. -/
structure ParameterDecl (α : Type) where
  name : String
  type : String
  attributes : List (Attribute α) := []
  deriving DecidableEq

/-- A method. -/
structure MethodDecl (α : Type) where
  name : String
  declaringType : String
  parameters : List (ParameterDecl α) := []
  attributes : List (Attribute α) := []
  deriving DecidableEq

/-- A property. A writable one has a setter. -/
structure PropertyDecl (α : Type) where
  name : String
  declaringType : String
  type : String
  writable : Bool := true
  attributes : List (Attribute α) := []
  deriving DecidableEq

/-- A parameter by its position and its name. -/
structure ParameterRef where
  ordinal : Nat
  name : String
  deriving DecidableEq

/-- A method by its type, its name and its parameters. -/
structure MethodRef where
  declaringType : String
  name : String
  parameters : List ParameterRef
  deriving DecidableEq

/-- Whether a method has a name in a type. -/
def MethodRef.is (m : MethodRef) (declaringType name : String) : Bool :=
  m.declaringType == declaringType && m.name == name

/-- The name of a method behind that of its type. -/
def MethodRef.display (m : MethodRef) : String := m.declaringType ++ "::" ++ m.name

/-- Number parameters in order. -/
def ParameterRef.number (start : Nat) : List String → List ParameterRef
  | [] => []
  | name :: rest => ⟨start, name⟩ :: number (start + 1) rest

/-- The reference to a method. -/
def MethodDecl.reference {α : Type} (m : MethodDecl α) : MethodRef :=
  ⟨m.declaringType, m.name, ParameterRef.number 0 (m.parameters.map (·.name))⟩

/-- The parameter of a setter. -/
def ParameterRef.setterValue : ParameterRef := ⟨0, "value"⟩

/-- The setter of a property, whether or not it exists. -/
def PropertyDecl.setterRef {α : Type} (p : PropertyDecl α) : MethodRef :=
  ⟨p.declaringType, "set_" ++ p.name, [.setterValue]⟩

/-- The setter of a writable property. -/
def PropertyDecl.setter? {α : Type} (p : PropertyDecl α) : Option MethodRef :=
  if p.writable then some p.setterRef else none

/-- A place of a declaration at which a validator is checked or recorded. -/
inductive Site where
  /-- A parameter of a method, with its type. -/
  | parameter (method : MethodRef) (parameter : ParameterRef) (type : String)
  /-- The value of a property's setter, with its type. -/
  | setter (setter : MethodRef) (property : String) (type : String)
  /-- A method as a whole. -/
  | method (method : MethodRef)
  deriving DecidableEq

namespace Site

/-- The type that values at the site have; a method as a whole has none. -/
def declaredType? : Site → Option String
  | .parameter _ _ type => some type
  | .setter _ _ type => some type
  | .method _ => none

/-- The method of the site. -/
def owner : Site → MethodRef
  | .parameter m _ _ => m
  | .setter m _ _ => m
  | .method m => m

/-- Name the site. -/
def display : Site → String
  | .parameter m p _ => "parameter '" ++ p.name ++ "' of " ++ m.display
  | .setter m property _ => "property '" ++ property ++ "' (" ++ m.display ++ ")"
  | .method m => "method " ++ m.display

end Site

end Contracts
