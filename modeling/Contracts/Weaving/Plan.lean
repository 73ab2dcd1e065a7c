import Contracts.Weaving.Validator

/-!
# Weave plans

A plan lists the interceptions in the order in which they were registered. An interception says
where a validator runs: before the body of a method, for some of its parameters or for all of
them, or before the static initializer of a type, where it has no values to check.
-/

namespace Contracts

/-- Where an interception runs. -/
inductive JoinPoint where
  /-- Before a method's body, for the given parameters or for all of them. -/
  | methodBody (method : MethodRef) (parameters : Option (List ParameterRef))
  /-- Before the static initializer of a type. -/
  | staticInitializer (type : String)
  deriving DecidableEq

namespace JoinPoint

/-- The kind of a join point. -/
def kind : JoinPoint → String
  | .methodBody _ _ => "before_method_body"
  | .staticInitializer _ => "before_static_initializer"

/-- The method or the type of a join point. -/
def target : JoinPoint → String
  | .methodBody m _ => m.display
  | .staticInitializer type => type

/-- Name the join point. -/
def display : JoinPoint → String
  | .methodBody m _ => "before body of " ++ m.display
  | .staticInitializer type => "before static initializer of " ++ type

/-- The parameters whose values are checked. -/
def covered : JoinPoint → List ParameterRef
  | .methodBody _ (some parameters) => parameters
  | .methodBody m none => m.parameters
  | .staticInitializer _ => []

/-- Whether the join point is before the body of a method. -/
def isBodyOf (j : JoinPoint) (type method : String) : Bool :=
  match j with
  | .methodBody m _ => m.is type method
  | .staticInitializer _ => false

/-- Whether the join point is before the static initializer of a type. -/
def isInitializerOf (j : JoinPoint) (type : String) : Bool :=
  match j with
  | .methodBody _ _ => false
  | .staticInitializer t => t == type

end JoinPoint

/-- A validator at a join point, by its number. -/
structure Interception where
  joinPoint : JoinPoint
  validator : Nat
  deriving DecidableEq

/-- The interceptions in the order of their registration. -/
abbrev WeavePlan := List Interception

variable {V : Type} [Validator V]

/-- The value of a parameter in an argument list; one that is missing is absent. -/
def argument (arguments : List Value) (parameter : ParameterRef) : Value :=
  arguments.getD parameter.ordinal .null

/-- Run a validator on parameters in order, up to the first failure. -/
def Validator.run (store : Store V) (id : Nat) (target : Option Value) (arguments : List Value) :
    List ParameterRef → Outcome × Store V
  | [] => (.ok (), store)
  | p :: rest =>
    let (outcome, v) := Validator.validate (store id) target (argument arguments p) p.name
    let store := store.set id v
    match outcome with
    | .error e => (.error e, store)
    | .ok () => run store id target arguments rest

/-- Run an interception on an argument list. -/
def Interception.check (i : Interception) (store : Store V) (target : Option Value)
    (arguments : List Value) : Outcome × Store V :=
  Validator.run store i.validator target arguments i.joinPoint.covered

namespace WeavePlan

/-- The interceptions before the body of a method. -/
def ofMethod (plan : WeavePlan) (type method : String) : WeavePlan :=
  plan.filter (·.joinPoint.isBodyOf type method)

/-- The interceptions before the static initializer of a type. -/
def ofInitializer (plan : WeavePlan) (type : String) : WeavePlan :=
  plan.filter (·.joinPoint.isInitializerOf type)

/-- Run interceptions in order, up to the first failure. -/
def checkAll (store : Store V) (target : Option Value) (arguments : List Value) :
    WeavePlan → Outcome × Store V
  | [] => (.ok (), store)
  | i :: rest =>
    match i.check store target arguments with
    | (.error e, store) => (.error e, store)
    | (.ok (), store) => checkAll store target arguments rest

/-- Run what is woven before the body of a method, as a call of the method would. -/
def checkCall (plan : WeavePlan) (store : Store V) (type method : String)
    (target : Option Value) (arguments : List Value) : Outcome × Store V :=
  checkAll store target arguments (plan.ofMethod type method)

end WeavePlan

end Contracts
