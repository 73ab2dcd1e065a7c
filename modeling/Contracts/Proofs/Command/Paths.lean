import Mathlib.Data.List.Infix
import Contracts.Command.Check
import Contracts.Command.Replay

/-!
# Paths of methods

A report shows the body of a method by the name of its type and its own name with two colons between
them, and a replay splits such a text at the last two colons that stand side by side. The names can
be any texts, so the split does not always undo the join: it does so exactly for the paths whose
method has a name that holds no two colons and does not begin with one, and whose names are both
there. For any other path a replay fails, or runs the interceptions of another method.
-/

namespace Contracts

namespace MethodPath

/-- The text between the name of a type and the name of a method. -/
def separator : List Char := [':', ':']

/-- Two colons stand at the beginning of a text or behind its first character. -/
theorem separator_infix_cons {c : Char} {rest : List Char} :
    separator <:+: c :: rest ↔ (c = ':' ∧ rest.head? = some ':') ∨ separator <:+: rest := by
  rw [List.infix_cons_iff]
  refine or_congr_left ?_
  cases rest with
  | nil => simp [separator]
  | cons next rest => simp [separator, eq_comm]

/-- A text is not split if it holds no two colons side by side. -/
theorem splitLast_eq_none_iff {text : List Char} :
    splitLast text = none ↔ ¬ separator <:+: text := by
  induction text with
  | nil => simp [splitLast, separator]
  | cons c rest ih =>
    rw [separator_infix_cons]
    cases hrest : splitLast rest with
    | some parts =>
      have hinfix : separator <:+: rest := by
        by_contra hnot
        simp [ih.mpr hnot] at hrest
      simp [splitLast, hrest, hinfix]
    | none =>
      have hinfix : ¬ separator <:+: rest := ih.mp hrest
      simp only [splitLast, hrest, hinfix, or_false]
      split
      · rename_i back
        simp
      · rename_i hshape
        simp only [true_iff]
        rintro ⟨rfl, hhead⟩
        obtain ⟨back, rfl⟩ := List.head?_eq_some_iff.mp hhead
        exact hshape back rfl rfl

/-- What stands around two colons holds them. -/
theorem separator_infix_append (front back : List Char) :
    separator <:+: front ++ separator ++ back := ⟨front, back, rfl⟩

/-- A text is split into parts if two colons stand between them and no two colons stand side by side
later on, not even the second one of them and the character behind it. -/
theorem splitLast_eq_some_iff {text front back : List Char} :
    splitLast text = some (front, back) ↔
      text = front ++ separator ++ back ∧ ¬ separator <:+: ':' :: back := by
  induction text generalizing front back with
  | nil => simp [splitLast, separator]
  | cons c rest ih =>
    cases hrest : splitLast rest with
    | some parts =>
      obtain ⟨first, last⟩ := parts
      obtain ⟨hparts, hlast⟩ := ih.mp hrest
      have hsplit : splitLast (c :: rest) = some (c :: first, last) := by simp [splitLast, hrest]
      rw [hsplit]
      constructor
      · rintro ⟨rfl, rfl⟩
        exact ⟨by rw [hparts]; rfl, hlast⟩
      · rintro ⟨htext, hback⟩
        cases front with
        | nil =>
          -- the first two colons are not the last ones, as there are others in the rest
          have htail : rest = ':' :: back := (List.cons.inj htext).2
          rw [← htail, hparts] at hback
          exact absurd (separator_infix_append first last) hback
        | cons a front =>
          obtain ⟨rfl, htail⟩ := List.cons.inj htext
          have hsame := hrest.symm.trans (ih.mpr ⟨htail, hback⟩)
          obtain ⟨rfl, rfl⟩ := Prod.mk.inj (Option.some.inj hsame)
          rfl
    | none =>
      have hnone : ¬ separator <:+: rest := splitLast_eq_none_iff.mp hrest
      constructor
      · intro h
        simp only [splitLast, hrest] at h
        split at h
        · obtain ⟨rfl, rfl⟩ := Prod.mk.inj (Option.some.inj h)
          exact ⟨rfl, hnone⟩
        · contradiction
      · rintro ⟨htext, -⟩
        cases front with
        | nil =>
          obtain ⟨rfl, htail⟩ := List.cons.inj htext
          obtain rfl : rest = ':' :: back := htail
          rw [splitLast, hrest]
        | cons a front =>
          obtain ⟨-, rfl⟩ := List.cons.inj htext
          exact absurd (separator_infix_append front back) hnone

/-- The path can be read back from its text: both names are there, and the name of the method
neither holds two colons side by side nor begins with one. -/
structure IsLegible (path : MethodPath) : Prop where
  type_ne : path.type ≠ ""
  method_ne : path.method ≠ ""
  no_separator : ¬ separator <:+: path.method.toList
  no_colon : path.method.toList.head? ≠ some ':'

/-- No two colons stand side by side in a text with a colon before it, if they do not in the text
and the text does not begin with a colon. -/
theorem separator_infix_colon_cons {text : List Char} :
    separator <:+: ':' :: text ↔ text.head? = some ':' ∨ separator <:+: text := by
  rw [separator_infix_cons, eq_self, true_and]

/-- A text is read as a path if it is that of the path and the path is legible. -/
theorem read?_eq_some_iff {text : String} {path : MethodPath} :
    read? text = some path ↔ text = path.type ++ "::" ++ path.method ∧ path.IsLegible := by
  have hjoin (type method : List Char) : text = String.ofList type ++ "::" ++ String.ofList method ↔
      text.toList = type ++ separator ++ method := by
    rw [← String.toList_inj]
    simp [separator]
  constructor
  · intro h
    unfold read? at h
    split at h
    · rename_i type method hsplit
      obtain ⟨htext, hlast⟩ := splitLast_eq_some_iff.mp hsplit
      rw [separator_infix_colon_cons, not_or] at hlast
      split at h
      · contradiction
      · rename_i hthere
        obtain rfl := Option.some.inj h
        rw [Bool.not_eq_true, Bool.or_eq_false_iff] at hthere
        refine ⟨(hjoin type method).mpr htext, ?_, ?_, ?_, ?_⟩
        · simpa using hthere.1
        · simpa using hthere.2
        · simpa using hlast.2
        · simpa using hlast.1
    · contradiction
  · rintro ⟨rfl, htype, hmethod, hseparator, hcolon⟩
    have hsplit : splitLast (path.type ++ "::" ++ path.method).toList =
        some (path.type.toList, path.method.toList) := by
      rw [splitLast_eq_some_iff, separator_infix_colon_cons, not_or]
      exact ⟨by simp [separator], hcolon, hseparator⟩
    simp only [read?, hsplit]
    simp [htype, hmethod]

/-- The path of a method. -/
def ofMethod (m : MethodRef) : MethodPath := ⟨m.declaringType, m.name⟩

/-- A method is shown by the text of its path, which is read as this path if that is legible. -/
theorem read?_display_iff (m : MethodRef) :
    read? m.display = some (ofMethod m) ↔ (ofMethod m).IsLegible := by
  rw [read?_eq_some_iff]
  exact and_iff_right rfl

/-- An interception before the body of a method is looked up under no other path. -/
theorem mem_ofMethod_iff {plan : WeavePlan} {m : MethodRef} {covered : Option (List ParameterRef)}
    {id : Nat} {path : MethodPath} :
    ⟨.methodBody m covered, id⟩ ∈ plan.ofMethod path.type path.method ↔
      ⟨.methodBody m covered, id⟩ ∈ plan ∧ path = ofMethod m := by
  obtain ⟨type, method⟩ := path
  rw [WeavePlan.ofMethod, List.mem_filter]
  refine and_congr_right' ?_
  rw [JoinPoint.isBodyOf, MethodRef.is, Bool.and_eq_true, beq_iff_eq, beq_iff_eq, ofMethod,
    MethodPath.mk.injEq, eq_comm, eq_comm (a := m.name)]

/-- No interception is looked up under two paths. -/
theorem eq_of_mem_ofMethod {plan : WeavePlan} {i : Interception} {path : MethodPath}
    (h : i ∈ plan.ofMethod path.type path.method) (other : MethodPath)
    (hother : i ∈ plan.ofMethod other.type other.method) : path = other := by
  obtain ⟨joinPoint, id⟩ := i
  cases joinPoint with
  | methodBody m covered =>
    exact (mem_ofMethod_iff.mp h).2.trans (mem_ofMethod_iff.mp hother).2.symm
  | staticInitializer type => simp [WeavePlan.ofMethod, JoinPoint.isBodyOf] at h

/-- What a report shows of an interception before the body of a method is read as the path of the
method exactly if that path is legible, and exactly then a replay of the text finds the
interception. Of any other path the text is not read, or as a different path, under which there
are no interceptions of the method. Whatever text is read as a path is the text of the path, and
the path is legible. -/
theorem read?_target_iff {V : Type} [Validator V] (store : Store V) (plan : WeavePlan)
    (m : MethodRef) (covered : Option (List ParameterRef)) (id : Nat) :
    let i : Interception := ⟨.methodBody m covered, id⟩
    let shown := (InterceptionSummary.ofInterception store i).target
    (read? shown = some (ofMethod m) ↔ (ofMethod m).IsLegible) ∧
      (i ∈ plan →
        ((∃ path, read? shown = some path ∧ i ∈ plan.ofMethod path.type path.method) ↔
          (ofMethod m).IsLegible)) ∧
      (¬ (ofMethod m).IsLegible → ∀ path, read? shown = some path → path ≠ ofMethod m ∧
        ∀ j ∈ plan.ofMethod path.type path.method, j ∉ plan.ofMethod m.declaringType m.name) ∧
      ∀ text path, read? text = some path →
        text = path.type ++ "::" ++ path.method ∧ path.IsLegible := by
  refine ⟨read?_display_iff m, fun hi => ?_, fun hnot path hread => ?_,
    fun text path => read?_eq_some_iff.mp⟩
  · rw [← read?_display_iff]
    constructor
    · rintro ⟨path, hread, hfound⟩
      rwa [← (mem_ofMethod_iff.mp hfound).2]
    · intro hread
      exact ⟨ofMethod m, hread, mem_ofMethod_iff.mpr ⟨hi, rfl⟩⟩
  · have hother : path ≠ ofMethod m := by
      rintro rfl
      exact hnot ((read?_display_iff m).mp hread)
    exact ⟨hother, fun j hj hown => hother (eq_of_mem_ofMethod hj (ofMethod m) hown)⟩

/-- Placing an order is found under its path, though the name of the type holds colons. A method
whose name begins with a colon is not: its text is read as the path of a method of another type.
-/
theorem read?_target_iff_orders :
    let place : MethodRef := ⟨"shop::Orders", "place", []⟩
    let colon : MethodRef := ⟨"Orders", ":place", []⟩
    let plan : WeavePlan := [⟨.methodBody place none, 0⟩, ⟨.methodBody colon none, 1⟩]
    (∃ path, read? place.display = some path ∧
        ⟨.methodBody place none, 0⟩ ∈ plan.ofMethod path.type path.method) ∧
      read? colon.display = some ⟨"Orders:", "place"⟩ ∧
      ∀ j ∈ plan.ofMethod "Orders:" "place", j ∉ plan.ofMethod "Orders" ":place" := by
  intro place colon plan
  let store : Store Annotation := fun _ => { rule := .notNull }
  have hlegible : (ofMethod place).IsLegible :=
    ⟨by decide, by decide, by decide +kernel, by decide +kernel⟩
  have hcolon : ¬ (ofMethod colon).IsLegible := fun h => h.no_colon (by decide +kernel)
  have hread : read? colon.display = some ⟨"Orders:", "place"⟩ := by decide +kernel
  obtain ⟨-, hfinds, -, -⟩ := read?_target_iff store plan place none 0
  obtain ⟨-, -, hother, -⟩ := read?_target_iff store plan colon none 1
  exact ⟨(hfinds List.mem_cons_self).mpr hlegible, hread, (hother hcolon _ hread).2⟩

end MethodPath

end Contracts
