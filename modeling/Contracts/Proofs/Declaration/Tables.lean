import Mathlib.Data.List.Nodup
import Contracts.Manifest.Basic
import Contracts.Proofs.Declaration.Building

/-!
# The order of type tables

A table that declarations are put into one after the other is an ordered map whose keys are names. A
name keeps the place at which it came up first, and has the declaration that came last. What stands
at a place follows from the names and from what is found under them, so putting a declaration in the
place of another changes nothing else.
-/

namespace Contracts

namespace TypeTable

variable (t : TypeTable)

/-- The names of the declared types in order. -/
def names : List String := t.decls.map (·.name)

/-- A known name keeps its place and a new one is added at the end. -/
theorem names_insert (d : TypeDecl) :
    (t.insert d).names = if d.name ∈ t.names then t.names else t.names ++ [d.name] :=
  d.map_name_insertInto t.decls

/-- A declaration is found under its own name, and what was found under other names still is. -/
theorem find?_insert (d : TypeDecl) (name : String) :
    (t.insert d).find? name = if d.name = name then some d else t.find? name :=
  d.find?_insertInto t.decls name

/-- Names that are added come behind the ones before, each where it came up first. -/
theorem names_insertAll (decls : List TypeDecl) :
    (t.insertAll decls).names =
      t.names ++ ((decls.map (·.name)).filter (· ∉ t.names)).eraseDups := by
  induction decls generalizing t with
  | nil => simp [insertAll]
  | cons d rest ih =>
    have htail : (t.insertAll (d :: rest)).names = ((t.insert d).insertAll rest).names := rfl
    rw [htail, ih, names_insert, List.map_cons, List.filter_cons]
    by_cases hknown : d.name ∈ t.names
    · simp [hknown]
    · -- the new name is the first of those that are added, and leaves its repetitions out
      simp only [hknown, if_false, not_false_eq_true, decide_true, if_true, List.eraseDups_cons,
        List.filter_filter, List.append_assoc, List.singleton_append, List.mem_append,
        List.mem_singleton]
      congr 4
      funext name
      by_cases hsame : name = d.name <;> simp [hsame]

/-- Of the declarations of a name the last one is found. -/
theorem find?_insertAll (decls : List TypeDecl) (name : String) :
    (t.insertAll decls).find? name =
      (decls.reverse.find? (·.name == name)).or (t.find? name) := by
  induction decls generalizing t with
  | nil => rfl
  | cons d rest ih =>
    have htail : (t.insertAll (d :: rest)).find? name = ((t.insert d).insertAll rest).find? name :=
      rfl
    rw [htail, ih, find?_insert, List.reverse_cons, List.find?_append, List.find?_singleton]
    by_cases hname : d.name = name <;>
      cases rest.reverse.find? (·.name == name) <;> simp [hname]

variable {t}

/-- What stands in a table is found under its own name, and nothing else is. -/
theorem find?_eq_some_iff {d : TypeDecl} {name : String} :
    t.find? name = some d ↔ d ∈ t.decls ∧ d.name = name := by
  constructor
  · intro h
    exact ⟨List.mem_of_find?_eq_some h, by simpa using List.find?_some h⟩
  · rintro ⟨hmem, rfl⟩
    obtain ⟨e, hfound⟩ := Option.isSome_iff_exists.mp
      (List.find?_isSome (p := (·.name == d.name)).mpr ⟨d, hmem, beq_self_eq_true d.name⟩)
    have hname : e.name = d.name := by simpa using List.find?_some hfound
    rw [find?, hfound, List.inj_on_of_nodup_map t.nodup (List.mem_of_find?_eq_some hfound) hmem
      hname]

/-- What stands at a place is what is found under the name of that place. -/
theorem getElem?_decls_eq_some_iff {i : Nat} {d : TypeDecl} :
    t.decls[i]? = some d ↔ t.names[i]? = some d.name ∧ t.find? d.name = some d := by
  rw [find?_eq_some_iff, names, List.getElem?_map]
  constructor
  · intro h
    exact ⟨by rw [h]; rfl, List.mem_of_getElem? h, rfl⟩
  · rintro ⟨hname, hmem, -⟩
    obtain ⟨e, he, hsame⟩ := Option.map_eq_some_iff.mp hname
    rw [he, List.inj_on_of_nodup_map t.nodup (List.mem_of_getElem? he) hmem hsame]

/-- Declarations that are put into a table with others before them are put into what the others
make. -/
theorem insertAll_append (before after : List TypeDecl) :
    t.insertAll (before ++ after) = (t.insertAll before).insertAll after :=
  List.foldl_append

/-- Declaring a known type once more changes no place, and no declaration of another type. -/
theorem insertAll_redeclared {before : List TypeDecl} {d : TypeDecl}
    (h : d.name ∈ (t.insertAll before).names) (after : List TypeDecl) :
    let once := t.insertAll (before ++ after)
    let again := t.insertAll (before ++ d :: after)
    again.names = once.names ∧
      ∀ (i : Nat) (e : TypeDecl), e.name ≠ d.name →
        (again.decls[i]? = some e ↔ once.decls[i]? = some e) := by
  have hnames : (t.insertAll (before ++ d :: after)).names =
      (t.insertAll (before ++ after)).names := by
    have htail : ((t.insertAll before).insertAll (d :: after)).names =
        (((t.insertAll before).insert d).insertAll after).names := rfl
    rw [insertAll_append, insertAll_append, htail, names_insertAll, names_insertAll, names_insert,
      if_pos h]
  refine ⟨hnames, fun i e hother => ?_⟩
  have hfound : (t.insertAll (before ++ d :: after)).find? e.name =
      (t.insertAll (before ++ after)).find? e.name := by
    have hskip : (d.name == e.name) = false := by simpa using hother.symm
    simp [find?_insertAll, List.find?_append, hskip]
  rw [getElem?_decls_eq_some_iff, getElem?_decls_eq_some_iff, hnames, hfound]

/-- The table of the primitive types lists their declarations, of which no two have one name. -/
theorem decls_primitives : primitives.decls = primitiveDecls := by
  decide +kernel

end TypeTable

namespace Manifest

/-- The types of a loaded module are an ordered map. Each name is listed once: the primitive ones
first, in their order, and then the new ones as they came up first. Under a name the last
declaration of the manifest is found, or else the primitive one, or else nothing, so every listed
declaration is found under its own name. To declare a known type once more, wherever that is done,
changes no place, and no declaration of another type. -/
theorem types_declarations (m : Manifest) :
    let module := m.declarations.catalogue
    let primitive := TypeTable.primitiveDecls.map (·.name)
    module.types.names.Nodup ∧
      module.types.names =
        primitive ++ ((m.types.map (·.name)).filter (· ∉ primitive)).eraseDups ∧
      (∀ name, module.decl? name =
        (m.types.reverse.find? (·.name == name)).or
          (TypeTable.primitiveDecls.find? (·.name == name))) ∧
      (∀ d ∈ module.types.decls, module.decl? d.name = some d) ∧
      ∀ before d after, m.types = before ++ d :: after →
        d.name ∈ primitive ++ before.map (·.name) →
        let once := { m with types := before ++ after }.declarations.catalogue
        module.types.names = once.types.names ∧
          ∀ (i : Nat) (e : TypeDecl), e.name ≠ d.name →
            (module.types.decls[i]? = some e ↔ once.types.decls[i]? = some e) := by
  have hprimitive : TypeTable.primitives.names = TypeTable.primitiveDecls.map (·.name) := by
    rw [TypeTable.names, TypeTable.decls_primitives]
  have hnames (decls : List TypeDecl) := TypeTable.primitives.names_insertAll decls
  rw [hprimitive] at hnames
  refine ⟨(TypeTable.primitives.insertAll m.types).nodup, hnames m.types, fun name => ?_,
    fun d hd => TypeTable.find?_eq_some_iff.mpr ⟨hd, rfl⟩, ?_⟩
  · have hfound := TypeTable.primitives.find?_insertAll m.types name
    rwa [TypeTable.find?, TypeTable.find?, TypeTable.decls_primitives] at hfound
  · intro before d after hsplit hknown
    have hlisted : d.name ∈ (TypeTable.primitives.insertAll before).names := by
      rw [hnames before, List.mem_append, List.mem_eraseDups, List.mem_filter, decide_eq_true_eq]
      rcases List.mem_append.mp hknown with hold | hnew
      · exact .inl hold
      · exact (Classical.em _).imp_right fun hnot => ⟨hnew, hnot⟩
    have hsame := TypeTable.insertAll_redeclared hlisted after
    rwa [← hsplit] at hsame

/-- Orders are declared, then the primitive integers anew, then bags, then orders once more. -/
def redeclaring : Manifest where
  types := [⟨"Order", .reference, []⟩, ⟨"i32", .value, [.ordered, .countable]⟩,
    ⟨"Bag", .reference, [.countable]⟩, ⟨"Order", .value, [.text]⟩]

/-- Orders stay before the bags and the integers among the primitive types, and the last
declarations count. -/
theorem types_declarations_redeclaring :
    let module := redeclaring.declarations.catalogue
    module.types.names = TypeTable.primitiveDecls.map (·.name) ++ ["Order", "Bag"] ∧
      module.types.names[4]? = some "i32" ∧
      module.decl? "i32" = some ⟨"i32", .value, [.ordered, .countable]⟩ ∧
      module.decl? "Order" = some ⟨"Order", .value, [.text]⟩ ∧
      module.decl? "String" = some ⟨"String", .reference, [.text, .ordered]⟩ ∧
      module.decl? "Crate" = none ∧
      module.types.decls[36]? = some ⟨"Bag", .reference, [.countable]⟩ := by
  intro module
  obtain ⟨-, hnames, hfound, -, hredeclared⟩ := types_declarations redeclaring
  have hlist : module.types.names = TypeTable.primitiveDecls.map (·.name) ++ ["Order", "Bag"] := by
    rw [hnames]
    decide +kernel
  obtain ⟨-, hplaces⟩ := hredeclared (redeclaring.types.take 3) ⟨"Order", .value, [.text]⟩ [] rfl
    (List.mem_append_right _ (by decide))
  refine ⟨hlist, by rw [hlist]; decide +kernel, (hfound "i32").trans (by decide +kernel),
    (hfound "Order").trans (by decide +kernel), (hfound "String").trans (by decide +kernel),
    (hfound "Crate").trans (by decide +kernel), ?_⟩
  exact (hplaces 36 _ (by decide)).mpr (by decide +kernel)

end Manifest

end Contracts
