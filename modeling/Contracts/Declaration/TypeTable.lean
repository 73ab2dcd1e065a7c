import Contracts.Declaration.TypeDecl

/-!
# Type tables

A table holds one declaration a name, in the order in which the names came up first. Declaring a
name again replaces its declaration where it stands.

The primitive types are the scalars, which are ordered values, and the two text types, which are
ordered references; scalars and owned text exist as optional types too.
-/

namespace Contracts

/-- Put a declaration where its name stands, or else at the end. -/
def TypeDecl.insertInto (d : TypeDecl) : List TypeDecl → List TypeDecl
  | [] => [d]
  | e :: rest => if e.name = d.name then d :: rest else e :: d.insertInto rest

/-- The names after a declaration was put: a known name keeps its place. -/
theorem TypeDecl.map_name_insertInto (d : TypeDecl) (decls : List TypeDecl) :
    (d.insertInto decls).map (·.name) =
      if d.name ∈ decls.map (·.name) then decls.map (·.name)
      else decls.map (·.name) ++ [d.name] := by
  induction decls with
  | nil => simp [insertInto]
  | cons e rest ih =>
    by_cases h : e.name = d.name
    · simp [insertInto, h]
    · have h' : ¬ d.name = e.name := fun k => h k.symm
      simp only [insertInto, h, if_false, List.map_cons, ih, List.mem_cons, h', false_or]
      split <;> simp

/-- Type declarations in order, no name twice. -/
structure TypeTable where
  decls : List TypeDecl
  nodup : (decls.map (·.name)).Nodup

namespace TypeTable

/-- The table without types. -/
def empty : TypeTable := ⟨[], by simp⟩

/-- Declare a type. -/
def insert (t : TypeTable) (d : TypeDecl) : TypeTable :=
  ⟨d.insertInto t.decls, by
    rw [TypeDecl.map_name_insertInto]
    split
    · exact t.nodup
    · rename_i h
      rw [List.nodup_append]
      refine ⟨t.nodup, by simp, ?_⟩
      intro a ha b hb hab
      simp only [List.mem_singleton] at hb
      exact h (by rw [← hb, ← hab]; exact ha)⟩

/-- Declare types in order. -/
def insertAll (t : TypeTable) (decls : List TypeDecl) : TypeTable := decls.foldl insert t

/-- The declaration of a name. -/
def find? (t : TypeTable) (name : String) : Option TypeDecl := t.decls.find? (·.name == name)

/-- The names of the ordered scalars. -/
def scalarNames : List String :=
  ["bool", "char", "i8", "i16", "i32", "i64", "i128", "isize", "u8", "u16", "u32", "u64", "u128",
    "usize", "f32", "f64"]

/-- The declarations of the primitive types. -/
def primitiveDecls : List TypeDecl :=
  scalarNames.map (fun name => ⟨name, .value, [.ordered]⟩) ++
    ["String", "&str"].map (fun name => ⟨name, .reference, [.text, .ordered]⟩) ++
    (scalarNames ++ ["String"]).map fun name => ⟨"Option<" ++ name ++ ">", .optional name, []⟩

/-- The table of the primitive types. -/
def primitives : TypeTable := empty.insertAll primitiveDecls

end TypeTable

end Contracts
