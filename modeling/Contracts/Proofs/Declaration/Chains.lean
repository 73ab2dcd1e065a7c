import Mathlib.Data.Set.Finite.List
import Mathlib.Order.Preorder.Finite
import Contracts.Declaration.Catalogue

/-!
# Chains of optional types

From an optional type a chain leads to the type that it wraps, and on to what that one wraps. Every
chain does one of three things: it ends in a declared type that is not optional, it breaks off at a
name that is not declared, or it never leaves the optional types, and then it comes back to a name
where it has been. A catalogue finds the end of a chain if there are fewer optional types before it
than it looks at, and finds nothing behind any other chain. What it finds follows from the
declarations that it looks at, of which there are only so many, so its walk ends on every chain.
-/

namespace Contracts

/-- The type that an optional type wraps. -/
def TypeDecl.inner? (d : TypeDecl) : Option String :=
  match d.shape with
  | .optional inner => some inner
  | _ => none

namespace Catalogue

/-- The type that a declared optional type wraps. -/
def wrapped? (c : Catalogue) (type : String) : Option String := (c.decl? type).bind (·.inner?)

/-- The name behind a number of optional types. -/
def behind (c : Catalogue) : Nat → String → Option String
  | 0, type => some type
  | n + 1, type => (c.wrapped? type).bind (c.behind n)

/-- A chain ends, behind a number of optional types, in a declared type that is not optional. -/
def EndsIn (c : Catalogue) (type : String) (n : Nat) (d : TypeDecl) : Prop :=
  (c.behind n type).bind c.decl? = some d ∧ d.inner? = none

/-- A chain breaks off at a name that is not declared. -/
def BreaksOff (c : Catalogue) (type : String) : Prop :=
  ∃ n name, c.behind n type = some name ∧ c.decl? name = none

/-- A chain never leaves the optional types. -/
def NeverEnds (c : Catalogue) (type : String) : Prop := ∀ n, (c.behind n type).isSome

/-- A chain comes to a name and later back to it. -/
def Circles (c : Catalogue) (type : String) : Prop :=
  ∃ n m name, c.behind n type = some name ∧ c.behind (m + 1) name = some name

variable {c : Catalogue} {type : String} {n m : Nat} {d e : TypeDecl}

/-- A name that is not declared wraps nothing. -/
theorem wrapped?_of_decl? (h : c.decl? type = none) : c.wrapped? type = none := by
  rw [wrapped?, h, Option.bind_none]

/-- Behind some optional types and then some more. -/
theorem behind_add (c : Catalogue) (m n : Nat) (type : String) :
    c.behind (m + n) type = (c.behind m type).bind (c.behind n) := by
  induction m generalizing type with
  | zero => simp [behind]
  | succ m ih =>
    rw [Nat.succ_add, behind, behind, Option.bind_assoc]
    congr 1
    funext inner
    exact ih inner

/-- One more optional type at the end of a chain. -/
theorem behind_succ (c : Catalogue) (n : Nat) (type : String) :
    c.behind (n + 1) type = (c.behind n type).bind c.wrapped? := by
  rw [behind_add]
  congr 1
  funext name
  simp [behind]

/-- What is behind more optional types is behind fewer of them first. -/
theorem isSome_behind_of_le (hn : n ≤ m) (h : (c.behind m type).isSome) :
    (c.behind n type).isSome := by
  obtain ⟨k, rfl⟩ := Nat.exists_eq_add_of_le hn
  rw [behind_add] at h
  exact Option.isSome_of_isSome_bind h

/-- A chain that comes to a name which wraps nothing has stopped there. -/
theorem behind_eq_none (hn : (c.behind n type).bind c.wrapped? = none) (hm : n < m) :
    c.behind m type = none := by
  by_contra hsome
  have hnext := isSome_behind_of_le (Nat.succ_le_of_lt hm) (Option.isSome_iff_ne_none.mpr hsome)
  rw [behind_succ, hn] at hnext
  contradiction

/-- A chain stops at one place at most. -/
theorem stop_unique {a b : String} (hn : c.behind n type = some a) (ha : c.wrapped? a = none)
    (hm : c.behind m type = some b) (hb : c.wrapped? b = none) : n = m ∧ a = b := by
  rcases Nat.lt_trichotomy n m with hlt | rfl | hlt
  · have hstop : (c.behind n type).bind c.wrapped? = none := by rw [hn, Option.bind_some, ha]
    rw [behind_eq_none hstop hlt] at hm
    contradiction
  · exact ⟨rfl, Option.some.inj (hn.symm.trans hm)⟩
  · have hstop : (c.behind m type).bind c.wrapped? = none := by rw [hm, Option.bind_some, hb]
    rw [behind_eq_none hstop hlt] at hn
    contradiction

/-- A chain stops where it ends. -/
theorem EndsIn.exists_stop (h : c.EndsIn type n d) :
    ∃ name, c.behind n type = some name ∧ c.decl? name = some d ∧ c.wrapped? name = none := by
  obtain ⟨name, hname, hdecl⟩ := Option.bind_eq_some_iff.mp h.1
  exact ⟨name, hname, hdecl, by rw [wrapped?, hdecl, Option.bind_some, h.2]⟩

/-- A chain has at most one end. -/
theorem EndsIn.unique (h : c.EndsIn type n d) (h' : c.EndsIn type m e) : n = m ∧ d = e := by
  obtain ⟨a, ha, hd, hstop⟩ := h.exists_stop
  obtain ⟨b, hb, he, hstop'⟩ := h'.exists_stop
  obtain ⟨rfl, rfl⟩ := stop_unique ha hstop hb hstop'
  exact ⟨rfl, Option.some.inj (hd.symm.trans he)⟩

/-- A chain that breaks off has no end. -/
theorem BreaksOff.not_endsIn (h : c.BreaksOff type) : ¬ c.EndsIn type n d := by
  obtain ⟨m, b, hb, hdecl⟩ := h
  intro hend
  obtain ⟨a, ha, hd, hstop⟩ := hend.exists_stop
  obtain ⟨-, rfl⟩ := stop_unique ha hstop hb (wrapped?_of_decl? hdecl)
  rw [hd] at hdecl
  contradiction

/-- A chain that never leaves the optional types has no end. -/
theorem NeverEnds.not_endsIn (h : c.NeverEnds type) : ¬ c.EndsIn type n d := by
  intro hend
  obtain ⟨a, ha, -, hstop⟩ := hend.exists_stop
  have hnext := h (n + 1)
  rw [behind_succ, ha, Option.bind_some, hstop] at hnext
  contradiction

/-- A chain goes on behind any number of optional types, unless it has ended or broken off. -/
theorem chain_step (c : Catalogue) (type : String) (n : Nat) :
    (∃ k d, c.EndsIn type k d) ∨ c.BreaksOff type ∨ (c.behind n type).isSome := by
  induction n with
  | zero => exact .inr (.inr rfl)
  | succ n ih =>
    rcases ih with hend | hbroken | hsome
    · exact .inl hend
    · exact .inr (.inl hbroken)
    · obtain ⟨name, hname⟩ := Option.isSome_iff_exists.mp hsome
      cases hdecl : c.decl? name with
      | none => exact .inr (.inl ⟨n, name, hname, hdecl⟩)
      | some d =>
        cases hinner : d.inner? with
        | none => exact .inl ⟨n, d, by rw [hname, Option.bind_some, hdecl], hinner⟩
        | some inner =>
          refine .inr (.inr ?_)
          rw [behind_succ, hname, Option.bind_some, wrapped?, hdecl, Option.bind_some, hinner]
          rfl

/-- A chain ends, breaks off or never ends. -/
theorem chain_cases (c : Catalogue) (type : String) :
    (∃ n d, c.EndsIn type n d) ∨ c.BreaksOff type ∨ c.NeverEnds type := by
  by_cases hend : ∃ n d, c.EndsIn type n d
  · exact .inl hend
  · by_cases hbroken : c.BreaksOff type
    · exact .inr (.inl hbroken)
    · exact .inr (.inr fun n => ((c.chain_step type n).resolve_left hend).resolve_left hbroken)

/-- A name that is declared stands in the table. -/
theorem mem_names_of_decl? (h : c.decl? type = some d) : type ∈ c.types.decls.map (·.name) := by
  obtain rfl : d.name = type := by simpa using List.find?_some h
  exact List.mem_map_of_mem (List.mem_of_find?_eq_some h)

/-- All names of a chain that never ends stand in the table. -/
theorem NeverEnds.mem_names (h : c.NeverEnds type) {name : String}
    (hname : c.behind n type = some name) : name ∈ c.types.decls.map (·.name) := by
  have hnext := h (n + 1)
  rw [behind_succ, hname, Option.bind_some, wrapped?] at hnext
  obtain ⟨d, hd⟩ := Option.isSome_iff_exists.mp (Option.isSome_of_isSome_bind hnext)
  exact mem_names_of_decl? hd

/-- A chain never leaves the optional types exactly when it comes back to a name, as the table holds
only so many names. -/
theorem neverEnds_iff_circles (c : Catalogue) (type : String) :
    c.NeverEnds type ↔ c.Circles type := by
  constructor
  · intro h
    have hnames (n : Nat) : (c.behind n type).get (h n) ∈
        {name | name ∈ c.types.decls.map (·.name)} := h.mem_names (Option.some_get (h n)).symm
    obtain ⟨n, m, hlt, hsame⟩ :=
      (List.finite_toSet _).exists_lt_map_eq_of_forall_mem hnames
    obtain ⟨k, rfl⟩ := Nat.exists_eq_add_of_lt hlt
    obtain ⟨name, hname⟩ := Option.isSome_iff_exists.mp (h n)
    have hagain : c.behind (n + k + 1) type = some name := by
      rw [← Option.some_get (h (n + k + 1)), ← hsame, Option.some_get, hname]
    rw [Nat.add_assoc, behind_add, hname] at hagain
    exact ⟨n, k, name, hname, hagain⟩
  · rintro ⟨n, m, name, hname, hagain⟩
    have hround (rounds : Nat) : c.behind (rounds * (m + 1)) name = some name := by
      induction rounds with
      | zero => simp [behind]
      | succ rounds ih => rw [Nat.succ_mul, behind_add, ih, Option.bind_some, hagain]
    intro k
    have hlong : (c.behind (n + k * (m + 1)) type).isSome := by
      rw [behind_add, hname, Option.bind_some, hround]
      rfl
    exact isSome_behind_of_le (Nat.le_add_left_of_le (Nat.le_mul_of_pos_right k m.succ_pos)) hlong

/-- The end of the chain of a declared type: the type itself if it is not optional, or else the end
of the chain of what it wraps. -/
theorem endsIn_iff (hd : c.decl? type = some d) :
    c.EndsIn type n e ↔
      match d.inner? with
      | none => n = 0 ∧ d = e
      | some inner => ∃ k, n = k + 1 ∧ c.EndsIn inner k e := by
  have hwrapped : c.wrapped? type = d.inner? := by rw [wrapped?, hd, Option.bind_some]
  cases n with
  | zero =>
    simp only [EndsIn, behind, Option.bind_some, hd, Option.some_inj]
    cases hinner : d.inner? with
    | none => simpa using fun h : d = e => h ▸ hinner
    | some inner => simpa using fun h : d = e => h ▸ hinner ▸ nofun
  | succ n =>
    simp only [EndsIn, behind, hwrapped]
    cases d.inner? <;> simp

/-- A walk that looks at a number of declarations finds the end of a chain with fewer optional
types. -/
theorem follow_eq_some_iff (hd : c.decl? type = some d) (n : Nat) :
    c.follow n d = some e ↔ ∃ k < n, c.EndsIn type k e := by
  induction n generalizing type d with
  | zero => simp [follow]
  | succ n ih =>
    simp only [endsIn_iff hd, follow, TypeDecl.inner?]
    cases hshape : d.shape with
    | optional inner =>
      have hbehind : (∃ k < n + 1, ∃ j, k = j + 1 ∧ c.EndsIn inner j e) ↔
          ∃ j < n, c.EndsIn inner j e := by
        constructor
        · rintro ⟨_, hlt, j, rfl, hend⟩
          exact ⟨j, Nat.lt_of_succ_lt_succ hlt, hend⟩
        · rintro ⟨j, hlt, hend⟩
          exact ⟨j + 1, Nat.succ_lt_succ hlt, j, rfl, hend⟩
      rw [hbehind]
      cases hinner : c.decl? inner with
      | none =>
        have hbroken : c.BreaksOff inner := ⟨0, inner, rfl, hinner⟩
        simp [hinner, hbroken.not_endsIn]
      | some f =>
        simp only [hinner]
        exact ih hinner
    | reference => simp
    | value => simp
    | capability => simp

/-- What is found behind a type is the end of its chain, if the chain is not too long. -/
theorem underlying_eq_some_iff (c : Catalogue) (type : String) (d : TypeDecl) :
    c.underlying type = some d ↔ ∃ n < chainLimit, c.EndsIn type n d := by
  unfold underlying
  cases hdecl : c.decl? type with
  | some own => exact follow_eq_some_iff hdecl chainLimit
  | none =>
    have hbroken : c.BreaksOff type := ⟨0, type, rfl, hdecl⟩
    simp [hbroken.not_endsIn]

/-- Nothing is found behind a chain without an end. -/
theorem underlying_eq_none (h : ∀ n d, ¬ c.EndsIn type n d) : c.underlying type = none := by
  rw [Option.eq_none_iff_forall_ne_some]
  intro d hfound
  obtain ⟨n, -, hend⟩ := (c.underlying_eq_some_iff type d).mp hfound
  exact h n d hend

/-- The capabilities of a type are its own and those of the end of its chain, if the chain is not
too long. -/
theorem hasCapability_iff (c : Catalogue) (type : String) (capability : Capability) :
    c.hasCapability type capability = true ↔
      (∃ d, c.decl? type = some d ∧ d.has capability = true) ∨
        ∃ d, (∃ n < chainLimit, c.EndsIn type n d) ∧ d.has capability = true := by
  simp only [hasCapability, Bool.or_eq_true, Option.any_eq_true, underlying_eq_some_iff]

/-- A catalogue that agrees on the names of a chain has the same chain. -/
theorem behind_congr {other : Catalogue} (n : Nat)
    (h : ∀ k < n, ∀ name, c.behind k type = some name → other.decl? name = c.decl? name) :
    other.behind n type = c.behind n type := by
  induction n with
  | zero => rfl
  | succ n ih =>
    rw [behind_succ, behind_succ, ih fun k hk => h k (Nat.lt_succ_of_lt hk)]
    cases hname : c.behind n type with
    | none => rfl
    | some name =>
      rw [Option.bind_some, Option.bind_some, wrapped?, wrapped?,
        h n (Nat.lt_succ_self n) name hname]

/-- What is found behind a type follows from as many declarations as are looked at. -/
theorem underlying_congr {other : Catalogue}
    (h : ∀ n < chainLimit, ∀ name, c.behind n type = some name →
      other.decl? name = c.decl? name) : other.underlying type = c.underlying type := by
  apply Option.ext
  intro d
  rw [underlying_eq_some_iff, underlying_eq_some_iff]
  refine exists_congr fun n => and_congr_right fun hn => ?_
  have hchain := behind_congr n fun k hk => h k (Nat.lt_trans hk hn)
  rw [EndsIn, EndsIn, hchain]
  cases hname : c.behind n type with
  | none => rfl
  | some name => rw [Option.bind_some, Option.bind_some, h n hn name hname]

/-- Looking through optional types. A chain ends, breaks off or goes round in circles. A type is
found behind it exactly where it ends with fewer optional types before its end than are looked at.
The walk is over by then on every chain: what it finds follows from the declarations that it looks
at. A type has the capabilities of its own declaration and of the type that is found. -/
theorem underlying_of_chain (c : Catalogue) (type : String) :
    (∀ n d, c.EndsIn type n d → (c.underlying type = some d ↔ n < chainLimit)) ∧
      (c.BreaksOff type → c.underlying type = none) ∧
      (c.NeverEnds type → c.underlying type = none) ∧
      ((∃ n d, c.EndsIn type n d) ∨ c.BreaksOff type ∨ c.NeverEnds type) ∧
      (c.NeverEnds type ↔ c.Circles type) ∧
      (∀ other : Catalogue,
        (∀ n < chainLimit, ∀ name, c.behind n type = some name →
          other.decl? name = c.decl? name) → other.underlying type = c.underlying type) ∧
      ∀ capability, c.hasCapability type capability = true ↔
        (∃ d, c.decl? type = some d ∧ d.has capability = true) ∨
          ∃ d, (∃ n < chainLimit, c.EndsIn type n d) ∧ d.has capability = true := by
  refine ⟨fun n d hend => ?_, fun hbroken => underlying_eq_none fun _ _ => hbroken.not_endsIn,
    fun hcircle => underlying_eq_none fun _ _ => hcircle.not_endsIn, c.chain_cases type,
    c.neverEnds_iff_circles type, fun _ => underlying_congr, c.hasCapability_iff type⟩
  rw [underlying_eq_some_iff]
  constructor
  · rintro ⟨m, hm, hend'⟩
    obtain ⟨rfl, -⟩ := hend.unique hend'
    exact hm
  · intro hn
    exact ⟨n, hn, hend⟩

/-- The name of notes that are optional so many times. -/
def noteName (n : Nat) : String := "Note" ++ String.ofList (List.replicate n '?')

/-- Notes that are optional up to so many times, each type declared after the one that it wraps. -/
def optionalNotes : Nat → Catalogue
  | 0 => Catalogue.declare ⟨.empty, []⟩ ⟨"Note", .reference, [.text]⟩
  | n + 1 => (optionalNotes n).declare ⟨noteName (n + 1), .optional (noteName n), []⟩

/-- Notes behind as many optional types as are looked at are not found any more. -/
theorem underlying_optionalNotes :
    (optionalNotes 16).EndsIn (noteName 16) 16 ⟨"Note", .reference, [.text]⟩ ∧ 16 ≤ chainLimit ∧
      (optionalNotes 16).underlying (noteName 16) = none ∧
      (optionalNotes 16).hasCapability (noteName 16) .text = false := by
  refine ⟨⟨?_, rfl⟩, Nat.le_refl 16, ?_, ?_⟩
  all_goals decide +kernel

/-- Behind fifteen optional types the notes are found; nothing is found behind a type that wraps
itself, and nothing behind one that wraps an undeclared type. -/
theorem underlying_of_chain_notes :
    let c := ((optionalNotes 15).declare ⟨"Loop", .optional "Loop", []⟩).declare
      ⟨"Draft?", .optional "Draft", []⟩
    c.EndsIn (noteName 15) 15 ⟨"Note", .reference, [.text]⟩ ∧
      c.underlying (noteName 15) = some ⟨"Note", .reference, [.text]⟩ ∧
      c.Circles "Loop" ∧ c.underlying "Loop" = none ∧
      c.BreaksOff "Draft?" ∧ c.underlying "Draft?" = none := by
  intro c
  have hend : c.EndsIn (noteName 15) 15 ⟨"Note", .reference, [.text]⟩ :=
    ⟨by decide +kernel, rfl⟩
  have hcircle : c.Circles "Loop" := ⟨0, 0, "Loop", rfl, by decide +kernel⟩
  have hbroken : c.BreaksOff "Draft?" := ⟨1, "Draft", by decide +kernel, by decide +kernel⟩
  have hfound := ((underlying_of_chain c (noteName 15)).1 15 _ hend).mpr (by decide)
  obtain ⟨-, -, hnever, -, hcircles, -, -⟩ := underlying_of_chain c "Loop"
  have hnothing := (underlying_of_chain c "Draft?").2.1 hbroken
  exact ⟨hend, hfound, hcircle, hnever (hcircles.mpr hcircle), hbroken, hnothing⟩

end Catalogue

end Contracts
