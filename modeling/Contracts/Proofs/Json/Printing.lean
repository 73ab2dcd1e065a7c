import Contracts.Json.Printer
import Contracts.Json.Reader

/-!
# Documents that are read back from their text

A document is written as a sequence of words, with blanks between them or without. Every word ends
by itself, numbers apart, so whatever follows it, it is cut off as the word that was written; in a
string the escapes bring each character back. The words then build the document again, as long as
no container in it is nested deeper than a reader goes.
-/

namespace Contracts.Json

/-- A value other than a number that is no container. -/
inductive IsWord : Json → Prop where
  | null : IsWord .null
  | bool (b : Bool) : IsWord (.bool b)
  | text (s : String) : IsWord (.text s)

/-- A document without numbers whose containers are nested no deeper than a limit. -/
inductive IsPlain : Nat → Json → Prop where
  | word {depth : Nat} {value : Json} (h : value.IsWord) : IsPlain depth value
  | array {depth : Nat} {items : List Json} (h : ∀ item ∈ items, IsPlain depth item) :
    IsPlain (depth + 1) (.array items)
  | object {depth : Nat} {members : List (String × Json)}
    (h : ∀ member ∈ members, IsPlain depth member.2) : IsPlain (depth + 1) (.object members)

mutual

/-- The words of a document. -/
def words : Json → List Token
  | .array items => .openArray :: wordsOfItems items ++ [.closeArray]
  | .object members => .openObject :: wordsOfMembers members ++ [.closeObject]
  | value => [.scalar value]

/-- The words of the items of an array, commas between them. -/
def wordsOfItems : List Json → List Token
  | [] => []
  | [item] => words item
  | item :: rest => words item ++ .comma :: wordsOfItems rest

/-- The words of the members of an object, commas between them. -/
def wordsOfMembers : List (String × Json) → List Token
  | [] => []
  | [(name, value)] => .scalar (.text name) :: .colon :: words value
  | (name, value) :: rest =>
    .scalar (.text name) :: .colon :: words value ++ .comma :: wordsOfMembers rest

end

/-- What is written for a list is what is written for its items, a separator between them. -/
structure Separates {β γ : Type} (separator : γ) (one : β → List γ) (all : List β → List γ) :
    Prop where
  nil : all [] = []
  singleton : ∀ b, all [b] = one b
  cons : ∀ b next rest, all (b :: next :: rest) = one b ++ separator :: all (next :: rest)

/-- The words of a member of an object. -/
def wordsOfMember (member : String × Json) : List Token :=
  .scalar (.text member.1) :: .colon :: member.2.words

/-- The words of items have commas between them. -/
theorem separates_wordsOfItems : Separates Token.comma words wordsOfItems :=
  ⟨rfl, fun _ => rfl, fun _ _ _ => rfl⟩

/-- The words of members have commas between them. -/
theorem separates_wordsOfMembers : Separates Token.comma wordsOfMember wordsOfMembers :=
  ⟨rfl, fun _ => rfl, fun _ _ _ => rfl⟩

namespace Token

/-! ### Strings -/

/-- The digits of a control character. -/
theorem hexQuad?_control : ∀ n < 0x20,
    hexQuad? ['0', '0', hexDigit (n / 16), hexDigit (n % 16)] = some n := by
  decide

/-- The numbered escape of a control character. -/
theorem numbered?_control {c : Char} (h : c.toNat < 0x20) (text : List Char) :
    numbered? ('0' :: '0' :: hexDigit (c.toNat / 16) :: hexDigit (c.toNat % 16) :: text) =
      some (some c, 4) := by
  have hquad : hexQuad? (('0' :: '0' :: hexDigit (c.toNat / 16) :: hexDigit (c.toNat % 16) ::
      text).take 4) = some c.toNat := hexQuad?_control c.toNat h
  rw [numbered?, hquad]
  simp only [Option.bind_eq_bind, Option.bind_some]
  rw [if_neg (by omega), if_neg (by omega), Char.ofNat_toNat]

/-- A character is read back from its escape. -/
theorem string?_escape (c : Char) (text read : List Char) (used : Nat) :
    string? (escape c ++ text) (some read) used =
      string? text (some (c :: read)) (used + (escape c).length) := by
  unfold escape
  split
  case h_8 hquote hbackslash _ _ _ _ _ =>
    split
    case isTrue hcontrol =>
      simp only [List.cons_append, List.nil_append]
      rw [string?, numbered?_control hcontrol]
      rfl
    case isFalse hplain =>
      rw [List.singleton_append, string?]
      · rw [if_neg hplain]
        rfl
      · exact hquote
      · exact fun _ hc _ => hbackslash hc
      · exact fun _ _ hc _ => hbackslash hc
      · exact fun hc _ => hbackslash hc
  -- the escapes of one letter
  all_goals
    simp only [List.cons_append, List.nil_append]
    rw [string?]
    · rfl
    · decide

/-- Characters are read back from their escapes, up to the closing quote. -/
theorem string?_flatMap_escape (cs text read : List Char) (used : Nat) :
    string? (cs.flatMap escape ++ '"' :: text) (some read) used =
      some (some (cs.reverse ++ read), used + (cs.flatMap escape).length + 1) := by
  induction cs generalizing read used with
  | nil =>
    rw [List.flatMap_nil, List.nil_append, string?]
    rfl
  | cons c cs ih =>
    rw [List.flatMap_cons, List.append_assoc, string?_escape, ih]
    simp [Nat.add_assoc]

/-- The word behind an opening quote. -/
theorem first_quote (s : String) (text : List Char) :
    first '"' (s.toList.flatMap escape ++ '"' :: text) =
      (.scalar (.text s), (s.toList.flatMap escape).length + 1) := by
  rw [first]
  simp only [string?_flatMap_escape]
  simp

/-! ### Texts and their words -/

/-- A text that is cut into some words, whatever follows it. -/
def Spells (text : List Char) (tokens : List Token) : Prop :=
  ∀ rest, cut (text ++ rest) = tokens ++ cut rest

/-- A text that ends with its words is cut into them. -/
theorem Spells.cut_eq {text : List Char} {tokens : List Token} (h : Spells text tokens) :
    cut text = tokens := by
  have hcut := h []
  rwa [List.append_nil, cut, List.append_nil] at hcut

/-- Texts may be put together. -/
theorem Spells.append {text text' : List Char} {tokens tokens' : List Token}
    (h : Spells text tokens) (h' : Spells text' tokens') :
    Spells (text ++ text') (tokens ++ tokens') := by
  intro rest
  rw [List.append_assoc, h, h', List.append_assoc]

/-- No text spells no words. -/
theorem spells_nil : Spells [] [] := fun _ => rfl

/-- A word that takes the same characters whatever follows it. -/
theorem spells_first {c : Char} {text : List Char} {token : Token}
    (hblank : isBlank c = false) (hfirst : ∀ rest, first c (text ++ rest) = (token, text.length))
    (hknown : token ≠ .unknown) : Spells (c :: text) [token] := by
  intro rest
  rw [List.cons_append, cut, hblank, hfirst]
  cases token with
  | unknown => contradiction
  | _ => simp

/-- A blank is no word. -/
theorem spells_blank {c : Char} (h : isBlank c = true) : Spells [c] [] := by
  intro rest
  rw [List.singleton_append, cut, if_pos h, List.nil_append]

/-- The start of a line is no word. -/
theorem spells_newline (level : Nat) : Spells (newline level) [] := by
  have hblanks : ∀ count, Spells (List.replicate count ' ') [] := by
    intro count
    induction count with
    | zero => exact spells_nil
    | succ count ih => exact (spells_blank rfl).append ih
  exact (spells_blank rfl).append (hblanks _)

/-- Lines may be started behind a word. -/
theorem Spells.newline {text : List Char} {tokens : List Token} (h : Spells text tokens)
    (level : Nat) : Spells (text ++ newline level) tokens := by
  simpa using h.append (spells_newline level)

/-- The character of a punctuation mark. -/
def mark? : Token → Option Char
  | .openArray => some '['
  | .closeArray => some ']'
  | .openObject => some '\x7b'
  | .closeObject => some '\x7d'
  | .comma => some ','
  | .colon => some ':'
  | _ => none

/-- A punctuation mark is spelt by its character. -/
theorem spells_mark (token : Token) {c : Char} (h : token.mark? = some c) :
    Spells [c] [token] := by
  cases token with
  | scalar _ => contradiction
  | halfText => contradiction
  | unknown => contradiction
  | _ =>
    obtain rfl := Option.some.inj h
    exact spells_first rfl (fun _ => rfl) nofun

/-- A string is spelt between quotes. -/
theorem spells_quote (s : String) : Spells (quote s) [.scalar (.text s)] := by
  refine spells_first rfl (fun rest => ?_) nofun
  have hquote := first_quote s rest
  rw [← List.singleton_append, ← List.append_assoc] at hquote
  exact hquote.trans (by simp)

/-- Values that are no containers, numbers apart, are words. -/
theorem spells_scalar {value : Json} (h : value.IsWord) :
    Spells value.scalar [.scalar value] := by
  cases h with
  | null => exact spells_first rfl (fun _ => rfl) nofun
  | bool b =>
    cases b with
    | true => exact spells_first rfl (fun _ => rfl) nofun
    | false => exact spells_first rfl (fun _ => rfl) nofun
  | text s => exact spells_quote s

/-- If items spell their words, the items with commas between them do. -/
theorem spells_of_separates {β : Type} {write : β → List Char} {writeAll : List β → List Char}
    {tokens : β → List Token} {tokensAll : List β → List Token}
    (htext : Separates ',' write writeAll) (htokens : Separates .comma tokens tokensAll)
    {items : List β} (h : ∀ item ∈ items, Spells (write item) (tokens item)) :
    Spells (writeAll items) (tokensAll items) := by
  induction items with
  | nil =>
    rw [htext.nil, htokens.nil]
    exact spells_nil
  | cons item rest ih =>
    rw [List.forall_mem_cons] at h
    cases rest with
    | nil =>
      rw [htext.singleton, htokens.singleton]
      exact h.1
    | cons next rest =>
      rw [htext.cons, htokens.cons]
      exact h.1.append ((spells_mark .comma rfl).append (ih h.2))

/-! ### Documents on one line -/

/-- Items on one line spell their words. -/
theorem spells_compactItems {items : List Json}
    (h : ∀ item ∈ items, Spells item.compact item.words) :
    Spells (compactItems items) (wordsOfItems items) := by
  have htext : Separates ',' compact compactItems := ⟨rfl, fun _ => rfl, fun _ _ _ => rfl⟩
  exact spells_of_separates htext separates_wordsOfItems h

/-- Members on one line spell their words. -/
theorem spells_compactMembers {members : List (String × Json)}
    (h : ∀ member ∈ members, Spells member.2.compact member.2.words) :
    Spells (compactMembers members) (wordsOfMembers members) := by
  have htext : Separates ',' (fun member => quote member.1 ++ ':' :: member.2.compact)
      compactMembers := ⟨rfl, fun _ => rfl, fun _ _ _ => rfl⟩
  refine spells_of_separates htext separates_wordsOfMembers fun member hmember => ?_
  exact (spells_quote member.1).append ((spells_mark .colon rfl).append (h member hmember))

/-- A document on one line spells its words. -/
theorem spells_compact {depth : Nat} {json : Json} (h : json.IsPlain depth) :
    Spells json.compact json.words := by
  induction h with
  | word h =>
    have hword := spells_scalar h
    cases h <;> exact hword
  | array _ ih =>
    exact (spells_mark .openArray rfl).append
      ((spells_compactItems ih).append (spells_mark .closeArray rfl))
  | object _ ih =>
    exact (spells_mark .openObject rfl).append
      ((spells_compactMembers ih).append (spells_mark .closeObject rfl))

/-! ### Documents over several lines -/

variable {level : Nat}

/-- Items on lines of their own spell their words. -/
theorem spells_indentedItems {items : List Json}
    (h : ∀ item ∈ items, Spells (item.indented level) item.words) :
    Spells (indentedItems level items) (wordsOfItems items) := by
  have htext : Separates ',' (fun item => newline level ++ item.indented level)
      (indentedItems level) := ⟨rfl, fun _ => rfl, fun _ _ _ => rfl⟩
  refine spells_of_separates htext separates_wordsOfItems fun item hitem => ?_
  exact (spells_newline level).append (h item hitem)

/-- Members on lines of their own spell their words. -/
theorem spells_indentedMembers {members : List (String × Json)}
    (h : ∀ member ∈ members, Spells (member.2.indented level) member.2.words) :
    Spells (indentedMembers level members) (wordsOfMembers members) := by
  have htext : Separates ','
      (fun member => newline level ++ quote member.1 ++ [':', ' '] ++ member.2.indented level)
      (indentedMembers level) := ⟨rfl, fun _ => rfl, fun _ _ _ => rfl⟩
  refine spells_of_separates htext separates_wordsOfMembers fun member hmember => ?_
  have hname := (spells_newline level).append (spells_quote member.1)
  have hcolon : Spells [':', ' '] [.colon] :=
    (spells_mark .colon rfl).append (spells_blank rfl)
  exact (hname.append hcolon).append (h member hmember)

/-- A document over several lines spells its words. -/
theorem spells_indented {depth : Nat} {json : Json} (h : json.IsPlain depth) (level : Nat) :
    Spells (json.indented level) json.words := by
  induction h generalizing level with
  | word h =>
    have hword := spells_scalar h
    cases h <;> exact hword
  | @array _ items _ ih =>
    have hopen := spells_mark .openArray rfl
    have hclose := spells_mark .closeArray rfl
    cases items with
    | nil => exact hopen.append hclose
    | cons item rest =>
      have hitems := spells_indentedItems fun item hitem => ih item hitem (level + 1)
      exact ((hopen.append hitems).newline level).append hclose
  | @object _ members _ ih =>
    have hopen := spells_mark .openObject rfl
    have hclose := spells_mark .closeObject rfl
    cases members with
    | nil => exact hopen.append hclose
    | cons member rest =>
      have hmembers :=
        spells_indentedMembers fun member hmember => ih member hmember (level + 1)
      exact ((hopen.append hmembers).newline level).append hclose

end Token

/-! ### Words that build a document -/

section Frames

variable {outer : List Frame}

/-- Within few frames nothing is nested too deep. -/
theorem tooDeep_eq_false (h : outer.length < deepest) : tooDeep outer = false := by
  have hkept : outer.drop (deepest - 1) = [] := List.drop_eq_nil_of_le (Nat.le_sub_one_of_lt h)
  rw [tooDeep, hkept]
  rfl

/-- Within few frames an array keeps its items. -/
theorem arrayWithin_eq_array (h : outer.length < deepest) (items : List Json)
    (wellFormed : Bool) : arrayWithin outer items wellFormed = .array items := by
  rw [arrayWithin, tooDeep_eq_false h]
  rfl

/-- Within few frames an object whose names are all texts keeps its members. -/
theorem OpenObject.within_eq_object (h : outer.length < deepest) (members : List (String × Json))
    (wellFormed : Bool) :
    OpenObject.within ⟨members, true⟩ outer wellFormed = .object members.reverse := by
  rw [within, tooDeep_eq_false h]
  rfl

/-- The words of a document are read as the document where a value may start. -/
def IsBuiltWithin (json : Json) (outer : List Frame) : Prop :=
  json.words.foldl Progress.step (.value outer) = .next json outer

/-- The words of items are read as the rest of an array. -/
theorem foldl_wordsOfItems (houter : outer.length < deepest) {items : List Json}
    (hsome : items ≠ [])
    (h : ∀ item ∈ items, ∀ before, item.IsBuiltWithin (.array before :: outer))
    (before : List Json) :
    (wordsOfItems items ++ [Token.closeArray]).foldl Progress.step
      (.value (.array before :: outer)) = .next (.array (before.reverse ++ items)) outer := by
  induction items generalizing before with
  | nil => contradiction
  | cons item rest ih =>
    rw [List.forall_mem_cons] at h
    have hitem := h.1 before
    cases rest with
    | nil =>
      rw [separates_wordsOfItems.singleton, List.foldl_append, hitem, ← List.reverse_cons,
        ← arrayWithin_eq_array houter _ true]
      rfl
    | cons next rest =>
      have hrest := ih nofun h.2 (item :: before)
      rw [List.reverse_cons, List.append_assoc, List.singleton_append] at hrest
      rw [separates_wordsOfItems.cons, List.append_assoc, List.foldl_append, hitem]
      exact hrest

/-- The words of members are read as the rest of an object. -/
theorem foldl_wordsOfMembers (houter : outer.length < deepest) {members : List (String × Json)}
    (hsome : members ≠ [])
    (h : ∀ member ∈ members, ∀ o name, member.2.IsBuiltWithin (.object o name :: outer))
    (before : List (String × Json)) :
    (wordsOfMembers members ++ [Token.closeObject]).foldl Progress.step
      (.name ⟨before, true⟩ outer) = .next (.object (before.reverse ++ members)) outer := by
  induction members generalizing before with
  | nil => contradiction
  | cons member rest ih =>
    rw [List.forall_mem_cons] at h
    -- the name and the colon put the next frame on the frames around the object
    have hmember : (wordsOfMember member).foldl Progress.step (.name ⟨before, true⟩ outer) =
        .next member.2 (.object ⟨before, true⟩ member.1 :: outer) := h.1 ⟨before, true⟩ member.1
    cases rest with
    | nil =>
      rw [separates_wordsOfMembers.singleton, List.foldl_append, hmember, ← List.reverse_cons,
        ← OpenObject.within_eq_object houter _ true]
      rfl
    | cons next rest =>
      have hrest := ih nofun h.2 (member :: before)
      rw [List.reverse_cons, List.append_assoc, List.singleton_append] at hrest
      rw [separates_wordsOfMembers.cons, List.append_assoc, List.foldl_append, hmember]
      exact hrest

/-- The first word of a document does not close an array. -/
theorem exists_words_eq_cons (json : Json) :
    ∃ token tokens, json.words = token :: tokens ∧ token ≠ .closeArray := by
  cases json <;> exact ⟨_, _, rfl, nofun⟩

/-- The first word of items does not close an array. -/
theorem exists_wordsOfItems_eq_cons (item : Json) (rest : List Json) :
    ∃ token tokens, wordsOfItems (item :: rest) = token :: tokens ∧ token ≠ .closeArray := by
  obtain ⟨token, tokens, hwords, htoken⟩ := exists_words_eq_cons item
  cases rest with
  | nil => exact ⟨token, tokens, hwords, htoken⟩
  | cons next rest =>
    refine ⟨token, tokens ++ .comma :: wordsOfItems (next :: rest), ?_, htoken⟩
    rw [separates_wordsOfItems.cons, hwords]
    rfl

/-- A word that does not close an array starts its first item. -/
theorem step_item {token : Token} (h : token ≠ .closeArray) :
    Progress.step (.item outer) token = Progress.step (.value (.array [] :: outer)) token := by
  cases token with
  | closeArray => contradiction
  | _ => rfl

/-- The words of a document build it again, if it is not nested too deep in the frames around
it. -/
theorem isBuiltWithin_of_isPlain {depth : Nat} {json : Json} (h : json.IsPlain depth)
    (hdepth : outer.length + depth ≤ deepest) : json.IsBuiltWithin outer := by
  induction h generalizing outer with
  | word h => cases h <;> rfl
  | @array depth items _ ih =>
    have houter : outer.length < deepest := by omega
    cases items with
    | nil => exact congrArg (Progress.next · outer) (arrayWithin_eq_array houter [] true)
    | cons item rest =>
      obtain ⟨token, tokens, hwords, htoken⟩ := exists_wordsOfItems_eq_cons item rest
      have hitems := foldl_wordsOfItems houter (List.cons_ne_nil item rest)
        (fun item hitem before => ih item hitem (by rw [List.length_cons]; omega)) []
      change (wordsOfItems (item :: rest) ++ [Token.closeArray]).foldl Progress.step
        (.item outer) = _
      rw [hwords, List.cons_append, List.foldl_cons] at hitems ⊢
      rwa [step_item htoken]
  | @object depth members _ ih =>
    have houter : outer.length < deepest := by omega
    cases members with
    | nil => exact congrArg (Progress.next · outer) (OpenObject.within_eq_object houter [] true)
    | cons member rest =>
      have hmembers := foldl_wordsOfMembers houter (List.cons_ne_nil member rest)
        (fun member hmember o name => ih member hmember (by rw [List.length_cons]; omega)) []
      cases rest <;> exact hmembers

end Frames

/-! ### Documents and their texts -/

section Texts

variable {depth : Nat} {json : Json}

/-- A text that spells the words of a document is read as the document. -/
theorem ofText_of_spells (h : json.IsPlain depth) (hdepth : depth ≤ deepest) {text : List Char}
    (htext : Token.Spells text json.words) :
    Document.ofText (String.ofList text) = ⟨json, false⟩ := by
  have hbuilt : json.IsBuiltWithin [] :=
    isBuiltWithin_of_isPlain h (by rwa [List.length_nil, Nat.zero_add])
  rw [Document.ofText, String.toList_ofList, htext.cut_eq, hbuilt]
  rfl

/-- A document is read back from one line. -/
theorem ofText_toCompact (h : json.IsPlain depth) (hdepth : depth ≤ deepest) :
    Document.ofText json.toCompact = ⟨json, false⟩ :=
  ofText_of_spells h hdepth (Token.spells_compact h)

/-- A document is read back from several lines. -/
theorem ofText_toIndented (h : json.IsPlain depth) (hdepth : depth ≤ deepest) :
    Document.ofText json.toIndented = ⟨json, false⟩ :=
  ofText_of_spells h hdepth (Token.spells_indented h 0)

end Texts

end Contracts.Json
