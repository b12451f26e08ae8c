/-
What is written is decoded.

A reader undoes a writer if it takes the tree of all that is written to what was written (`Undoes`). A record is written
as an object with its fields in order, and read field by field into a draft, which is then completed; so a reader of
records undoes their writer where the reader of each field undoes the writer of it. Nothing else is asked of a field, so
the records here are a list of fields each, and a record with lists of records is no harder.

- `Undoes.list`, `Shape.readMembers_field`: lists and fields.
- `Kind.undoes`, `Token.undoes`, `TokenStream.undoes`: kinds, tokens and streams.
- `Undoes.ofText`: the text of a value is decoded to the value.
-/
import TokenScanner.Proofs.Documents
import TokenScanner.Token.Json

namespace TokenScanner

open Json (Decoder Fault Shape Slot Tree Member Value)

/-! ## Plain values -/

namespace Json

variable {α δ : Type}

/-- the reader takes what is written to what was to be written -/
def Undoes (read : Decoder α) (write : α → Value) : Prop :=
  ∀ a, read (write a).tree = .ok a

theorem undoes_string : Undoes readString .string := by
  intro text
  show Except.ok (String.ofList text.toList) = Except.ok text
  rw [String.ofList_toList]

/-- a word of 32 bits is written as a number that a word of 64 bits holds -/
theorem undoes_word : Undoes readWord fun n => .natural n.toNat := by
  intro n
  have small : n.toNat < UInt32.size := n.toNat_lt
  have value : (Numeral.ofNat n.toNat).value? = some (.natural (UInt64.ofNat n.toNat)) :=
    Numeral.value?_toDigits (Nat.lt_trans small (by decide))
  have same : (UInt64.ofNat n.toNat).toNat = n.toNat :=
    UInt64.toNat_ofNat_of_lt (Nat.lt_trans small (by decide))
  show readWord (.number (Numeral.ofNat n.toNat)) = .ok n
  simp only [readWord, value, same, small, if_true, UInt32.ofNat_toNat]

theorem mapM_read {read : Decoder α} {write : α → Value} (h : Undoes read write) (items : List α) :
    (items.map fun a => (write a).tree).mapM read = .ok items := by
  induction items with
  | nil => rfl
  | cons a rest ih =>
    rw [List.map_cons, List.mapM_cons, h a, ih]
    rfl

/-- a list is read if its items are -/
theorem Undoes.list {read : Decoder α} {write : α → Value} (h : Undoes read write) :
    Undoes (readList read) fun items => .array (items.map write) := by
  intro items
  simp only [Value.tree, Value.trees_eq_map, List.map_map]
  exact mapM_read h items

/-- the text of what is written is decoded to it -/
theorem Undoes.ofText {read : Decoder α} {write : α → Value} (h : Undoes read write) (a : α) :
    Json.ofText read (write a).text = .ok a := by
  have holds : Document ((write a).text ++ []) (write a).tree := (write a).document (Or.inl rfl)
  rw [List.append_nil] at holds
  rw [holds.decode, h a]

/-! ## Records -/

/-- a field is filled with what was written -/
theorem Slot.fill_of {read : Decoder α} {write : α → Value} (h : Undoes read write) (name : String)
    (get : δ → Option α) (set : α → δ → δ) (a : α) (d : δ) :
    (Slot.of name get set read).fill (write a).tree d = .ok (set a d) := by
  simp only [Slot.of, h a, Except.map]

namespace Shape

variable {s : Shape δ α} {slot : Slot δ} {d d' : δ} {key : List Char} {value : Tree} {rest : List Member}

/-- a member whose key is that of a field fills the field -/
theorem readMembers_field (found : s.slots.find? (·.name.toList == key) = some slot) (free : slot.filled d = false)
    (filled : slot.fill value d = .ok d') :
    s.readMembers d (.field (.ok key) value :: rest) = s.readMembers d' rest := by
  rw [readMembers]
  simp only [found, free, filled]
  rfl

/-- a member whose key is that of a field is read as what was written into it -/
theorem readMembers_written {β : Type} {read : Decoder β} {write : β → Value} (h : Undoes read write) {name : String}
    {get : δ → Option β} {set : β → δ → δ} {b : β} (found : s.slots.find? (·.name.toList == key) =
      some (Slot.of name get set read)) (free : get d = none) (filled : set b d = d') :
    s.readMembers d (.field (.ok key) (write b).tree :: rest) = s.readMembers d' rest := by
  have empty : (Slot.of name get set read).filled d = false := by simp only [Slot.of, free, Option.isSome_none]
  rw [readMembers_field found empty (Slot.fill_of h name get set b d), filled]

/-- an object is read as the record that its members make -/
theorem read_object {members : List Member} {a : α} (drafted : s.readMembers s.start members = .ok d)
    (complete : s.complete d = .ok a) : s.read (.object members) = .ok a := by
  rw [read, drafted]
  simp only [bind, Except.bind, complete]
  rfl

end Shape

end Json

/-! ## Kinds, tokens and streams -/

open Json (Undoes undoes_string undoes_word)

/-- a kind is read by its name -/
theorem Kind.undoes : Undoes Kind.read Kind.json := by
  intro k
  rw [Kind.read, Kind.json, undoes_string k.name]
  simp only [bind, Except.bind, ofName?_name]
  rfl

/-- **A token is read as it was written.** -/
theorem Token.undoes : Undoes Token.read Token.json := by
  intro t
  refine Shape.read_object (d := ⟨some t.file, some t.line, some t.column, some t.lexeme, some t.kind⟩) ?_ rfl
  simp only [Value.memberTrees]
  rw [Shape.readMembers_field rfl rfl (Slot.fill_of undoes_string _ _ _ t.file _)]
  rw [Shape.readMembers_field rfl rfl (Slot.fill_of undoes_word _ _ _ t.line _)]
  rw [Shape.readMembers_field rfl rfl (Slot.fill_of undoes_word _ _ _ t.column _)]
  rw [Shape.readMembers_field rfl rfl (Slot.fill_of undoes_string _ _ _ t.lexeme _)]
  rw [Shape.readMembers_field rfl rfl (Slot.fill_of Kind.undoes _ _ _ t.kind _)]
  rfl

/-- **A stream is read as it was written.** -/
theorem TokenStream.undoes : Undoes TokenStream.read TokenStream.json := by
  intro s
  refine Shape.read_object (d := ⟨some s.file, some s.tokens⟩) ?_ rfl
  simp only [Value.memberTrees]
  rw [Shape.readMembers_field rfl rfl (Slot.fill_of undoes_string _ _ _ s.file _)]
  rw [Shape.readMembers_field rfl rfl (Slot.fill_of Token.undoes.list _ _ _ s.tokens _)]
  rfl

end TokenScanner
