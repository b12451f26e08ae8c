/-
Configurations are read field by field.

A configuration is written as an object with its four fields, and some of them may be left out and the others stand in
any order. Reading goes along the members: each fills its own field of the draft and leaves the others as they were, so
after some members the draft has their fields and no others. What the draft lacks is taken from the standard
configuration. A member whose key is no field's is refused where it stands, whatever its value and whatever follows it.

- `Recovery.undoes`, `PatternSet.undoes`: recoveries and sets of patterns are read as they were written.
- `Config.readMembers_entry`: one member fills its field.
- `Config.readMembers_entries`: any members fill theirs.
- `Config.ofJson?_part`: what is read from the fields of a configuration, and from them and another one.
-/
import TokenScanner.Config.Json
import TokenScanner.Proofs.Decoding
import TokenScanner.Proofs.FlagTexts

namespace TokenScanner

open Json (Undoes undoes_string Document Slot Shape Member Tree)

/-! ## Recoveries and sets of patterns -/

theorem Recovery.undoes : Undoes Recovery.read Recovery.json := by
  intro r
  cases r with
  | singleChar => rfl
  | remainder => rfl

/-- a set of patterns is read by its written form, its unassigned bits included -/
theorem PatternSet.undoes : Undoes PatternSet.read PatternSet.json := by
  intro s
  have stored : (String.ofList s.text).toList = s.text := String.toList_ofList
  simp only [PatternSet.read, PatternSet.json, Json.Value.tree, Json.readStringAs, stored, bind, Except.bind,
    ofText?_text]
  rfl

namespace Config

/-! ## Fields -/

/-- a field of a configuration -/
inductive Field where
  | twoChar
  | oneChar
  | patterns
  | recovery
  deriving DecidableEq, Repr

namespace Field

/-- the fields in the order in which they are written -/
def all : List Field :=
  [twoChar, oneChar, patterns, recovery]

/-- the key of a field -/
def key : Field → String
  | twoChar => "two_char"
  | oneChar => "one_char"
  | patterns => "classifiers"
  | recovery => "recovery"

/-- the field of a configuration, to write -/
def json (c : Config) : Field → Json.Value
  | twoChar => .array (c.twoChar.map .string)
  | oneChar => .array (c.oneChar.map .string)
  | patterns => c.patterns.json
  | recovery => c.recovery.json

/-- two configurations have the same in the field -/
def Agrees : Field → Config → Config → Prop
  | twoChar, a, b => a.twoChar = b.twoChar
  | oneChar, a, b => a.oneChar = b.oneChar
  | patterns, a, b => a.patterns = b.patterns
  | recovery, a, b => a.recovery = b.recovery

/-- the member that a field of a configuration is read from -/
def member (c : Config) (f : Field) : Member :=
  .field (.ok f.key.toList) (f.json c).tree

theorem mem_all (f : Field) : f ∈ all := by
  cases f <;> decide

end Field

/-- some fields of a configuration to write, in that order -/
def part (c : Config) (fields : List Field) : Json.Value :=
  .object (fields.map fun f => .mk f.key (f.json c))

theorem json_eq_part (c : Config) : c.json = c.part Field.all := rfl

theorem tree_part (c : Config) (fields : List Field) :
    (c.part fields).tree = .object (fields.map (Field.member c)) := by
  unfold part
  rw [Json.Value.tree]
  congr 1
  induction fields with
  | nil => rfl
  | cons f rest ih => rw [List.map_cons, List.map_cons, Json.Value.memberTrees, ih, Field.member]

/-- configurations that agree in every field are the same -/
theorem eq_of_agrees {a b : Config} (h : ∀ f : Field, f.Agrees a b) : a = b := by
  obtain ⟨twoChar, oneChar, patterns, recovery⟩ := a
  obtain ⟨twoChar', oneChar', patterns', recovery'⟩ := b
  obtain rfl : twoChar = twoChar' := h .twoChar
  obtain rfl : oneChar = oneChar' := h .oneChar
  obtain rfl : patterns = patterns' := h .patterns
  obtain rfl : recovery = recovery' := h .recovery
  rfl

/-! ## Drafts -/

/-- the draft that has those fields of a configuration -/
def drafted (c : Config) (fields : List Field) : Draft where
  twoChar := if .twoChar ∈ fields then some c.twoChar else none
  oneChar := if .oneChar ∈ fields then some c.oneChar else none
  patterns := if .patterns ∈ fields then some c.patterns else none
  recovery := if .recovery ∈ fields then some c.recovery else none

/-- a completed draft has its fields from the configuration -/
theorem agrees_complete_of_mem {c : Config} {fields : List Field} {f : Field} (h : f ∈ fields) :
    f.Agrees (c.drafted fields).complete c := by
  cases f <;> simp [Field.Agrees, Draft.complete, drafted, h]

/-- a completed draft has the others from the standard configuration -/
theorem agrees_complete_of_not_mem {c : Config} {fields : List Field} {f : Field} (h : f ∉ fields) :
    f.Agrees (c.drafted fields).complete standard := by
  cases f <;> simp [Field.Agrees, Draft.complete, drafted, h]

/-! ## Members -/

/-- **One member fills its field** and no other. -/
theorem readMembers_entry (c : Config) {seen : List Field} {f : Field} (absent : f ∉ seen) (rest : List Member) :
    shape.readMembers (c.drafted seen) (f.member c :: rest) =
      shape.readMembers (c.drafted (seen ++ [f])) rest := by
  cases f with
  | twoChar => exact Shape.readMembers_written undoes_string.list rfl (if_neg absent) (by simp [drafted])
  | oneChar => exact Shape.readMembers_written undoes_string.list rfl (if_neg absent) (by simp [drafted])
  | patterns => exact Shape.readMembers_written PatternSet.undoes rfl (if_neg absent) (by simp [drafted])
  | recovery => exact Shape.readMembers_written Recovery.undoes rfl (if_neg absent) (by simp [drafted])

/-- **Any members fill theirs,** in whatever order. -/
theorem readMembers_entries (c : Config) (fields seen : List Field) (once : (seen ++ fields).Nodup)
    (rest : List Member) :
    shape.readMembers (c.drafted seen) (fields.map (Field.member c) ++ rest) =
      shape.readMembers (c.drafted (seen ++ fields)) rest := by
  -- what was read is exactly what was seen, so no field is met a second time
  induction fields generalizing seen with
  | nil => rw [List.map_nil, List.nil_append, List.append_nil]
  | cons f more ih =>
    have absent : f ∉ seen := fun old => (List.nodup_append.1 once).2.2 f old f List.mem_cons_self rfl
    rw [List.append_cons] at once
    rw [List.map_cons, List.cons_append, readMembers_entry c absent, ih _ once, List.append_cons seen f more]

/-- nothing has been read before the first member -/
theorem drafted_nil (c : Config) : c.drafted [] = shape.start := rfl

/-- a member of another name is refused where it stands -/
theorem readMembers_foreign {key : List Char} (foreign : ∀ f : Field, f.key.toList ≠ key) (d : Draft) (value : Tree)
    (rest : List Member) : shape.readMembers d (.field (.ok key) value :: rest) =
      .error (.unknownField (String.ofList key) (Field.all.map Field.key)) := by
  have unknown : shape.slots.find? (·.name.toList == key) = none := by
    rw [List.find?_eq_none]
    intro slot listed named
    have names : slot.name ∈ Field.all.map Field.key := List.mem_map_of_mem (f := Slot.name) listed
    obtain ⟨f, -, same⟩ := List.mem_map.1 names
    exact foreign f (same ▸ beq_iff_eq.1 named)
  rw [Shape.readMembers, unknown]
  rfl

/-! ## Texts -/

variable {c : Config} {fields : List Field} {text : List Char}

theorem document_part (c : Config) (fields : List Field) :
    Document (c.part fields).text (.object (fields.map (Field.member c))) := by
  have holds := (c.part fields).document (Or.inl rfl)
  rwa [List.append_nil, tree_part] at holds

/-- an object of some fields is read as the draft with these, completed -/
theorem ofJson?_of_document (once : fields.Nodup) (h : Document text (.object (fields.map (Field.member c)))) :
    ofJson? text = .ok (c.drafted fields).complete := by
  refine (h.decode read).trans (Shape.read_object (d := c.drafted fields) ?_ rfl)
  have filled := readMembers_entries c fields [] once []
  rwa [List.append_nil, List.nil_append] at filled

/-- an object of all fields is read as the configuration that they are from -/
theorem ofJson?_of_all (once : fields.Nodup) (every : ∀ f, f ∈ fields)
    (h : Document text (.object (fields.map (Field.member c)))) : ofJson? text = .ok c := by
  have same : (c.drafted fields).complete = c := eq_of_agrees fun f => agrees_complete_of_mem (every f)
  rw [ofJson?_of_document once h, same]

/-- an object with another member between some fields is refused -/
theorem ofJson?_of_foreign {front back : List Field} (once : (front ++ back).Nodup) {key : List Char}
    (foreign : ∀ f : Field, f.key.toList ≠ key) {value : Tree}
    (h : Document text (.object (front.map (Field.member c) ++
      .field (.ok key) value :: back.map (Field.member c)))) :
    ofJson? text = .error (.unknownField (String.ofList key) (Field.all.map Field.key)) := by
  refine (h.decode read).trans ?_
  rw [read, Shape.read, ← drafted_nil c, readMembers_entries c front [] (List.nodup_append.1 once).1,
    readMembers_foreign foreign]
  rfl

/-- **Partial configurations are read back field by field.** Some fields of a configuration, whatever is in them, are
written in any order, each once. A text that holds the object of these members is read as the configuration that has
these fields from the one written and the others from the standard one, and as the one written if all fields are there.
A text that holds the object with one more member of another name, wherever it stands and whatever its value, is
refused for its name. -/
theorem ofJson?_part (c : Config) (fields : List Field) (once : fields.Nodup) :
    Document (c.part fields).text (.object (fields.map (Field.member c))) ∧
    (∀ text, Document text (.object (fields.map (Field.member c))) →
      ∃ d, ofJson? text = .ok d ∧ (∀ f ∈ fields, f.Agrees d c) ∧ ∀ f, f ∉ fields → f.Agrees d standard) ∧
    ((∀ f, f ∈ fields) → ∀ text, Document text (.object (fields.map (Field.member c))) → ofJson? text = .ok c) ∧
    ofJson? c.json.text = .ok c ∧
    ∀ front back, fields = front ++ back → ∀ key, (∀ f : Field, f.key.toList ≠ key) → ∀ value text,
      Document text (.object (front.map (Field.member c) ++
        .field (.ok key) value :: back.map (Field.member c))) →
      ofJson? text = .error (.unknownField (String.ofList key) (Field.all.map Field.key)) := by
  refine ⟨c.document_part fields, ?_, ?_, ?_, ?_⟩
  · intro text holds
    exact ⟨(c.drafted fields).complete, ofJson?_of_document once holds, fun f => agrees_complete_of_mem,
      fun f => agrees_complete_of_not_mem⟩
  · intro every text holds
    exact ofJson?_of_all once every holds
  · rw [json_eq_part]
    exact ofJson?_of_all (by decide) Field.mem_all (c.document_part Field.all)
  · rintro front back rfl key foreign value text holds
    exact ofJson?_of_foreign once foreign holds

/-- two fields of a configuration that has bits of no pattern, all four in another order, and a key that differs from a
field's in its case -/
theorem ofJson?_part_two :
    let c : Config := ⟨["EQEQ"], ["SMILEY\n"], ⟨0xE5⟩, .remainder⟩
    [Field.recovery, .patterns].Nodup ∧
    ofJson? "\x7b\n  \"recovery\": \"remainder\",\n  \"classifiers\": \"DIGITS | NEWLINE | 0xe0\"\n\x7d".toList =
      .ok { standard with patterns := ⟨0xE5⟩, recovery := .remainder } ∧
    ofJson? (c.part [.recovery, .patterns, .oneChar, .twoChar]).text = .ok c ∧
    ofJson? "\x7b\n  \"recovery\": \"remainder\",\n  \"Recovery\": []\n\x7d".toList =
      .error (.unknownField "Recovery" ["two_char", "one_char", "classifiers", "recovery"]) := by
  intro c
  have once : [Field.recovery, .patterns].Nodup := by decide
  refine ⟨once, ?_, ?_, ?_⟩
  · have spelled : (c.part [.recovery, .patterns]).text =
        "\x7b\n  \"recovery\": \"remainder\",\n  \"classifiers\": \"DIGITS | NEWLINE | 0xe0\"\n\x7d".toList := by
      decide +kernel
    obtain ⟨written, read, -⟩ := ofJson?_part c [.recovery, .patterns] once
    obtain ⟨d, read, own, others⟩ := read _ written
    have same : d = { standard with patterns := ⟨0xE5⟩, recovery := .remainder } := by
      apply eq_of_agrees
      intro f
      cases f with
      | twoChar => exact others .twoChar (by decide)
      | oneChar => exact others .oneChar (by decide)
      | patterns => exact own .patterns (by decide)
      | recovery => exact own .recovery (by decide)
    rw [← spelled, read, same]
  · obtain ⟨written, -, whole, -⟩ := ofJson?_part c [.recovery, .patterns, .oneChar, .twoChar] (by decide)
    exact whole (by intro f; cases f <;> decide) _ written
  · have spelled : (Json.Value.object [.mk "recovery" c.recovery.json, .mk "Recovery" (.array [])]).text =
        "\x7b\n  \"recovery\": \"remainder\",\n  \"Recovery\": []\n\x7d".toList := by decide +kernel
    obtain ⟨-, -, -, -, refused⟩ := ofJson?_part c [.recovery] (by decide)
    have holds := Json.Value.document (.object [.mk "recovery" c.recovery.json, .mk "Recovery" (.array [])])
      (Or.inl rfl)
    rw [List.append_nil, spelled] at holds
    exact refused [.recovery] [] rfl "Recovery".toList (by intro f; cases f <;> decide) (.array []) _ holds

end Config

end TokenScanner
