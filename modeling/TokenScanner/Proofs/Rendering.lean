/-
Records are written piece by piece as they read whole.

The commas of a record come from a stack of marks that all records under way share, while the text of a record
(`Record.text`) is said by its shape alone. The two agree in every state of a writer: the calls of a record add its text
and leave the stack as it was (`Record.calls_eq_write`). On the way the innermost mark says which of two things a field
adds: its text where the record has no field yet, and a comma, a space and its text where it has one (`following`).

- `Record.calls_eq_write`, `Record.call_field`, `Record.calls_fields`: what a record, a field and further fields add.
- `Record.written_calls`: what a new writer makes of a record.
- `Record.render_records`: all of it, for records inside others and for streams of tokens.
-/
import TokenScanner.Token.Display

namespace TokenScanner.Record

/-- the texts, each with a comma and a space before it -/
def following (texts : List String) : String :=
  String.join (texts.map fun text => ", " ++ text)

theorem following_nil : following [] = "" := rfl

theorem following_cons (text : String) (rest : List String) :
    following (text :: rest) = ", " ++ text ++ following rest := by
  rw [following, List.map_cons, String.join_cons, following]

theorem separated_cons (text : String) (rest : List String) : separated (text :: rest) = text ++ following rest := by
  induction rest generalizing text with
  | nil => rw [separated, String.intercalate_singleton, following_nil, String.append_empty]
  | cons next rest ih =>
    have tail := ih next
    rw [separated] at tail
    rw [separated, String.intercalate_cons_cons, tail, following_cons, String.append_assoc, String.append_assoc]

namespace Writer

variable {out : String} {outer : List Bool}

theorem write_write (w : Writer) (a b : String) : (w.write a).write b = w.write (a ++ b) := by
  simp only [write, String.append_assoc]

theorem write_empty (w : Writer) : w.write "" = w := by
  simp only [write, String.append_empty]

theorem begin_eq (w : Writer) (name : String) :
    w.begin name = ⟨(w.write (name ++ "(")).out, false :: w.opened⟩ := by
  simp only [begin, write, String.append_assoc]

theorem close_cons (b : Bool) : close ⟨out, b :: outer⟩ = ⟨out ++ ")", outer⟩ := rfl

/-- the first field of a record needs nothing before it -/
theorem separate_false : separate ⟨out, false :: outer⟩ = ⟨out, true :: outer⟩ := rfl

/-- a further field needs a comma -/
theorem separate_true : separate ⟨out, true :: outer⟩ = ⟨out ++ ", ", true :: outer⟩ := rfl

theorem calls_append (w : Writer) (front back : List Call) : w.calls (front ++ back) = (w.calls front).calls back := by
  induction front generalizing w with
  | nil => rw [List.nil_append, calls]
  | cons c front ih => rw [List.cons_append, calls, ih, calls]

theorem calls_singleton (w : Writer) (c : Call) : w.calls [c] = w.call c := by
  rw [calls, calls]

theorem label_write (w : Writer) (key value : String) :
    (w.label key).write value = w.separate.write (key ++ ": " ++ value) := by
  rw [label, write_write, write_write, String.append_assoc]

end Writer

open Writer

/-! ## What calls add -/

theorem calls_mk (w : Writer) (name : String) (fields : List Field) :
    w.calls (Record.mk name fields).calls = ((w.begin name).calls (fieldCalls fields)).close := by
  rw [calls, List.cons_append, Writer.calls, calls_append, calls_singleton, call, call]

mutual

/-- **A record adds its text** to whatever is written, and leaves the records around it as they were. -/
theorem calls_eq_write (r : Record) (w : Writer) : w.calls r.calls = w.write r.text := by
  obtain ⟨name, fields⟩ := r
  rw [calls_mk, begin_eq, text]
  cases fields with
  | nil =>
    rw [fieldCalls, Writer.calls, close_cons, fieldTexts, separated, String.intercalate_nil]
    simp only [write, String.append_assoc, String.empty_append]
  | cons field rest =>
    rw [fieldCalls, Writer.calls, call_field field, separate_false, write, calls_fields rest, close_cons]
    rw [fieldTexts, separated_cons]
    simp only [write, String.append_assoc]

/-- a field adds its text, behind what separates it from the field before -/
theorem call_field (field : Field) (w : Writer) : w.call field.call = w.separate.write field.text := by
  cases field with
  | plain key value => rw [Field.call, call, label_write, Field.text]
  | record key value => rw [Field.call, call, calls_eq_write value, label_write, Field.text]
  | records key values =>
    have bracket : ": [" = ": " ++ "[" := rfl
    rw [Field.call, call, items_eq_write values, write_write, write_write, label_write, Field.text, bracket]
    simp only [String.append_assoc]

/-- the fields behind another each add a comma and their text -/
theorem calls_fields (fields : List Field) (out : String) (outer : List Bool) :
    Writer.calls ⟨out, true :: outer⟩ (fieldCalls fields) = ⟨out ++ following (fieldTexts fields), true :: outer⟩ := by
  cases fields with
  | nil => rw [fieldCalls, Writer.calls, fieldTexts, following_nil, String.append_empty]
  | cons field rest =>
    rw [fieldCalls, Writer.calls, call_field field, separate_true, write, calls_fields rest, fieldTexts, following_cons]
    simp only [String.append_assoc]

/-- a list of records adds their texts with commas between them -/
theorem items_eq_write (values : List Record) (w : Writer) :
    w.items (itemCalls values) = w.write (separated (texts values)) := by
  cases values with
  | nil => rw [itemCalls, items, texts, separated, String.intercalate_nil, write_empty]
  | cons value rest =>
    rw [itemCalls, items, calls_eq_write value, moreItems_eq_write rest, write_write, texts, separated_cons]

/-- the records behind another each add a comma and their text -/
theorem moreItems_eq_write (values : List Record) (w : Writer) :
    w.moreItems (itemCalls values) = w.write (following (texts values)) := by
  cases values with
  | nil => rw [itemCalls, moreItems, texts, following_nil, write_empty]
  | cons value rest =>
    rw [itemCalls, moreItems, calls_eq_write value, moreItems_eq_write rest, write_write, write_write, texts,
      following_cons, String.append_assoc]

end

/-! ## Records as text -/

theorem texts_eq_map (values : List Record) : texts values = values.map text := by
  induction values with
  | nil => rw [texts, List.map_nil]
  | cons value rest ih => rw [texts, ih, List.map_cons]

theorem itemCalls_eq_map (values : List Record) : itemCalls values = values.map calls := by
  induction values with
  | nil => rw [itemCalls, List.map_nil]
  | cons value rest ih => rw [itemCalls, ih, List.map_cons]

/-- **A new writer makes the text of a record of its calls.** -/
theorem written_calls (r : Record) : written r.calls = r.text := by
  rw [written, calls_eq_write]
  exact String.empty_append

/-- the text of a stream holds the texts of its tokens -/
theorem text_stream (s : TokenStream) :
    s.text = "TokenStream(File: " ++ s.file ++ ", Tokens: [" ++ separated (s.tokens.map Token.text) ++ "])" := by
  have tokens : s.tokens.map Token.text = texts (s.tokens.map Token.record) := by
    rw [texts_eq_map, List.map_map]
    exact List.map_congr_left fun t _ => written_calls t.record
  rw [TokenStream.text, written_calls, TokenStream.record, text, tokens]
  simp only [fieldTexts, Field.text, separated, String.intercalate_cons_cons, String.intercalate_singleton,
    String.append_assoc]
  rfl

/-- **Records are written as they read whole.** In every state of a writer, inside any records and behind any fields,
the calls of a record add the text of the record to what is written and change nothing else. So a field with a record
or with a list of records is the field with the text that a new writer makes of each; and a stream of tokens reads as
the texts of its tokens with commas between them. -/
theorem render_records :
    (∀ (r : Record) (w : Writer), w.calls r.calls = ⟨w.out ++ r.text, w.opened⟩) ∧
      (∀ r : Record, written r.calls = r.text) ∧
      (∀ (w : Writer) (key : String) (r : Record),
        w.call (.nested key r.calls) = w.call (.pair key (written r.calls))) ∧
      (∀ (w : Writer) (key : String) (values : List Record),
        w.call (.list key (values.map calls)) =
          w.call (.pair key ("[" ++ separated (values.map fun r => written r.calls) ++ "]"))) ∧
      ∀ s : TokenStream,
        s.text = "TokenStream(File: " ++ s.file ++ ", Tokens: [" ++ separated (s.tokens.map Token.text) ++ "])" := by
  refine ⟨calls_eq_write, written_calls, fun w key r => ?_, fun w key values => ?_, text_stream⟩
  · rw [written_calls, call, call, calls_eq_write]
  · have each : values.map (fun r => written r.calls) = texts values := by
      rw [texts_eq_map]
      exact List.map_congr_left fun r _ => written_calls r
    rw [← itemCalls_eq_map, call, call, items_eq_write, each, write_write, write_write, String.append_assoc]

end TokenScanner.Record
