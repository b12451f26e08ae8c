/-
Writing records piece by piece.

A writer holds the text so far and, for each record that is open, innermost first, whether it already has a field. It is
driven by calls: `begin` opens a record, `pair`, `nested` and `list` add a field to the innermost open record, `close`
closes it. The values of `nested` and the items of `list` are calls themselves, made on the same writer, so calls may be
in any order at all: a value may leave records open or close those around it. With no record open a field is written
without a separator and `close` writes nothing. `finish` closes what is still open.

- `Record.calls`: the calls that write a record.
-/
import TokenScanner.Record

namespace TokenScanner.Record

/-- what a writer is asked to do -/
inductive Call where
  /-- open a record of that name -/
  | begin (name : String)
  /-- add a field with a plain text -/
  | pair (key value : String)
  /-- add a field with what the calls write -/
  | nested (key : String) (item : List Call)
  /-- add a field with a list of what the calls write, item by item -/
  | list (key : String) (items : List (List Call))
  /-- close the innermost record -/
  | close

/-- the text so far, and for each open record whether it has a field -/
structure Writer where
  out : String
  opened : List Bool
  deriving DecidableEq, Repr

namespace Writer

/-- a writer that has written nothing -/
def start : Writer :=
  ⟨"", []⟩

/-- the writer after a text as it is -/
def write (w : Writer) (text : String) : Writer :=
  { w with out := w.out ++ text }

/-- the writer after the start of a record -/
def begin (w : Writer) (name : String) : Writer :=
  ⟨w.out ++ name ++ "(", false :: w.opened⟩

/-- the writer after what stands between two fields of a record -/
def separate (w : Writer) : Writer :=
  match w.opened with
  | [] => w
  | false :: outer => { w with opened := true :: outer }
  | true :: _ => w.write ", "

/-- the writer after the key of a field -/
def label (w : Writer) (key : String) : Writer :=
  (w.separate.write key).write ": "

/-- the writer after the end of a record -/
def close (w : Writer) : Writer :=
  match w.opened with
  | [] => w
  | _ :: outer => ⟨w.out ++ ")", outer⟩

mutual

/-- the writer after a call -/
def call (w : Writer) : Call → Writer
  | .begin name => w.begin name
  | .pair key value => (w.label key).write value
  | .nested key item => (w.label key).calls item
  | .list key items => (((w.label key).write "[").items items).write "]"
  | .close => w.close

/-- the writer after some calls -/
def calls (w : Writer) : List Call → Writer
  | [] => w
  | c :: rest => (w.call c).calls rest

/-- the writer after the items of a list -/
def items (w : Writer) : List (List Call) → Writer
  | [] => w
  | item :: rest => (w.calls item).moreItems rest

/-- the writer after the items that follow another -/
def moreItems (w : Writer) : List (List Call) → Writer
  | [] => w
  | item :: rest => ((w.write ", ").calls item).moreItems rest

end

/-- the text with every open record closed -/
def finish (w : Writer) : String :=
  w.opened.foldl (fun out _ => out ++ ")") w.out

end Writer

mutual

/-- the calls that write a record -/
def calls : Record → List Call
  | .mk name fields => .begin name :: fieldCalls fields ++ [.close]

/-- the call that writes a field -/
def Field.call : Field → Call
  | .plain key value => .pair key value
  | .record key value => .nested key value.calls
  | .records key values => .list key (itemCalls values)

/-- the calls that write fields -/
def fieldCalls : List Field → List Call
  | [] => []
  | field :: rest => field.call :: fieldCalls rest

/-- the calls that write each record of a list -/
def itemCalls : List Record → List (List Call)
  | [] => []
  | record :: rest => record.calls :: itemCalls rest

end

/-- what a new writer makes of calls -/
def written (calls : List Call) : String :=
  (Writer.start.calls calls).finish

end TokenScanner.Record
