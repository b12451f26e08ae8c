/-
Records as text: `Name(key: value, key: Other(key: value), key: [First(), Second()])`.

A record is a name and fields. A field is a key with a plain text, with a record, or with a list of records
(`Record`, `Record.Field`). `Record.text` is the text of a record, said by its shape.
-/

namespace TokenScanner

mutual

/-- a name and fields -/
inductive Record where
  | mk (name : String) (fields : List Record.Field)

/-- a key and what it holds -/
inductive Record.Field where
  /-- a plain text -/
  | plain (key value : String)
  /-- one record -/
  | record (key : String) (value : Record)
  /-- a list of records -/
  | records (key : String) (values : List Record)

end

namespace Record

/-- the texts with a comma and a space between them -/
def separated (texts : List String) : String :=
  ", ".intercalate texts

mutual

/-- the text of a record -/
def text : Record → String
  | .mk name fields => name ++ "(" ++ separated (fieldTexts fields) ++ ")"

/-- the text of a field -/
def Field.text : Field → String
  | .plain key value => key ++ ": " ++ value
  | .record key value => key ++ ": " ++ value.text
  | .records key values => key ++ ": [" ++ separated (texts values) ++ "]"

/-- the text of each field -/
def fieldTexts : List Field → List String
  | [] => []
  | field :: rest => field.text :: fieldTexts rest

/-- the text of each record -/
def texts : List Record → List String
  | [] => []
  | record :: rest => record.text :: texts rest

end

end Record

end TokenScanner
