/-
Configurations in JSON.

A configuration is an object with `two_char`, `one_char`, `classifiers` and `recovery`, or a list of them in that order.
A field that is left out is as in the standard language, and fields of other names are refused. The set of patterns is
its written form.
-/
import TokenScanner.Config
import TokenScanner.Json.Read
import TokenScanner.Json.Value

namespace TokenScanner

open Json (Slot Shape Fault)

/-! ## Recoveries and sets of patterns -/

/-- the word for a recovery -/
def Recovery.word : Recovery → String
  | singleChar => "single-char"
  | remainder => "remainder"

/-- a recovery to write -/
def Recovery.json (r : Recovery) : Json.Value :=
  .string r.word

/-- reads a recovery -/
def Recovery.read : Json.Decoder Recovery :=
  Json.readWordOf ([singleChar, remainder].map fun r => (r.word, r))

/-- a set of patterns to write -/
def PatternSet.json (s : PatternSet) : Json.Value :=
  .string (String.ofList s.text)

/-- reads a set of patterns -/
def PatternSet.read : Json.Decoder PatternSet := fun t => do
  match ofText? (← Json.readStringAs "a string value of `|` separated flags" t) with
  | .ok s => return s
  | .error cause => throw (.badFlags cause)

/-! ## Configurations -/

namespace Config

/-- a configuration to write -/
def json (c : Config) : Json.Value :=
  .object [.mk "two_char" (.array (c.twoChar.map .string)), .mk "one_char" (.array (c.oneChar.map .string)),
    .mk "classifiers" c.patterns.json, .mk "recovery" c.recovery.json]

/-- a configuration as far as it was read -/
structure Draft where
  twoChar : Option (List String)
  oneChar : Option (List String)
  patterns : Option PatternSet
  recovery : Option Recovery

/-- the configuration of a draft, with what it lacks taken from the standard one -/
def Draft.complete (d : Draft) : Config where
  twoChar := d.twoChar.getD standard.twoChar
  oneChar := d.oneChar.getD standard.oneChar
  patterns := d.patterns.getD standard.patterns
  recovery := d.recovery.getD standard.recovery

/-- how configurations are written -/
def shape : Shape Draft Config where
  what := "struct LexerConfig"
  slots := [
    .of "two_char" Draft.twoChar (fun a d => { d with twoChar := some a }) (Json.readList Json.readString),
    .of "one_char" Draft.oneChar (fun a d => { d with oneChar := some a }) (Json.readList Json.readString),
    .of "classifiers" Draft.patterns (fun a d => { d with patterns := some a }) PatternSet.read,
    .of "recovery" Draft.recovery (fun a d => { d with recovery := some a }) Recovery.read]
  strict := true
  start := ⟨none, none, none, none⟩
  complete := fun d => .ok d.complete

/-- reads a configuration -/
def read : Json.Decoder Config :=
  shape.read

/-- the configuration that a JSON text holds -/
def ofJson? (text : List Char) : Except Fault Config :=
  Json.ofText read text

end Config

end TokenScanner
