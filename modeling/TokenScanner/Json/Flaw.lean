/-
Why a text is not JSON.

A flaw is the first place where a text read from left to right cannot go on as JSON: the text ends too early, something
else stands where a value, a key or a separator has to, or a word, a numeral or a string is not written as one.
`Flaw.message` is the wording of a flaw.
-/

namespace TokenScanner.Json

/-- why a text cannot go on as JSON -/
inductive Flaw where
  /-- the text ends where a value has to stand, or in a word or a numeral -/
  | endInValue
  /-- the text ends where a list has to go on or close -/
  | endInList
  /-- the text ends where an object has to go on or close -/
  | endInObject
  /-- the text ends in a string -/
  | endInString
  /-- no value stands where one must -/
  | noValue
  /-- no colon stands after a key -/
  | noColon
  /-- an item of a list is followed by neither a comma nor the end of the list -/
  | noListSeparator
  /-- a member of an object is followed by neither a comma nor the end of the object -/
  | noObjectSeparator
  /-- a comma is followed by the end of a list or of an object -/
  | trailingComma
  /-- a key is no string -/
  | keyNotString
  /-- a value is followed by more than it may be -/
  | trailingText
  /-- a word is misspelt -/
  | wrongWord
  /-- a numeral is not written as one -/
  | wrongNumeral
  /-- a numeral stands for no number -/
  | numberTooLarge
  /-- a string holds a control character -/
  | bareControl
  /-- a backslash stands before a character that makes no escape with it -/
  | unknownEscape
  /-- an escape by number has other than hexadecimal digits -/
  | wrongUnit
  /-- a high surrogate is followed by no escape by number -/
  | unpairedHigh
  /-- a high surrogate is followed by a unit that is no low one, or a low one stands by itself -/
  | unpairedUnit
  deriving DecidableEq, Repr

/-- the wording of a flaw -/
def Flaw.message : Flaw → String
  | endInValue => "EOF while parsing a value"
  | endInList => "EOF while parsing a list"
  | endInObject => "EOF while parsing an object"
  | endInString => "EOF while parsing a string"
  | noValue => "expected value"
  | noColon => "expected `:`"
  | noListSeparator => "expected `,` or `]`"
  | noObjectSeparator => "expected `,` or `\x7d`"
  | trailingComma => "trailing comma"
  | keyNotString => "key must be a string"
  | trailingText => "trailing characters"
  | wrongWord => "expected ident"
  | wrongNumeral => "invalid number"
  | numberTooLarge => "number out of range"
  | bareControl => "control character (\\u0000-\\u001F) found while parsing a string"
  | unknownEscape => "invalid escape"
  | wrongUnit => "invalid escape"
  | unpairedHigh => "unexpected end of hex escape"
  | unpairedUnit => "lone leading surrogate in hex escape"

end TokenScanner.Json
