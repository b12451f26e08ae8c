/-
JSON values as far as a text gives them.

A text is read into a tree even if it goes wrong: the tree then ends in the flaw of the text. An array that goes wrong
between its items ends in a `broken` item, an object that does so between its members in a `stray` member. So a decoder
that walks along a tree from left to right meets the flaws of the text in their order.

- `Tree.flaw?`: the first flaw of a value that is skipped.
-/
import TokenScanner.Json.Piece

namespace TokenScanner.Json

mutual

/-- a value, or what there is of it -/
inductive Tree where
  | null
  | bool (b : Bool)
  | number (n : Numeral)
  /-- a string with its text, or why that cannot be read -/
  | string (value : Except Flaw (List Char))
  | array (items : List Tree)
  | object (members : List Member)
  /-- a word or a numeral that goes wrong -/
  | brokenWord (flaw : Flaw)
  /-- no value stands where one must, or a string that goes wrong -/
  | broken (flaw : Flaw)

/-- a member of an object, or what there is of it -/
inductive Member where
  | field (key : Except Flaw (List Char)) (value : Tree)
  /-- no key stands where one must -/
  | stray (flaw : Flaw)

end

namespace Tree

mutual

/-- the value at the start of the pieces, and the pieces after it, none if the value goes wrong; a bracket and an item
take one unit of fuel each -/
def value : Nat → List Piece → Tree × List Piece
  | _, [] => (.broken .endInValue, [])
  | _, .null :: rest => (.null, rest)
  | _, .bool b :: rest => (.bool b, rest)
  | _, .number n :: rest => (.number n, rest)
  | _, .string s :: rest => (.string s, rest)
  | _, .leftBracket :: [] => (.array [.broken .endInList], [])
  | _, .leftBracket :: .rightBracket :: rest => (.array [], rest)
  | fuel + 1, .leftBracket :: rest =>
    let (found, rest) := items fuel rest
    (.array found, rest)
  | _, .leftBrace :: [] => (.object [.stray .endInObject], [])
  | _, .leftBrace :: .rightBrace :: rest => (.object [], rest)
  | fuel + 1, .leftBrace :: rest =>
    let (found, rest) := members fuel rest
    (.object found, rest)
  | _, .brokenString flaw :: _ => (.broken flaw, [])
  | _, .brokenWord flaw :: _ => (.brokenWord flaw, [])
  | _, _ => (.broken .noValue, [])

/-- the items of an array that has at least one, and the pieces after its bracket -/
def items : Nat → List Piece → List Tree × List Piece
  | 0, _ => ([.broken .noValue], [])
  | fuel + 1, pieces =>
    match value fuel pieces with
    | (item, .rightBracket :: rest) => ([item], rest)
    | (item, .comma :: .rightBracket :: _) => ([item, .broken .trailingComma], [])
    | (item, .comma :: rest) =>
      let (found, rest) := items fuel rest
      (item :: found, rest)
    | (item, []) => ([item, .broken .endInList], [])
    | (item, _) => ([item, .broken .noListSeparator], [])

/-- the members of an object that has at least one, and the pieces after its brace -/
def members : Nat → List Piece → List Member × List Piece
  | 0, _ => ([.stray .keyNotString], [])
  | fuel + 1, .string key :: .colon :: pieces =>
    match value fuel pieces with
    | (item, .rightBrace :: rest) => ([.field key item], rest)
    | (item, .comma :: .rightBrace :: _) => ([.field key item, .stray .trailingComma], [])
    | (item, .comma :: rest) =>
      let (found, rest) := members fuel rest
      (.field key item :: found, rest)
    | (item, []) => ([.field key item, .stray .endInObject], [])
    | (item, _) => ([.field key item, .stray .noObjectSeparator], [])
  | _, .string key :: [] => ([.field key (.broken .endInObject)], [])
  | _, .string key :: _ => ([.field key (.broken .noColon)], [])
  | _, .brokenString flaw :: _ => ([.stray flaw], [])
  | _, [] => ([.stray .endInValue], [])
  | _, _ => ([.stray .keyNotString], [])

end

/-- the value at the start of the pieces, and the pieces after it; two units of fuel for each piece are enough -/
def ofPieces (pieces : List Piece) : Tree × List Piece :=
  value (2 * pieces.length + 2) pieces

mutual

/-- the first flaw of a value that is skipped; a string is skipped even if it cannot be read -/
def flaw? : Tree → Option Flaw
  | .array items => flawOfItems? items
  | .object members => flawOfMembers? members
  | .brokenWord flaw => some flaw
  | .broken flaw => some flaw
  | _ => none

/-- the first flaw of items that are skipped -/
def flawOfItems? : List Tree → Option Flaw
  | [] => none
  | t :: rest => t.flaw? <|> flawOfItems? rest

/-- the first flaw of members that are skipped -/
def flawOfMembers? : List Member → Option Flaw
  | [] => none
  | .field _ t :: rest => t.flaw? <|> flawOfMembers? rest
  | .stray flaw :: _ => some flaw

end

end Tree

end TokenScanner.Json
