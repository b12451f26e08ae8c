/-
JSON values to write, and their layout.

A value is laid out with every item and member on a line of its own, two spaces further in than the bracket around it;
an empty array or object is its two brackets.

- `Value.tree`: the tree that a written value reads back as.
-/
import TokenScanner.Json.Tree

namespace TokenScanner.Json

mutual

/-- a value to write -/
inductive Value where
  | null
  | natural (n : Nat)
  | string (text : String)
  | array (items : List Value)
  | object (members : List Entry)

/-- a member of an object to write -/
inductive Entry where
  | mk (key : String) (value : Value)

end

namespace Value

/-! ## Layout -/

/-- the start of a line at that depth, and the text after it -/
def line (depth : Nat) (rest : List Char) : List Char :=
  '\n' :: (List.replicate (2 * depth) ' ' ++ rest)

/-- the key of a member, and the text after it -/
def label (key : String) (rest : List Char) : List Char :=
  Quoted.string key.toList ++ ':' :: ' ' :: rest

mutual

/-- a value that stands on a line at that depth, and the text after it -/
def layout (depth : Nat) : Value → List Char → List Char
  | .null, rest => 'n' :: 'u' :: 'l' :: 'l' :: rest
  | .natural n, rest => Nat.toDigits 10 n ++ rest
  | .string text, rest => Quoted.string text.toList ++ rest
  | .array [], rest => '[' :: ']' :: rest
  | .array (item :: more), rest =>
    '[' :: line (depth + 1) (item.layout (depth + 1) (moreItems (depth + 1) more (line depth (']' :: rest))))
  | .object [], rest => '\x7b' :: '\x7d' :: rest
  | .object (.mk key value :: more), rest =>
    '\x7b' :: line (depth + 1) (label key (value.layout (depth + 1)
      (moreMembers (depth + 1) more (line depth ('\x7d' :: rest)))))

/-- the items after the first, each with the comma before it, and the text after them -/
def moreItems (depth : Nat) : List Value → List Char → List Char
  | [], rest => rest
  | item :: more, rest => ',' :: line depth (item.layout depth (moreItems depth more rest))

/-- the members after the first, each with the comma before it, and the text after them -/
def moreMembers (depth : Nat) : List Entry → List Char → List Char
  | [], rest => rest
  | .mk key value :: more, rest =>
    ',' :: line depth (label key (value.layout depth (moreMembers depth more rest)))

end

/-- a value as text -/
def text (v : Value) : List Char :=
  v.layout 0 []

/-! ## Reading back -/

mutual

/-- the tree that the text of a value is read as -/
def tree : Value → Tree
  | .null => .null
  | .natural n => .number ⟨false, Nat.toDigits 10 n, [], none⟩
  | .string text => .string (.ok text.toList)
  | .array items => .array (trees items)
  | .object members => .object (memberTrees members)

/-- the tree of each item -/
def trees : List Value → List Tree
  | [] => []
  | item :: rest => item.tree :: trees rest

/-- the tree of each member -/
def memberTrees : List Entry → List Member
  | [] => []
  | .mk key value :: rest => .field (.ok key.toList) value.tree :: memberTrees rest

end

end Value

end TokenScanner.Json
