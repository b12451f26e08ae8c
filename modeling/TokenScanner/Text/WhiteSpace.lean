/-
White space: the characters with the Unicode property White_Space, and cutting them off both ends of a text.

- `splitOn_of_not_mem`, `splitOn_append_cons`: the parts of a text, told by its first separator.
-/

namespace TokenScanner.Text

/-- the characters with the property White_Space, as first and last of each run -/
def whiteSpaceRuns : List (Nat × Nat) :=
  [(0x09, 0x0D), (0x20, 0x20), (0x85, 0x85), (0xA0, 0xA0), (0x1680, 0x1680), (0x2000, 0x200A), (0x2028, 0x2029),
    (0x202F, 0x202F), (0x205F, 0x205F), (0x3000, 0x3000)]

/-- the character has the property White_Space -/
def isWhiteSpace (c : Char) : Bool :=
  whiteSpaceRuns.any fun (first, last) => first ≤ c.toNat && c.toNat ≤ last

/-- the text without the white space at its ends -/
def trim (text : List Char) : List Char :=
  ((text.dropWhile isWhiteSpace).reverse.dropWhile isWhiteSpace).reverse

/-- the parts of a text between the separators, in order; one part more than there are separators -/
def splitOn (separator : Char) : List Char → List (List Char)
  | [] => [[]]
  | c :: rest =>
    if c = separator then [] :: splitOn separator rest
    else
      match splitOn separator rest with
      | [] => [[c]]
      | part :: parts => (c :: part) :: parts

theorem splitOn_append_cons {separator : Char} {part : List Char} (h : separator ∉ part) (rest : List Char) :
    splitOn separator (part ++ separator :: rest) = part :: splitOn separator rest := by
  induction part with
  | nil => simp [splitOn]
  | cons c part ih =>
    rw [List.mem_cons, not_or] at h
    rw [List.cons_append, splitOn, if_neg (Ne.symm h.1), ih h.2]

theorem splitOn_of_not_mem {separator : Char} {part : List Char} (h : separator ∉ part) :
    splitOn separator part = [part] := by
  induction part with
  | nil => rfl
  | cons c part ih =>
    rw [List.mem_cons, not_or] at h
    rw [splitOn, if_neg (Ne.symm h.1), ih h.2]

end TokenScanner.Text
