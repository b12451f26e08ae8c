/-
The pieces of a written value.

A text is cut into pieces, and the pieces are made into a tree. Between the two stands the list of pieces that a value
is written with (`Value.pieces`), which knows nothing of lines and depths: all that the layout puts between pieces is
space, and space is not seen.

- `Piece.ofText_string`, `Piece.ofText_natural`: a quoted text is one piece, and so is a number that ends where it ends.
- `Value.ofText_layout`: a value that is laid out is cut into its pieces, and what follows it into its own.
-/
import TokenScanner.Json.Value
import TokenScanner.Proofs.Decimals
import TokenScanner.Proofs.Quotation

namespace TokenScanner.Json

variable {text rest : List Char} {piece : Piece}

/-! ## Cutting a text -/

namespace Piece

/-- the pieces of a text, told by what stands behind the space at its start -/
theorem ofText_eq (text : List Char) :
    ofText text =
      if skipSpace text = [] then []
      else
        match next (skipSpace text) with
        | .error broken => [broken]
        | .ok (piece, rest) => piece :: ofText rest := by
  rw [ofText]
  split
  next => rfl
  next =>
    split
    next broken hn => rw [hn]
    next piece rest hn => rw [hn]

theorem ofText_nil : ofText [] = [] := by
  rw [ofText_eq]
  rfl

theorem ofText_congr {a b : List Char} (h : skipSpace a = skipSpace b) : ofText a = ofText b := by
  rw [ofText_eq a, ofText_eq b, h]

/-- space before a text is not seen -/
theorem ofText_space {c : Char} (h : isSpace c = true) (rest : List Char) : ofText (c :: rest) = ofText rest :=
  ofText_congr (List.dropWhile_cons_of_pos h)

/-- a whole piece is cut off, and then what follows it -/
theorem ofText_solid {c : Char} (h : isSpace c = false) (hn : next (c :: rest) = .ok (piece, text)) :
    ofText (c :: rest) = piece :: ofText text := by
  have starts : skipSpace (c :: rest) = c :: rest := by
    refine List.dropWhile_cons_of_neg ?_
    rw [h]
    exact Bool.false_ne_true
  rw [ofText_eq, starts, if_neg (List.cons_ne_nil c rest), hn]

/-- a string is one piece -/
theorem ofText_string (s : List Char) (rest : List Char) :
    ofText (Quoted.string s ++ rest) = .string (.ok s) :: ofText rest := by
  have body : Quoted.string s ++ rest = '"' :: (Quoted.escape s ++ '"' :: rest) := by
    rw [Quoted.string, List.cons_append, List.cons_append, List.append_assoc, List.singleton_append]
  rw [body]
  refine ofText_solid rfl ?_
  have scanned := Quoted.scan_escape s rest
  have value := Quoted.value_elements s
  simp only [next, ofQuoted, scanned, value]

theorem isSpace_eq_false_of_isDigit {d : Char} (h : d.isDigit = true) : isSpace d = false := by
  cases space : isSpace d with
  | false => rfl
  | true =>
    simp only [isSpace, Bool.or_eq_true, beq_iff_eq] at space
    rcases space with ((rfl | rfl) | rfl) | rfl <;> exact absurd h (by decide)

/-- a digit starts a numeral and nothing else -/
theorem next_of_isDigit {d : Char} (h : d.isDigit = true) (rest : List Char) :
    next (d :: rest) = ofNumeral (d :: rest) := by
  unfold next
  split
  case h_11 starts =>
    cases starts
    rw [h, Bool.or_true, if_pos rfl]
  case h_12 starts => cases starts
  -- the other pieces start with other characters
  all_goals
    next starts =>
      cases starts
      exact absurd h (by decide)

/-- a number is one piece -/
theorem ofText_natural (n : Nat) (h : Numeral.Ended rest) :
    ofText (Nat.toDigits 10 n ++ rest) = .number (Numeral.ofNat n) :: ofText rest := by
  obtain ⟨d, tail, digits, digit⟩ := Numeral.exists_toDigits_cons n
  have scanned := Numeral.scan_toDigits (n := n) h
  rw [digits, List.cons_append] at scanned ⊢
  refine ofText_solid (isSpace_eq_false_of_isDigit digit) ?_
  rw [next_of_isDigit digit, ofNumeral, scanned]

end Piece

/-! ## The pieces of a value -/

namespace Value

mutual

/-- the pieces of a value, and those after it -/
def pieces : Value → List Piece → List Piece
  | .null, rest => .null :: rest
  | .natural n, rest => .number (Numeral.ofNat n) :: rest
  | .string text, rest => .string (.ok text.toList) :: rest
  | .array [], rest => .leftBracket :: .rightBracket :: rest
  | .array (item :: more), rest => .leftBracket :: item.pieces (morePieces more (.rightBracket :: rest))
  | .object [], rest => .leftBrace :: .rightBrace :: rest
  | .object (.mk key value :: more), rest =>
    .leftBrace :: .string (.ok key.toList) :: .colon :: value.pieces (moreMemberPieces more (.rightBrace :: rest))

/-- the pieces of the items after the first, and those after them -/
def morePieces : List Value → List Piece → List Piece
  | [], rest => rest
  | item :: more, rest => .comma :: item.pieces (morePieces more rest)

/-- the pieces of the members after the first, and those after them -/
def moreMemberPieces : List Entry → List Piece → List Piece
  | [], rest => rest
  | .mk key value :: more, rest =>
    .comma :: .string (.ok key.toList) :: .colon :: value.pieces (moreMemberPieces more rest)

end

/-- a new line is space -/
theorem ofText_line (depth : Nat) (rest : List Char) : Piece.ofText (line depth rest) = Piece.ofText rest := by
  have blank : ∀ c ∈ List.replicate (2 * depth) ' ', isSpace c = true := by
    intro c hc
    rw [List.eq_of_mem_replicate hc]
    rfl
  rw [line, Piece.ofText_space rfl]
  exact Piece.ofText_congr (List.dropWhile_append_of_pos blank)

/-- a key is cut into its string and a colon -/
theorem ofText_label (key : String) (rest : List Char) :
    Piece.ofText (label key rest) = .string (.ok key.toList) :: .colon :: Piece.ofText rest := by
  rw [label, Piece.ofText_string, Piece.ofText_solid rfl rfl, Piece.ofText_space rfl]

theorem ended_line (depth : Nat) (rest : List Char) : Numeral.Ended (line depth rest) :=
  Numeral.ended_cons (Or.inr rfl) _

theorem ended_moreItems (depth : Nat) (more : List Value) (h : Numeral.Ended rest) :
    Numeral.Ended (moreItems depth more rest) := by
  cases more with
  | nil => exact h
  | cons item more => exact Numeral.ended_cons (Or.inl rfl) _

theorem ended_moreMembers (depth : Nat) (more : List Entry) (h : Numeral.Ended rest) :
    Numeral.Ended (moreMembers depth more rest) := by
  cases more with
  | nil => exact h
  | cons entry more =>
    obtain ⟨key, value⟩ := entry
    exact Numeral.ended_cons (Or.inl rfl) _

mutual

/-- **A value that is laid out is cut into its pieces,** if what follows it does not go on with a number. -/
theorem ofText_layout (v : Value) (depth : Nat) (rest : List Char) (h : Numeral.Ended rest) :
    Piece.ofText (v.layout depth rest) = v.pieces (Piece.ofText rest) := by
  match v with
  | .null => exact Piece.ofText_solid rfl rfl
  | .natural n => exact Piece.ofText_natural n h
  | .string text => exact Piece.ofText_string text.toList rest
  | .array [] =>
    rw [layout, Piece.ofText_solid rfl rfl, Piece.ofText_solid rfl rfl, pieces]
  | .array (item :: more) =>
    have closing := ended_line depth (']' :: rest)
    rw [layout, Piece.ofText_solid rfl rfl, ofText_line, item.ofText_layout _ _ (ended_moreItems _ more closing),
      ofText_moreItems more _ _ closing, ofText_line, Piece.ofText_solid rfl rfl, pieces]
  | .object [] =>
    rw [layout, Piece.ofText_solid rfl rfl, Piece.ofText_solid rfl rfl, pieces]
  | .object (.mk key value :: more) =>
    have closing := ended_line depth ('\x7d' :: rest)
    rw [layout, Piece.ofText_solid rfl rfl, ofText_line, ofText_label,
      value.ofText_layout _ _ (ended_moreMembers _ more closing), ofText_moreMembers more _ _ closing, ofText_line,
      Piece.ofText_solid rfl rfl, pieces]

theorem ofText_moreItems (more : List Value) (depth : Nat) (rest : List Char) (h : Numeral.Ended rest) :
    Piece.ofText (moreItems depth more rest) = morePieces more (Piece.ofText rest) := by
  match more with
  | [] => rw [moreItems, morePieces]
  | item :: more =>
    rw [moreItems, Piece.ofText_solid rfl rfl, ofText_line, item.ofText_layout _ _ (ended_moreItems _ more h),
      ofText_moreItems more _ _ h, morePieces]

theorem ofText_moreMembers (more : List Entry) (depth : Nat) (rest : List Char) (h : Numeral.Ended rest) :
    Piece.ofText (moreMembers depth more rest) = moreMemberPieces more (Piece.ofText rest) := by
  match more with
  | [] => rw [moreMembers, moreMemberPieces]
  | .mk key value :: more =>
    rw [moreMembers, Piece.ofText_solid rfl rfl, ofText_line, ofText_label,
      value.ofText_layout _ _ (ended_moreMembers _ more h), ofText_moreMembers more _ _ h, moreMemberPieces]

end

end Value

end TokenScanner.Json
