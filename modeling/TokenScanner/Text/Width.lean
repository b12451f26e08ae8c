/-
The width of text in bytes of UTF-8, and cuts at a width.

Sources are lists of characters; a length given in bytes is a width on them (`byteWidth`). `splitAtWidth n` cuts where
the first part is `n` bytes wide. A width that falls inside a character takes the whole of it, so a cut is always
between characters.

- `byteWidth_take_lt_iff`: a text is wider than its start just where it is longer.
- `splitAtWidth_append`: a text is cut off again by its own width.
- `splitAtWidth_parts`: the two parts make up the text.
- `splitAtWidth_shortens`: a width other than 0 shortens every text that is not empty.
-/

namespace TokenScanner.Text

/-- the bytes a text takes in UTF-8 -/
def byteWidth : List Char → Nat
  | [] => 0
  | c :: rest => c.utf8Size + byteWidth rest

/-- the text cut after `n` bytes -/
def splitAtWidth : Nat → List Char → List Char × List Char
  | 0, text => ([], text)
  | _, [] => ([], [])
  | n, c :: rest =>
    let (front, back) := splitAtWidth (n - c.utf8Size) rest
    (c :: front, back)

@[simp] theorem byteWidth_append (a b : List Char) : byteWidth (a ++ b) = byteWidth a + byteWidth b := by
  induction a with
  | nil => simp [byteWidth]
  | cons c rest ih => simp [byteWidth, ih, Nat.add_assoc]

/-- only the empty text is 0 bytes wide -/
theorem byteWidth_pos {text : List Char} (h : text ≠ []) : 0 < byteWidth text := by
  cases text with
  | nil => exact absurd rfl h
  | cons c rest => exact Nat.add_pos_left c.utf8Size_pos _

/-- however wide each character is, a text is wider than its first characters if and only if it has more -/
theorem byteWidth_take_lt_iff (n : Nat) (text : List Char) : byteWidth (text.take n) < byteWidth text ↔ n < text.length := by
  have parts : byteWidth text = byteWidth (text.take n) + byteWidth (text.drop n) := by
    rw [← byteWidth_append, List.take_append_drop]
  rw [parts, Nat.lt_add_right_iff_pos]
  constructor
  · intro wider
    refine Nat.lt_of_not_le fun shorter => ?_
    rw [List.drop_eq_nil_of_le shorter] at wider
    exact absurd wider (Nat.lt_irrefl 0)
  · intro longer
    exact byteWidth_pos fun nothing => absurd (List.drop_eq_nil_iff.1 nothing) (Nat.not_le_of_lt longer)

theorem splitAtWidth_zero (text : List Char) : splitAtWidth 0 text = ([], text) := by
  cases text <;> rfl

theorem splitAtWidth_cons {n : Nat} (h : n ≠ 0) (c : Char) (rest : List Char) :
    splitAtWidth n (c :: rest) =
      (c :: (splitAtWidth (n - c.utf8Size) rest).1, (splitAtWidth (n - c.utf8Size) rest).2) := by
  cases n with
  | zero => exact absurd rfl h
  | succ n => rfl

theorem splitAtWidth_append (front back : List Char) :
    splitAtWidth (byteWidth front) (front ++ back) = (front, back) := by
  induction front with
  | nil => exact splitAtWidth_zero back
  | cons c rest ih =>
    rw [List.cons_append, splitAtWidth_cons (by have := c.utf8Size_pos; simp only [byteWidth]; omega), byteWidth,
      Nat.add_sub_cancel_left, ih]

/-- texts of one width that start the same text are one text -/
theorem eq_of_byteWidth_eq {a b restA restB : List Char} (h : a ++ restA = b ++ restB) (hw : byteWidth a = byteWidth b) :
    a = b := by
  have ha := splitAtWidth_append a restA
  have hb := splitAtWidth_append b restB
  rw [h, hw, hb] at ha
  exact (Prod.mk.inj ha).1.symm

theorem splitAtWidth_parts (n : Nat) (text : List Char) :
    (splitAtWidth n text).1 ++ (splitAtWidth n text).2 = text := by
  induction text generalizing n with
  | nil => cases n <;> rfl
  | cons c rest ih =>
    cases n with
    | zero => rfl
    | succ n => rw [splitAtWidth_cons (Nat.succ_ne_zero n), List.cons_append, ih]

/-- a width ends between two characters if the text is cut at just that width -/
theorem exists_byteWidth_iff {width : Nat} {text : List Char} :
    (∃ front, front <+: text ∧ byteWidth front = width) ↔ byteWidth (splitAtWidth width text).1 = width := by
  constructor
  · rintro ⟨front, ⟨back, rfl⟩, rfl⟩
    rw [splitAtWidth_append]
  · intro h
    exact ⟨_, ⟨_, splitAtWidth_parts width text⟩, h⟩

theorem splitAtWidth_shortens {n : Nat} {text : List Char} (hn : n ≠ 0) (ht : text ≠ []) :
    (splitAtWidth n text).2.length < text.length := by
  cases text with
  | nil => exact absurd rfl ht
  | cons c rest =>
    have parts := congrArg List.length (splitAtWidth_parts n (c :: rest))
    rw [splitAtWidth_cons hn, List.length_append] at parts
    rw [splitAtWidth_cons hn]
    simp only [List.length_cons] at parts ⊢
    omega

end TokenScanner.Text
