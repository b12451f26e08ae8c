/-
Positions by counting.

A scan moves its position character by character. Counted from a whole text instead, the line is one more than its line
breaks and the column one more than the characters after the last of them (`Position.Counts`). The two agree as long as
the numbers fit their words, and a text shorter than `UInt32.size - 1` characters keeps them so.

- `Position.advance_eq_leap`: a text passed at once, its breaks and the characters of its last line counted in words.
- `Position.Counts.advance`: counting goes on over any text, with any number of line breaks in it.
- `Position.Counts.unique`: a text has one position.
- `Position.Counts.shift`: what stands behind another text is placed as if it stood alone, then moved down, and to the
  right while it is on the first line.
-/
import Mathlib.Tactic
import Mathlib.Data.List.DropRight
import TokenScanner.Position

namespace TokenScanner

/-! ## Last lines -/

/-- the characters after the last line break -/
def Text.lastLine (text : List Char) : List Char :=
  text.rtakeWhile (· != '\n')

namespace Text

theorem lastLine_concat (text : List Char) (c : Char) :
    lastLine (text ++ [c]) = if c = '\n' then [] else lastLine text ++ [c] := by
  simp only [lastLine, List.rtakeWhile_concat, bne_iff_ne, ne_eq, ite_not]

theorem lastLine_append (a b : List Char) :
    lastLine (a ++ b) = if '\n' ∈ b then lastLine b else lastLine a ++ b := by
  induction b using List.reverseRecOn with
  | nil => simp
  | append_singleton b c ih =>
    rw [← List.append_assoc, lastLine_concat, lastLine_concat, ih]
    by_cases hc : c = '\n'
    · simp [hc]
    · have hmem : '\n' ∈ b ++ [c] ↔ '\n' ∈ b := by simp [Ne.symm hc]
      rw [if_neg hc, if_neg hc, if_congr hmem rfl rfl]
      split
      · rfl
      · rw [List.append_assoc]

/-- a text without line breaks is its last line -/
theorem lastLine_eq_self {text : List Char} (h : '\n' ∉ text) : lastLine text = text := by
  have behind := lastLine_append [] text
  rw [List.nil_append, if_neg h] at behind
  exact behind

theorem length_lastLine_le (text : List Char) : (lastLine text).length ≤ text.length :=
  List.IsSuffix.length_le (List.rtakeWhile_suffix _ text)

end Text

/-! ## Counting -/

namespace Position

/-- the position of the character behind that text -/
structure Counts (p : Position) (before : List Char) : Prop where
  line : p.line.toNat = 1 + before.count '\n'
  column : p.column.toNat = 1 + (Text.lastLine before).length

/-- the position moved some lines down, and on the first line some columns to the right -/
def shift (lines columns : Nat) (p : Position) : Position :=
  ⟨p.line + UInt32.ofNat lines, if p.line = 1 then p.column + UInt32.ofNat columns else p.column⟩

theorem toNat_successor {n : UInt32} (h : n.toNat + 1 < UInt32.size) : (successor n).toNat = n.toNat + 1 := by
  have hn : n ≠ UInt32.ofNat (UInt32.size - 1) := by
    rintro rfl
    exact absurd h (by decide)
  rw [successor, if_neg hn, UInt32.toNat_add, UInt32.toNat_one]
  exact Nat.mod_eq_of_lt h

theorem successor_of_full {n : UInt32} (h : UInt32.size ≤ n.toNat + 1) : successor n = n := by
  have largest : n = UInt32.ofNat (UInt32.size - 1) := by
    have bound : n.toNat < UInt32.size := n.toNat_lt
    rw [← UInt32.toNat_inj]
    change n.toNat = UInt32.size - 1
    omega
  rw [successor, if_pos largest]

/-- going on is an addition, as far as the word goes -/
theorem toNat_iterate_successor (k : Nat) (n : UInt32) :
    (successor^[k] n).toNat = min (n.toNat + k) (UInt32.size - 1) := by
  induction k with
  | zero =>
    have bound : n.toNat < UInt32.size := n.toNat_lt
    rw [Function.iterate_zero_apply]
    omega
  | succ k ih =>
    rw [Function.iterate_succ_apply']
    by_cases h : (successor^[k] n).toNat + 1 < UInt32.size
    · rw [toNat_successor h, ih]
      omega
    · rw [successor_of_full (Nat.le_of_not_lt h), ih]
      omega

/-! ## A text at once -/

theorem line_advance (p : Position) (text : List Char) :
    (p.advance text).line = successor^[text.count '\n'] p.line := by
  induction text generalizing p with
  | nil => rfl
  | cons c text ih =>
    rw [advance_cons, ih]
    by_cases hc : c = '\n'
    · subst hc
      rw [List.count_cons_self, Function.iterate_succ_apply, next, if_pos rfl]
    · rw [List.count_cons_of_ne hc, next, if_neg hc]

theorem column_advance (p : Position) (text : List Char) :
    (p.advance text).column =
      if '\n' ∈ text then successor^[(Text.lastLine text).length] 1 else successor^[text.length] p.column := by
  induction text using List.reverseRecOn with
  | nil => rfl
  | append_singleton text c ih =>
    rw [advance_append, advance_cons, advance_nil, next, Text.lastLine_concat]
    by_cases hc : c = '\n'
    · rw [if_pos hc, if_pos hc, if_pos (by simp [hc])]
      rfl
    · have breaks : '\n' ∈ text ++ [c] ↔ '\n' ∈ text := by simp [Ne.symm hc]
      rw [if_neg hc, if_neg hc, if_congr breaks rfl rfl, ih]
      split
      next => rw [List.length_append, List.length_singleton, Function.iterate_succ_apply']
      next => rw [List.length_append, List.length_singleton, Function.iterate_succ_apply']

/-- the sum, or the largest word if it does not fit -/
def plus (n m : UInt32) : UInt32 :=
  if n.toNat + m.toNat < UInt32.size then n + m else UInt32.ofNat (UInt32.size - 1)

/-- the number of characters, as far as the word goes -/
def width (text : List Char) : UInt32 :=
  UInt32.ofNat (min text.length (UInt32.size - 1))

/-- the position after a text, moved over it at once: down by its line breaks, cut to a word, and to the right by its
characters, or by those of its last line behind the first column, which is added as if there were room -/
def leap (p : Position) (text : List Char) : Position :=
  if '\n' ∈ text then ⟨plus p.line (UInt32.ofNat (text.count '\n')), 1 + width (Text.lastLine text)⟩
  else ⟨p.line, plus p.column (width text)⟩

theorem toNat_plus (n m : UInt32) : (plus n m).toNat = min (n.toNat + m.toNat) (UInt32.size - 1) := by
  unfold plus
  split
  next fits =>
    rw [UInt32.toNat_add, Nat.mod_eq_of_lt fits]
    omega
  next full =>
    rw [UInt32.toNat_ofNat_of_lt' (by decide)]
    omega

theorem toNat_width (text : List Char) : (width text).toNat = min text.length (UInt32.size - 1) :=
  UInt32.toNat_ofNat_of_lt' (Nat.lt_of_le_of_lt (Nat.min_le_right _ _) (by decide))

/-- adding is going on, also where the number added is cut to its word -/
theorem plus_eq_iterate {n m : UInt32} {k : Nat} (h : m.toNat = min k (UInt32.size - 1)) :
    plus n m = successor^[k] n := by
  rw [← UInt32.toNat_inj, toNat_plus, toNat_iterate_successor, h]
  omega

/-- **A text is passed at once as it is character by character,** in all but two corners: where the line breaks are more
than a word counts, and where the last line of several is so wide that no column is left behind it. There the leap
starts over at 0, and the steps stay at the largest word. -/
theorem advance_eq_leap (p : Position) (text : List Char) (breaks : text.count '\n' < UInt32.size)
    (room : '\n' ∈ text → (Text.lastLine text).length + 1 < UInt32.size) : p.advance text = p.leap text := by
  have line := p.line_advance text
  have column := p.column_advance text
  unfold leap
  split
  next broken =>
    have lines : plus p.line (UInt32.ofNat (text.count '\n')) = (p.advance text).line := by
      rw [line]
      refine plus_eq_iterate ?_
      rw [UInt32.toNat_ofNat_of_lt' breaks]
      omega
    have columns : 1 + width (Text.lastLine text) = (p.advance text).column := by
      have fits := room broken
      have narrow : min (Text.lastLine text).length (UInt32.size - 1) = (Text.lastLine text).length := by omega
      rw [column, if_pos broken, ← UInt32.toNat_inj, UInt32.toNat_add, toNat_width, toNat_iterate_successor, narrow,
        UInt32.toNat_one, Nat.mod_eq_of_lt (by rwa [Nat.add_comm])]
      omega
    rw [lines, columns]
  next unbroken =>
    have same : p.line = (p.advance text).line := by
      rw [line, List.count_eq_zero.2 unbroken, Function.iterate_zero_apply]
    have columns : plus p.column (width text) = (p.advance text).column := by
      rw [column, if_neg unbroken]
      exact plus_eq_iterate (toNat_width text)
    rw [columns, same]

theorem counts_start : start.Counts [] := ⟨rfl, rfl⟩

namespace Counts

variable {p q : Position} {before text : List Char}

theorem next {c : Char} (h : p.Counts before) (hb : before.length + 2 < UInt32.size) :
    (p.next c).Counts (before ++ [c]) := by
  have hcount : before.count '\n' ≤ before.length := List.count_le_length
  have hlast := Text.length_lastLine_le before
  by_cases hc : c = '\n'
  · subst hc
    rw [Position.next, if_pos rfl]
    refine ⟨?_, ?_⟩
    · rw [toNat_successor (by rw [h.line]; omega), h.line, List.count_append, List.count_singleton_self]
      rfl
    · rw [Text.lastLine_concat, if_pos rfl]
      rfl
  · rw [Position.next, if_neg hc]
    refine ⟨?_, ?_⟩
    · rw [List.count_append, List.count_singleton, h.line]
      simp [hc]
    · rw [toNat_successor (by rw [h.column]; omega), h.column, Text.lastLine_concat, if_neg hc, List.length_append]
      rfl

theorem advance (h : p.Counts before) (hb : (before ++ text).length + 1 < UInt32.size) :
    (p.advance text).Counts (before ++ text) := by
  induction text generalizing p before with
  | nil => rwa [List.append_nil]
  | cons c rest ih =>
    rw [advance_cons, List.append_cons]
    rw [List.append_cons] at hb
    refine ih (h.next ?_) hb
    rw [List.length_append, List.length_append, List.length_singleton] at hb
    omega

theorem advance_start (hb : text.length + 1 < UInt32.size) : (start.advance text).Counts text :=
  advance counts_start hb

/-- **A text has one position.** -/
theorem unique (hp : p.Counts before) (hq : q.Counts before) : p = q := by
  obtain ⟨line, column⟩ := p
  obtain ⟨line', column'⟩ := q
  rw [Position.mk.injEq]
  exact ⟨UInt32.toNat_inj.1 (hp.line.trans hq.line.symm), UInt32.toNat_inj.1 (hp.column.trans hq.column.symm)⟩

/-- only a text without line breaks leaves the position on the first line -/
theorem line_eq_one_iff (h : p.Counts before) : p.line = 1 ↔ '\n' ∉ before := by
  rw [← UInt32.toNat_inj, h.line, UInt32.toNat_one, Nat.add_eq_left, List.count_eq_zero]

theorem shift {above : List Char} (h : p.Counts before) (hb : (above ++ before).length + 1 < UInt32.size) :
    (p.shift (above.count '\n') (Text.lastLine above).length).Counts (above ++ before) := by
  have hcount : (above ++ before).count '\n' ≤ (above ++ before).length := List.count_le_length
  have hlast := Text.length_lastLine_le (above ++ before)
  rw [List.count_append] at hcount
  refine ⟨?_, ?_⟩
  · have hsum : 1 + before.count '\n' + above.count '\n' < UInt32.size := by omega
    rw [Position.shift, UInt32.toNat_add, UInt32.toNat_ofNat_of_lt' (by omega), h.line, Nat.mod_eq_of_lt hsum,
      List.count_append]
    omega
  · rw [Text.lastLine_append] at hlast ⊢
    simp only [Position.shift, h.line_eq_one_iff]
    by_cases hn : '\n' ∈ before
    · rw [if_neg (not_not.2 hn), if_pos hn, h.column]
    · rw [if_neg hn, List.length_append] at hlast
      have hsum : 1 + before.length + (Text.lastLine above).length < UInt32.size := by omega
      rw [if_pos hn, if_neg hn, UInt32.toNat_add, UInt32.toNat_ofNat_of_lt' (by omega), h.column,
        Text.lastLine_eq_self hn, Nat.mod_eq_of_lt hsum, List.length_append]
      omega

/-- the shifted position in numbers: none of them leaves its word -/
theorem toNat_shift {above : List Char} (h : p.Counts before) (hb : (above ++ before).length + 1 < UInt32.size) :
    let moved := p.shift (above.count '\n') (Text.lastLine above).length
    moved.line.toNat = p.line.toNat + above.count '\n' ∧
      moved.column.toNat =
        if p.line = 1 then p.column.toNat + (Text.lastLine above).length else p.column.toNat := by
  intro moved
  have counts : moved.Counts (above ++ before) := h.shift hb
  constructor
  · rw [counts.line, h.line, List.count_append]
    omega
  · simp only [h.line_eq_one_iff]
    rw [counts.column, h.column, Text.lastLine_append]
    by_cases hn : '\n' ∈ before
    · rw [if_pos hn, if_neg (not_not.2 hn)]
    · rw [if_neg hn, if_pos hn, List.length_append, Text.lastLine_eq_self hn]
      omega

end Counts

end Position

end TokenScanner
