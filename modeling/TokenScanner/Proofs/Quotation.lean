/-
Strings are read as they were quoted.

A character between quotes is written as itself, by a letter behind a backslash, or, where it is a control character
that has no such letter, by its number (`Quoted.elementOf`). A reader takes just these characters off again, whatever
stands behind them, and so comes to the closing quote with the text and nothing else. Numbers are written for control
characters alone, so none of them is half of a pair.

- `Quoted.scan_escapeChar`: one character is scanned as one element.
- `Quoted.scan_escape`: a text is scanned up to its closing quote.
- `Quoted.value_elements`: the elements of a text stand for the text.
-/
import Mathlib.Tactic
import TokenScanner.Json.Quoted

namespace TokenScanner.Json.Quoted

variable {c : Char} {rest : List Char}

/-! ## One character -/

/-- the control characters that are written by a letter -/
def lettered : List Char :=
  ['\x08', '\t', '\n', '\x0C', '\r']

/-- what a character is scanned as when it was quoted -/
def elementOf (c : Char) : Element :=
  if c.toNat < 0x20 ∧ c ∉ lettered then .unit c.toNat else .char c

theorem unit?_digitChar {n : Nat} (h : n < 0x20) :
    unit? '0' '0' (Nat.digitChar (n / 16)) (Nat.digitChar (n % 16)) = some n := by
  revert n
  decide

/-- a character that stands for itself in a string is scanned as itself -/
theorem scan_plain (quote : c ≠ '"') (backslash : c ≠ '\\') (h : ¬ c.toNat < 0x20) :
    scan (c :: rest) = (scan rest).after (.char c) := by
  rw [scan]
  · rw [if_neg backslash, if_neg h]
  · exact quote
  · exact fun _ _ _ _ _ h _ => absurd h backslash
  · exact fun _ h _ => absurd h backslash
  · exact fun _ _ h _ => absurd h backslash

/-- **A character is scanned as one element,** whatever stands behind it. -/
theorem scan_escapeChar (c : Char) (rest : List Char) :
    scan (escapeChar c ++ rest) = (scan rest).after (elementOf c) := by
  unfold escapeChar
  split
  next h => subst h; rfl
  split
  next h => subst h; rfl
  split
  next h => subst h; rfl
  split
  next h => subst h; rfl
  split
  next h => subst h; rfl
  split
  next h => subst h; rfl
  split
  next h => subst h; rfl
  split
  next quote backslash back tab feed page turn control =>
    have unlettered : c ∉ lettered := by simp [lettered, back, tab, feed, page, turn]
    rw [elementOf, if_pos ⟨control, unlettered⟩]
    simp only [List.cons_append, List.nil_append, scan, unit?_digitChar control]
  next quote backslash _ _ _ _ _ printable =>
    rw [elementOf, if_neg fun h => printable h.1, List.singleton_append]
    exact scan_plain quote backslash printable

/-! ## Texts -/

/-- **A text is scanned up to its closing quote.** -/
theorem scan_escape (text rest : List Char) : scan (escape text ++ '"' :: rest) = ⟨text.map elementOf, .ok rest⟩ := by
  induction text with
  | nil => rfl
  | cons c text ih =>
    rw [escape, List.flatMap_cons, List.append_assoc, scan_escapeChar, ← escape, ih, Scanned.after, List.map_cons]

theorem elementOf_cases (c : Char) : elementOf c = .char c ∨ elementOf c = .unit c.toNat ∧ c.toNat < 0x20 := by
  unfold elementOf
  split
  next h => exact Or.inr ⟨rfl, h.1⟩
  next => exact Or.inl rfl

/-- the number of a control character is no half of a pair -/
theorem isLow_isHigh_of_control {n : Nat} (h : n < 0x20) : isLow n = false ∧ isHigh n = false := by
  unfold isLow isHigh
  simp only [Bool.and_eq_false_iff, decide_eq_false_iff_not]
  omega

theorem flaw?_unit {n : Nat} (h : isLow n = false ∧ isHigh n = false) (ending : Option Flaw) (elements : List Element) :
    flaw? ending (.unit n :: elements) = flaw? ending elements := by
  rw [flaw?.eq_def]
  simp only [h.1, h.2, Bool.false_eq_true, if_false]

theorem characters_unit {n : Nat} (h : isHigh n = false) (elements : List Element) :
    characters (.unit n :: elements) = Char.ofNat n :: characters elements := by
  cases elements with
  | nil => simp [characters]
  | cons e elements => cases e <;> simp [characters, h]

theorem flaw?_elements (text : List Char) : flaw? none (text.map elementOf) = none := by
  induction text with
  | nil => rfl
  | cons c text ih =>
    rw [List.map_cons]
    rcases elementOf_cases c with plain | ⟨unit, control⟩
    · rw [plain, flaw?, ih]
    · rw [unit, flaw?_unit (isLow_isHigh_of_control control), ih]

theorem characters_elements (text : List Char) : characters (text.map elementOf) = text := by
  induction text with
  | nil => rfl
  | cons c text ih =>
    rw [List.map_cons]
    rcases elementOf_cases c with plain | ⟨unit, control⟩
    · rw [plain, characters, ih]
    · rw [unit, characters_unit (isLow_isHigh_of_control control).2, Char.ofNat_toNat, ih]

/-- **The elements of a text stand for the text.** -/
theorem value_elements (text : List Char) : value (text.map elementOf) = .ok text := by
  rw [value, flaw?_elements, characters_elements]

end TokenScanner.Json.Quoted
