/-
Sets of patterns.

A set is a word of eight bits. Each pattern has a bit of its own (`Pattern.bit`); the three bits that are left belong to
no pattern, and a set keeps them when it is united, cut or written. Only `complement` answers with patterns alone.

- `PatternSet.mem_full`: the full set holds every pattern.
- `PatternSet.mem_union`, `PatternSet.mem_without`: the patterns of a union and of a difference.
- `PatternSet.eq_of_mem_iff`: a set is known from its patterns and its unassigned bits.
-/
import TokenScanner.Pattern

namespace TokenScanner

/-- the bit of a pattern in a set -/
def Pattern.bit : Pattern → UInt8
  | digits => 1
  | ident => 2
  | newline => 4
  | singleQuoted => 8
  | doubleQuoted => 16

/-- the bit of a pattern is one of the eight of a word -/
theorem Pattern.exists_bit_eq (p : Pattern) : ∃ i, i < 8 ∧ p.bit.toBitVec = BitVec.twoPow 8 i := by
  cases p with
  | digits => exact ⟨0, by decide⟩
  | ident => exact ⟨1, by decide⟩
  | newline => exact ⟨2, by decide⟩
  | singleQuoted => exact ⟨3, by decide⟩
  | doubleQuoted => exact ⟨4, by decide⟩

/-- a set of patterns, with room for bits that are no pattern's -/
structure PatternSet where
  bits : UInt8
  deriving DecidableEq, Repr

namespace PatternSet

/-- the set without patterns -/
def empty : PatternSet := ⟨0⟩

/-- the set of all patterns -/
def full : PatternSet := ⟨31⟩

/-- the two patterns of quoted literals -/
def quotes : PatternSet := ⟨Pattern.singleQuoted.bit ||| Pattern.doubleQuoted.bit⟩

/-- the set of one pattern -/
def single (p : Pattern) : PatternSet := ⟨p.bit⟩

/-- the bits, without those that are no pattern's -/
def ofBits (bits : UInt8) : PatternSet := ⟨bits &&& full.bits⟩

/-- the bits of either set -/
def union (a b : PatternSet) : PatternSet := ⟨a.bits ||| b.bits⟩

/-- the bits of both sets -/
def inter (a b : PatternSet) : PatternSet := ⟨a.bits &&& b.bits⟩

/-- the bits of the first set that are not in the second -/
def without (a b : PatternSet) : PatternSet := ⟨a.bits &&& ~~~b.bits⟩

/-- the bits of exactly one of the sets -/
def symmDiff (a b : PatternSet) : PatternSet := ⟨a.bits ^^^ b.bits⟩

/-- the patterns that are not in the set -/
def complement (a : PatternSet) : PatternSet := ofBits (~~~a.bits)

/-- every bit of the second set is in the first -/
def contains (a b : PatternSet) : Bool := a.bits &&& b.bits == b.bits

/-- the sets have a bit in common -/
def intersects (a b : PatternSet) : Bool := a.bits &&& b.bits != 0

/-- the set has no bit -/
def isEmpty (a : PatternSet) : Bool := a.bits == 0

/-- the set holds the pattern -/
def has (a : PatternSet) (p : Pattern) : Bool := a.contains (single p)

/-- the patterns of the set, in order -/
def patterns (a : PatternSet) : List Pattern := Pattern.all.filter a.has

/-- the bits that are no pattern's -/
def unassigned (a : PatternSet) : UInt8 := a.bits &&& ~~~full.bits

instance : Membership Pattern PatternSet := ⟨fun a p => a.has p = true⟩

instance (p : Pattern) (a : PatternSet) : Decidable (p ∈ a) :=
  inferInstanceAs (Decidable (a.has p = true))

theorem mem_full (p : Pattern) : p ∈ full := by cases p <;> decide

variable {a b : PatternSet} {p q : Pattern}

/-- a set holds a pattern if it has the bit -/
theorem mem_iff_getLsbD {i : Nat} (h : p.bit.toBitVec = BitVec.twoPow 8 i) :
    p ∈ a ↔ a.bits.toBitVec.getLsbD i = true := by
  have one : BitVec.twoPow 8 i ≠ 0#8 := by
    rw [← h]
    cases p <;> decide
  change (a.bits &&& p.bit == p.bit) = true ↔ _
  rw [beq_iff_eq, ← UInt8.toBitVec_inj, UInt8.toBitVec_and, h, BitVec.and_twoPow]
  by_cases held : a.bits.toBitVec.getLsbD i = true
  · rw [if_pos held]
    exact iff_of_true rfl held
  · rw [if_neg held]
    exact iff_of_false one.symm held

theorem mem_union : p ∈ a.union b ↔ p ∈ a ∨ p ∈ b := by
  obtain ⟨i, -, h⟩ := p.exists_bit_eq
  rw [mem_iff_getLsbD h, mem_iff_getLsbD h, mem_iff_getLsbD h, union, UInt8.toBitVec_or, BitVec.getLsbD_or,
    Bool.or_eq_true]

theorem mem_without : p ∈ a.without b ↔ p ∈ a ∧ p ∉ b := by
  obtain ⟨i, hi, h⟩ := p.exists_bit_eq
  rw [mem_iff_getLsbD h, mem_iff_getLsbD h, mem_iff_getLsbD h, without, UInt8.toBitVec_and, UInt8.toBitVec_not,
    BitVec.getLsbD_and, BitVec.getLsbD_not, Bool.and_eq_true]
  simp [hi]

theorem mem_single : p ∈ single q ↔ p = q := by cases p <;> cases q <;> decide

/-! ## Unassigned bits -/

/-- each of the eight bits is that of a pattern, or unassigned -/
theorem exists_bit_or_unassigned {i : Nat} (h : i < 8) :
    (∃ p : Pattern, p.bit.toBitVec = BitVec.twoPow 8 i) ∨ full.bits.toBitVec.getLsbD i = false := by
  match i with
  | 0 => exact Or.inl ⟨.digits, by decide⟩
  | 1 => exact Or.inl ⟨.ident, by decide⟩
  | 2 => exact Or.inl ⟨.newline, by decide⟩
  | 3 => exact Or.inl ⟨.singleQuoted, by decide⟩
  | 4 => exact Or.inl ⟨.doubleQuoted, by decide⟩
  | 5 => exact Or.inr (by decide)
  | 6 => exact Or.inr (by decide)
  | 7 => exact Or.inr (by decide)

theorem getLsbD_unassigned (a : PatternSet) {i : Nat} (h : i < 8) :
    a.unassigned.toBitVec.getLsbD i = (a.bits.toBitVec.getLsbD i && !full.bits.toBitVec.getLsbD i) := by
  simp [unassigned, h]

/-- a set is known from its patterns and its unassigned bits -/
theorem eq_of_mem_iff (patterns : ∀ p, p ∈ a ↔ p ∈ b) (others : a.unassigned = b.unassigned) : a = b := by
  have bits : a.bits.toBitVec = b.bits.toBitVec := by
    apply BitVec.eq_of_getLsbD_eq
    intro i hi
    rcases exists_bit_or_unassigned hi with ⟨p, bit⟩ | free
    · rw [Bool.eq_iff_iff, ← mem_iff_getLsbD bit, ← mem_iff_getLsbD bit]
      exact patterns p
    · have same : a.unassigned.toBitVec.getLsbD i = b.unassigned.toBitVec.getLsbD i := by rw [others]
      rw [getLsbD_unassigned a hi, getLsbD_unassigned b hi, free] at same
      simpa using same
  cases a
  cases b
  exact congrArg mk (UInt8.toBitVec_inj.1 bits)

theorem unassigned_union (a b : PatternSet) : (a.union b).unassigned = a.unassigned ||| b.unassigned := by
  unfold unassigned union
  rw [← UInt8.toBitVec_inj]
  simp only [UInt8.toBitVec_and, UInt8.toBitVec_or]
  exact BitVec.and_or_distrib_right

/-- the unassigned bits by themselves are no pattern's -/
theorem not_mem_unassigned (a : PatternSet) : p ∉ (⟨a.unassigned⟩ : PatternSet) := by
  obtain ⟨i, hi, h⟩ := p.exists_bit_eq
  have assigned : full.bits.toBitVec.getLsbD i = true := (mem_iff_getLsbD h).1 (mem_full p)
  rw [mem_iff_getLsbD h, getLsbD_unassigned a hi, assigned]
  simp

theorem unassigned_unassigned (a : PatternSet) : (⟨a.unassigned⟩ : PatternSet).unassigned = a.unassigned := by
  unfold unassigned
  rw [UInt8.and_assoc, UInt8.and_self]

theorem unassigned_single (p : Pattern) : (single p).unassigned = 0 := by cases p <;> decide

end PatternSet

end TokenScanner
