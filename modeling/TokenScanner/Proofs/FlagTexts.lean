/-
Sets of patterns are read as they were written.

A set is written as parts with bars between them and a space on both sides of each bar. No part has white space or a bar
in it, so a reader that parts the text at the bars and cuts the white space around each part comes to the same parts. A
part is a name, which is read as the set of one pattern, or the number of the unassigned bits. United they have the
patterns of the set and its unassigned bits, and a set is known from these.

- `Text.map_trim_splitOn`: parts are told from the text that joins them.
- `PatternSet.readsAs_parts`: each part is read by itself.
- `PatternSet.foldl_union_pieces`: the sets of the parts make up the whole.
- `PatternSet.ofText?_text`: the written form of a set is read as the set.
-/
import Mathlib.Tactic
import TokenScanner.PatternSet.Text

namespace TokenScanner

/-! ## Joined parts -/

namespace Text

/-- the text neither starts nor ends with white space -/
structure Tight (text : List Char) : Prop where
  head : ∀ c ∈ text.head?, isWhiteSpace c = false
  last : ∀ c ∈ text.getLast?, isWhiteSpace c = false

theorem tight_of_forall {text : List Char} (h : ∀ c ∈ text, isWhiteSpace c = false) : Tight text where
  head := fun c hc => h c (List.mem_of_mem_head? hc)
  last := fun c hc => h c (List.mem_of_getLast? hc)

/-- what stands between two tight texts does not matter -/
theorem Tight.append {front back : List Char} (hf : Tight front) (hb : Tight back) (front_ne : front ≠ [])
    (back_ne : back ≠ []) (middle : List Char) : Tight (front ++ middle ++ back) where
  head := by
    intro c hc
    rw [List.append_assoc, List.head?_append_of_ne_nil _ front_ne] at hc
    exact hf.head c hc
  last := by
    intro c hc
    rw [List.getLast?_append_of_ne_nil _ back_ne] at hc
    exact hb.last c hc

theorem dropWhile_white {front text : List Char} (hf : ∀ c ∈ front, isWhiteSpace c = true)
    (head : ∀ c ∈ text.head?, isWhiteSpace c = false) : (front ++ text).dropWhile isWhiteSpace = text := by
  rw [List.dropWhile_append_of_pos hf]
  cases text with
  | nil => rfl
  | cons c rest =>
    have solid := head c rfl
    simp [solid]

theorem trim_spaced {front text back : List Char} (h : Tight text) (hf : ∀ c ∈ front, isWhiteSpace c = true)
    (hb : ∀ c ∈ back, isWhiteSpace c = true) : trim (front ++ text ++ back) = text := by
  have last : ∀ c ∈ text.reverse.head?, isWhiteSpace c = false := by
    rw [List.head?_reverse]
    exact h.last
  have white : ∀ c ∈ back.reverse, isWhiteSpace c = true := fun c hc => hb c (List.mem_reverse.1 hc)
  unfold trim
  cases text with
  | nil =>
    -- nothing is left but white space
    have all : ∀ c ∈ front ++ [] ++ back, isWhiteSpace c = true := by
      rw [List.append_nil]
      exact List.forall_mem_append.2 ⟨hf, hb⟩
    have nothing : ((front ++ [] ++ back) ++ []).dropWhile isWhiteSpace = [] := dropWhile_white all (by simp)
    rw [List.append_nil] at nothing
    rw [nothing]
    rfl
  | cons c rest =>
    have head : ∀ d ∈ (c :: rest ++ back).head?, isWhiteSpace d = false := h.head
    rw [List.append_assoc, dropWhile_white hf head, List.reverse_append, dropWhile_white white last,
      List.reverse_reverse]

/-- what stands between the parts of a joined text -/
def bar : List Char := " | ".toList

theorem bar_eq : bar = [' '] ++ '|' :: [' '] := rfl

theorem intercalate_ne_nil {part : List Char} (h : part ≠ []) (parts : List (List Char)) :
    bar.intercalate (part :: parts) ≠ [] := by
  cases parts with
  | nil => rwa [List.intercalate_singleton]
  | cons next parts => simp [List.intercalate_cons_cons, h]

/-- joined parts are tight if each part is -/
theorem tight_intercalate {parts : List (List Char)} (h : ∀ part ∈ parts, part ≠ [] ∧ Tight part) :
    Tight (bar.intercalate parts) := by
  induction parts with
  | nil => exact tight_of_forall (List.forall_mem_nil _)
  | cons part parts ih =>
    obtain ⟨⟨part_ne, tight⟩, others⟩ := List.forall_mem_cons.1 h
    cases parts with
    | nil => rwa [List.intercalate_singleton]
    | cons next parts =>
      rw [List.intercalate_cons_cons]
      exact tight.append (ih others) part_ne (intercalate_ne_nil (others next List.mem_cons_self).1 parts) bar

/-- **Parts are told from the text that joins them,** if no part has a bar in it: the text is parted at the bars, and the
white space around each part is cut. -/
theorem map_trim_splitOn {parts : List (List Char)} (some_part : parts ≠ [])
    (h : ∀ part ∈ parts, '|' ∉ part ∧ Tight part) : (splitOn '|' (bar.intercalate parts)).map trim = parts := by
  -- all parts but the first stand behind a space
  suffices spaced : ∀ front : List Char, '|' ∉ front → (∀ c ∈ front, isWhiteSpace c = true) →
      (splitOn '|' (front ++ bar.intercalate parts)).map trim = parts from
    spaced [] List.not_mem_nil (List.forall_mem_nil _)
  induction parts with
  | nil => exact absurd rfl some_part
  | cons part parts ih =>
    obtain ⟨⟨closed, tight⟩, others⟩ := List.forall_mem_cons.1 h
    intro front unbarred white
    cases parts with
    | nil =>
      have alone : '|' ∉ front ++ part := by
        rw [List.mem_append]
        exact not_or.2 ⟨unbarred, closed⟩
      have cut := trim_spaced tight white (List.forall_mem_nil _)
      rw [List.append_nil] at cut
      rw [List.intercalate_singleton, splitOn_of_not_mem alone, List.map_singleton, cut]
    | cons next parts =>
      have first : '|' ∉ front ++ part ++ [' '] := by
        simp [unbarred, closed]
      have space : ∀ c ∈ [' '], isWhiteSpace c = true := List.forall_mem_singleton.2 rfl
      have joined : front ++ bar.intercalate (part :: next :: parts) =
          (front ++ part ++ [' ']) ++ '|' :: ([' '] ++ bar.intercalate (next :: parts)) := by
        rw [List.intercalate_cons_cons, bar_eq]
        simp
      rw [joined, splitOn_append_cons first, List.map_cons, trim_spaced tight white space,
        ih (List.cons_ne_nil next parts) others [' '] (by decide) space]

end Text

/-! ## The parts of a set -/

namespace PatternSet

open Text (Tight)

/-- the sets that the parts of the written form stand for -/
def pieces (set : PatternSet) : List PatternSet :=
  set.patterns.map single ++ if set.unassigned = 0 then [] else [⟨set.unassigned⟩]

/-- a part of a written form: it is not empty, and has no white space and no bar in it -/
def IsPart (part : List Char) : Prop :=
  part ≠ [] ∧ ∀ c ∈ part, Text.isWhiteSpace c = false ∧ c ≠ '|'

instance (part : List Char) : Decidable (IsPart part) :=
  @instDecidableAnd _ _ inferInstance (List.decidableBAll (fun c => Text.isWhiteSpace c = false ∧ c ≠ '|') part)

theorem isPart_flagName (p : Pattern) : IsPart p.flagName := by
  cases p <;> decide

theorem isPart_hex (n : Nat) : IsPart ('0' :: 'x' :: Nat.toDigits 16 n) := by
  refine ⟨List.cons_ne_nil _ _, ?_⟩
  have digits : ∀ c ∈ Nat.toDigits 16 n, Text.isWhiteSpace c = false ∧ c ≠ '|' := by
    intro c hc
    obtain ⟨d, small, rfl⟩ := Text.exists_digitChar_of_mem_toDigits hc
    have table : ∀ d < 16, Text.isWhiteSpace (Nat.digitChar d) = false ∧ Nat.digitChar d ≠ '|' := by decide
    exact table d small
  exact List.forall_mem_cons.2 ⟨by decide, List.forall_mem_cons.2 ⟨by decide, digits⟩⟩

theorem IsPart.tight {part : List Char} (h : IsPart part) : Tight part :=
  Text.tight_of_forall fun c hc => (h.2 c hc).1

theorem IsPart.not_mem {part : List Char} (h : IsPart part) : '|' ∉ part :=
  fun hm => (h.2 '|' hm).2 rfl

theorem ofPart?_flagName (p : Pattern) : ofPart? p.flagName = .ok (single p) := by
  cases p <;> rfl

/-- a byte is read from its digits -/
theorem hexByte?_toDigits (bits : UInt8) : hexByte? (Nat.toDigits 16 bits.toNat) = some bits := by
  have small : bits.toNat < UInt8.size := bits.toNat_lt
  have number := Text.hexNumber?_toDigits bits.toNat
  obtain ⟨first, rest, digits⟩ := List.exists_cons_of_ne_nil (@Nat.toDigits_ne_nil bits.toNat 16)
  have unsigned : first ≠ '+' := by
    have listed : first ∈ Nat.toDigits 16 bits.toNat := by
      rw [digits]
      exact List.mem_cons_self
    obtain ⟨d, low, rfl⟩ := Text.exists_digitChar_of_mem_toDigits listed
    have table : ∀ d < 16, Nat.digitChar d ≠ '+' := by decide
    exact table d low
  rw [digits] at number ⊢
  unfold hexByte?
  split
  next signed => exact absurd (List.cons.inj signed).1 unsigned
  next => simp [number, small]

theorem ofPart?_hex (bits : UInt8) : ofPart? ('0' :: 'x' :: Nat.toDigits 16 bits.toNat) = .ok ⟨bits⟩ := by
  simp only [ofPart?, hexByte?_toDigits]

/-- a part is read as a set -/
def ReadsAs (part : List Char) (set : PatternSet) : Prop :=
  IsPart part ∧ ofPart? part = .ok set

/-- **Each part of a written form is read by itself,** as the set it stands for. -/
theorem readsAs_parts (set : PatternSet) : List.Forall₂ ReadsAs set.parts set.pieces := by
  unfold parts pieces
  refine List.rel_append ?_ ?_
  · rw [List.forall₂_map_left_iff, List.forall₂_map_right_iff, List.forall₂_same]
    exact fun p _ => ⟨isPart_flagName p, ofPart?_flagName p⟩
  · split
    next => exact .nil
    next => exact .cons ⟨isPart_hex _, ofPart?_hex _⟩ .nil

theorem forall_isPart {parts : List (List Char)} {sets : List PatternSet} (h : List.Forall₂ ReadsAs parts sets) :
    ∀ part ∈ parts, IsPart part := by
  induction h with
  | nil => exact List.forall_mem_nil _
  | cons first others ih => exact List.forall_mem_cons.2 ⟨first.1, ih⟩

/-- parts that are read one by one are united -/
theorem foldlM_readsAs {parts : List (List Char)} {sets : List PatternSet} (h : List.Forall₂ ReadsAs parts sets)
    (a : PatternSet) :
    parts.foldlM (fun set part => (ofPart? part).map set.union) a = .ok (sets.foldl union a) := by
  induction h generalizing a with
  | nil => rfl
  | cons first others ih =>
    rw [List.foldlM_cons, first.2, List.foldl_cons]
    exact ih _

/-! ## The whole set -/

variable {p : Pattern}

theorem mem_foldl_union (sets : List PatternSet) (a : PatternSet) :
    p ∈ sets.foldl union a ↔ p ∈ a ∨ ∃ s ∈ sets, p ∈ s := by
  induction sets generalizing a with
  | nil => simp
  | cons s sets ih => simp [ih, mem_union, or_assoc]

theorem unassigned_foldl_union (sets : List PatternSet) (a : PatternSet) :
    (sets.foldl union a).unassigned = sets.foldl (fun bits s => bits ||| s.unassigned) a.unassigned := by
  induction sets generalizing a with
  | nil => rfl
  | cons s sets ih => rw [List.foldl_cons, List.foldl_cons, ih, unassigned_union]

theorem not_mem_empty : p ∉ empty := by cases p <;> decide

theorem mem_patterns {set : PatternSet} : p ∈ set.patterns ↔ p ∈ set := by
  unfold patterns
  rw [List.mem_filter]
  exact and_iff_right p.mem_all

theorem mem_pieces {set s : PatternSet} :
    s ∈ set.pieces ↔ (∃ p ∈ set, single p = s) ∨ set.unassigned ≠ 0 ∧ s = ⟨set.unassigned⟩ := by
  unfold pieces
  rw [List.mem_append, List.mem_map]
  simp only [mem_patterns]
  split
  next none => simp [none]
  next others => simp [others]

/-- names have no unassigned bits, so those of the whole come from the last part -/
theorem unassigned_pieces (set : PatternSet) : (set.pieces.foldl union empty).unassigned = set.unassigned := by
  have names : ∀ patterns : List Pattern, ((patterns.map single).foldl union empty).unassigned = 0 := by
    intro patterns
    rw [unassigned_foldl_union, List.foldl_map]
    simp only [unassigned_single, UInt8.or_zero]
    exact List.foldl_fixed' (fun _ => rfl) patterns
  unfold pieces
  rw [List.foldl_append]
  split
  next none => rw [List.foldl_nil, names, none]
  next others =>
    rw [List.foldl_cons, List.foldl_nil, unassigned_union, names, unassigned_unassigned, UInt8.zero_or]

/-- **The sets of the parts make up the whole.** -/
theorem foldl_union_pieces (set : PatternSet) : set.pieces.foldl union empty = set := by
  refine eq_of_mem_iff (fun p => ?_) (unassigned_pieces set)
  rw [mem_foldl_union]
  constructor
  · rintro (none | ⟨s, piece, held⟩)
    · exact absurd none not_mem_empty
    · rcases mem_pieces.1 piece with ⟨q, hq, rfl⟩ | ⟨-, rfl⟩
      · rwa [mem_single.1 held]
      · exact absurd held set.not_mem_unassigned
  · intro held
    exact Or.inr ⟨single p, mem_pieces.2 (Or.inl ⟨p, held, rfl⟩), mem_single.2 rfl⟩

/-- **The written form of a set is read as the set.** -/
theorem ofText?_text (set : PatternSet) : ofText? set.text = .ok set := by
  have reads := readsAs_parts set
  have parts := forall_isPart reads
  have written : set.text = Text.bar.intercalate set.parts := rfl
  have tight : Tight set.text := by
    rw [written]
    exact Text.tight_intercalate fun part hp => ⟨(parts part hp).1, (parts part hp).tight⟩
  have trimmed : Text.trim set.text = set.text := by
    simpa using Text.trim_spaced tight (List.forall_mem_nil _) (List.forall_mem_nil _)
  have united := foldlM_readsAs reads empty
  rw [foldl_union_pieces] at united
  unfold ofText?
  rw [trimmed]
  cases listed : set.parts with
  | nil =>
    rw [listed] at united written
    rw [written]
    exact united
  | cons part others =>
    have some_part : set.parts ≠ [] := by
      rw [listed]
      exact List.cons_ne_nil part others
    have told : (Text.splitOn '|' set.text).map Text.trim = set.parts :=
      Text.map_trim_splitOn some_part fun part hp => ⟨(parts part hp).not_mem, (parts part hp).tight⟩
    rw [← told, List.foldlM_map] at united
    split
    next nothing =>
      rw [written, listed] at nothing
      exact absurd nothing (Text.intercalate_ne_nil (parts part (by rw [listed]; exact List.mem_cons_self)).1 others)
    next => exact united

end PatternSet

end TokenScanner
