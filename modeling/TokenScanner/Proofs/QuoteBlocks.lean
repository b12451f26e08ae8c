/-
Blocks of like quotes.

The unrecognized tokens of a stream fall into blocks: quotes that stand alone, in a row, of one form and on one line are
a block together, and every other token is a block by itself. The blocks are as long as they can be, so there is one way
only to make them. A diagnosis takes the quotes of a block for openings and ends in turn and reports the openings, and
it comes to every block with no quote in mind that the block goes on with.

- `blocks_iff`: the blocks of a list of tokens are the runs in which each token is the same quote as the next.
- `reported_block`: one block, with no quote in mind.
- `Blocks.reported_eq`: the blocks in turn.
- `diagnose_eq_blocks`: the diagnostics of a stream are those of the 1st, 3rd, 5th, ... token of every block.
-/
import Mathlib.Data.List.SplitBy
import TokenScanner.Proofs.Reporting

namespace TokenScanner

variable {t u : Token} {tokens block front back : List Token} {blocks : List (List Token)}

/-! ## Every other element -/

/-- the 1st, 3rd, 5th, ... element -/
def everyOther {α : Type} : List α → List α
  | [] => []
  | [a] => [a]
  | a :: _ :: rest => a :: everyOther rest

/-! ## The same quote -/

/-- the tokens are a quote alone, of one form and on one line -/
def SameQuote (t u : Token) : Prop :=
  (t.lexeme = "'" ∨ t.lexeme = "\"") ∧ t.lexeme = u.lexeme ∧ t.line = u.line

instance (t u : Token) : Decidable (SameQuote t u) :=
  inferInstanceAs (Decidable ((t.lexeme = "'" ∨ t.lexeme = "\"") ∧ t.lexeme = u.lexeme ∧ t.line = u.line))

theorem SameQuote.trans {v : Token} (htu : SameQuote t u) (huv : SameQuote u v) : SameQuote t v :=
  ⟨htu.1, htu.2.1.trans huv.2.1, htu.2.2.trans huv.2.2⟩

instance : Trans SameQuote SameQuote SameQuote :=
  ⟨SameQuote.trans⟩

/-- the same quote is the same thing to keep in mind -/
theorem sameQuote_iff :
    SameQuote t u ↔ ∃ quote, OpenQuote.ofToken? t = some quote ∧ OpenQuote.ofToken? u = some quote := by
  constructor
  · rintro ⟨alone, lexeme, line⟩
    refine ⟨⟨t.lexeme, t.line⟩, if_pos alone, ?_⟩
    rw [lexeme] at alone
    rw [OpenQuote.ofToken?, if_pos alone, lexeme, line]
  · rintro ⟨quote, ht, hu⟩
    obtain ⟨alone, rfl⟩ := OpenQuote.ofToken?_eq_some_iff.1 ht
    obtain ⟨-, same⟩ := OpenQuote.ofToken?_eq_some_iff.1 hu
    rw [OpenQuote.mk.injEq] at same
    exact ⟨alone, same.1, same.2⟩

/-! ## Blocks -/

/-- one token, or the same quote over and over -/
def IsBlock (block : List Token) : Prop :=
  block ≠ [] ∧ block.Pairwise SameQuote

/-- the tokens in blocks, no two neighbours of which are one block together -/
structure Blocks (tokens : List Token) (blocks : List (List Token)) : Prop where
  parts : blocks.flatten = tokens
  each : ∀ block ∈ blocks, IsBlock block
  maximal : blocks.IsChain fun a b => ¬ IsBlock (a ++ b)

theorem isBlock_iff_isChain : IsBlock block ↔ block ≠ [] ∧ block.IsChain SameQuote := by
  rw [IsBlock, List.isChain_iff_pairwise]

/-- two blocks are one together if the second starts with the quote that the first ends with -/
theorem IsBlock.append_iff (hf : IsBlock front) (hb : IsBlock back) :
    IsBlock (front ++ back) ↔ SameQuote (front.getLast hf.1) (back.head hb.1) := by
  have whole : front ++ back ≠ [] := List.append_ne_nil_of_left_ne_nil hf.1 back
  rw [isBlock_iff_isChain] at hf hb ⊢
  rw [List.isChain_append]
  simp [whole, hf.2, hb.2, List.getLast?_eq_some_getLast hf.1, List.head?_eq_some_head hb.1]

theorem blocks_iff : Blocks tokens blocks ↔ tokens.splitBy (fun t u => decide (SameQuote t u)) = blocks := by
  rw [List.splitBy_eq_iff]
  simp only [decide_eq_true_eq, decide_eq_false_iff_not]
  constructor
  · rintro ⟨parts, each, maximal⟩
    refine ⟨parts.symm, fun hn => (each [] hn).1 rfl, fun b hb => (isBlock_iff_isChain.1 (each b hb)).2, ?_⟩
    refine maximal.imp_of_mem_imp fun a b ha hb apart => ⟨(each a ha).1, (each b hb).1, ?_⟩
    rwa [(each a ha).append_iff (each b hb)] at apart
  · rintro ⟨parts, nonempty, chains, apart⟩
    have each : ∀ b ∈ blocks, IsBlock b :=
      fun b hb => isBlock_iff_isChain.2 ⟨fun hn => nonempty (hn ▸ hb), chains b hb⟩
    refine ⟨parts.symm, each, apart.imp_of_mem_imp fun a b ha hb differ => ?_⟩
    rw [(each a ha).append_iff (each b hb)]
    exact differ.2.2

/-! ## What is reported of blocks -/

/-- of a block the openings are reported -/
theorem reported_block (h : block.Pairwise SameQuote) : reported none block = everyOther block := by
  induction block using everyOther.induct with
  | case1 => rfl
  | case2 t => exact reported_none_cons t []
  | case3 t u rest ih =>
    rw [List.pairwise_cons, List.pairwise_cons] at h
    obtain ⟨first, -, others⟩ := h
    obtain ⟨quote, ht, hu⟩ := sameQuote_iff.1 (first u List.mem_cons_self)
    rw [reported_none_cons, reported, ht, hu, if_pos ⟨rfl, rfl⟩, ih others, everyOther]

/-- a block that makes no longer one with the block before does not go on with the quote in mind -/
theorem reported_behind (hf : IsBlock front) (each : ∀ block ∈ blocks, IsBlock block)
    (apart : ∀ block ∈ blocks.head?, ¬ IsBlock (front ++ block)) :
    reported (openAfter none front) blocks.flatten = reported none blocks.flatten := by
  cases blocks with
  | nil => rfl
  | cons back others =>
    have hb : IsBlock back := each back List.mem_cons_self
    apply reported_of_head_ne
    intro quote kept u first opened
    have head : back.head hb.1 = u := by
      rw [List.flatten_cons, List.head?_append_of_ne_nil _ hb.1, List.head?_eq_some_head hb.1] at first
      exact Option.some.inj first
    rcases ofToken?_of_openAfter kept with ⟨empty, -⟩ | ⟨t, last, closed⟩
    · exact hf.1 empty
    · have same : SameQuote (front.getLast hf.1) (back.head hb.1) := by
        rw [List.getLast?_eq_some_getLast hf.1, Option.mem_some_iff] at last
        rw [last, head]
        exact sameQuote_iff.2 ⟨quote, closed, opened⟩
      exact apart back rfl ((hf.append_iff hb).2 same)

theorem Blocks.reported_eq (h : Blocks tokens blocks) : reported none tokens = blocks.flatMap everyOther := by
  obtain ⟨rfl, each, maximal⟩ := h
  induction blocks with
  | nil => rfl
  | cons block others ih =>
    obtain ⟨apart, chained⟩ := List.isChain_cons.1 maximal
    obtain ⟨first, behind⟩ := List.forall_mem_cons.1 each
    calc reported none (block :: others).flatten
        = reported none block ++ reported (openAfter none block) others.flatten := by
          rw [List.flatten_cons, reported_append]
      _ = everyOther block ++ reported none others.flatten := by
          rw [reported_block first.2, reported_behind first behind apart]
      _ = (block :: others).flatMap everyOther := by
          rw [ih behind chained, List.flatMap_cons]

/-- **The exact diagnostics of a stream.** The unrecognized tokens of a stream fall into maximal blocks of like quotes
on one line, with every other token a block by itself, in one way only; and the diagnostics are those of the 1st, 3rd,
5th, ... token of every block, in order. -/
theorem diagnose_eq_blocks (s : TokenStream) :
    ∃ blocks, Blocks s.errors blocks ∧ (∀ others, Blocks s.errors others → others = blocks) ∧
      diagnose s = (blocks.flatMap everyOther).map .ofToken := by
  have parted : Blocks s.errors _ := blocks_iff.2 rfl
  refine ⟨_, parted, fun others h => (blocks_iff.1 h).symm, ?_⟩
  rw [diagnose, parted.reported_eq]

/-- three single quotes on one line, then a double quote, then a single quote again -/
example :
    let quote : String → UInt32 → Token := fun lexeme column => ⟨"q.st", 1, column, lexeme, .error⟩
    (diagnose ⟨"q.st", [quote "'" 1, quote "'" 3, quote "'" 5, quote "\"" 7, quote "'" 9]⟩).map Diagnostic.column =
      [1, 5, 7, 9] := by
  decide +kernel

end TokenScanner
