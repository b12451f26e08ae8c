/-
The stages of a classification.

A lexer asks in stages what an input starts with: each pattern is a stage, and so is each of the two tables. The first
stage that has an answer gives it (`Lexer.classifyBy`). Most stages are never in each other's way: a lexeme of a pattern
shows by its first character which pattern it is, and the only symbol with such a first character is the line break,
which pattern and table take alike. So the stages may come in any order in which two characters are asked for before
one.

- `Pattern.eq_of_match?`, `Pattern.match?_symbol`: one pattern at most matches, and with a symbol only that of the line
  break.
- `Stage.take?_agree`: two stages that have an answer give the same one, unless they are the two tables.
- `Lexer.classifyBy_eq_classify`: every order with the table of pairs before that of single characters will do.
- `Lexer.classify_of_newline_listed`: a lexer that lists the line break as a symbol may or may not use its pattern.
- `Lexer.stages_commute`: all of these together.
-/
import TokenScanner.Proofs.Grouping

namespace TokenScanner

variable {lexer : Lexer} {input lexeme other rest : List Char} {c : Char} {kind : Kind} {s : Symbol}

/-! ## Patterns beside patterns and symbols -/

theorem Symbol.lexeme_ne_nil (s : Symbol) : s.lexeme ≠ [] := by cases s <;> decide

namespace Pattern

variable {p q : Pattern}

/-- what matches is not empty, so it has a first character -/
theorem exists_cons_of_match? (h : p.match? input = some lexeme) : ∃ c rest, input = c :: rest := by
  apply List.exists_cons_of_ne_nil
  intro empty
  rw [empty] at h
  have start : lexeme <+: [] := match?_prefix h
  exact match?_ne_nil h (List.prefix_nil.1 start)

/-- one pattern at most matches -/
theorem eq_of_match? (hp : p.match? input = some lexeme) (hq : q.match? input = some other) : p = q := by
  obtain ⟨c, rest, rfl⟩ := exists_cons_of_match? hp
  have first : some p = some q := (ofFirst?_of_match? hp).symm.trans (ofFirst?_of_match? hq)
  exact Option.some.inj first

/-- a pattern and a symbol that start one input are both the line break -/
theorem match?_symbol (hp : p.match? input = some lexeme) (written : s.lexeme <+: input) :
    p = .newline ∧ s = .newline ∧ lexeme = s.lexeme := by
  obtain ⟨c, rest, rfl⟩ := exists_cons_of_match? hp
  obtain ⟨d, tail, hd⟩ := List.exists_cons_of_ne_nil s.lexeme_ne_nil
  have same : d = c := by
    rw [hd] at written
    exact (List.cons_prefix_cons.1 written).1
  have first : ofFirst? d = some p := same ▸ ofFirst?_of_match? hp
  rw [Symbol.ofFirst?_lexeme hd] at first
  by_cases hs : s = .newline
  · rw [if_pos hs] at first
    obtain rfl : .newline = p := Option.some.inj first
    obtain ⟨-, -, rfl⟩ := newline?_eq_some_iff.1 hp
    exact ⟨rfl, hs, by rw [hs]; rfl⟩
  · rw [if_neg hs] at first
    cases first

end Pattern

/-! ## Stages -/

/-- what a lexer may ask an input for -/
inductive Stage where
  /-- a lexeme of the pattern, if that is in use -/
  | pattern (p : Pattern)
  /-- an entry of the table of two-character symbols -/
  | twoChar
  /-- an entry of the table of one-character symbols -/
  | oneChar
  deriving DecidableEq, Repr

namespace Stage

/-- every stage, in the order they are asked -/
def all : List Stage :=
  [pattern .digits, pattern .ident, pattern .newline, pattern .singleQuoted, pattern .doubleQuoted, twoChar, oneChar]

/-- kind and lexeme of what a stage finds at the start of the input -/
def take? (lexer : Lexer) (input : List Char) : Stage → Option (Kind × List Char)
  | pattern p => if p ∈ lexer.patterns then (p.match? input).map fun lexeme => (p.kind, lexeme) else none
  | twoChar => (lexer.twoChar.match? input).map fun s => (.symbol s, s.lexeme)
  | oneChar => (lexer.oneChar.match? input).map fun s => (.symbol s, s.lexeme)

variable {stage a b : Stage} {order : List Stage}

theorem mem_all (stage : Stage) : stage ∈ all := by
  cases stage with
  | pattern p => cases p <;> decide
  | _ => decide

theorem take?_pattern {p : Pattern} :
    (pattern p).take? lexer input = some (kind, lexeme) ↔
      p ∈ lexer.patterns ∧ p.match? input = some lexeme ∧ kind = p.kind := by
  simp only [take?, Option.ite_none_right_eq_some, Option.map_eq_some_iff, Prod.mk.injEq]
  constructor
  · rintro ⟨used, lexeme, taken, rfl, rfl⟩
    exact ⟨used, taken, rfl⟩
  · rintro ⟨used, taken, rfl⟩
    exact ⟨used, lexeme, taken, rfl, rfl⟩

/-- a stage has an answer if its pattern matches or an entry of its table stands at the start of the input -/
theorem take?_table {width : Nat} {table : SymbolTable width} :
    ((table.match? input).map fun s => (Kind.symbol s, s.lexeme)) = some (kind, lexeme) ↔
      ∃ s ∈ table.symbols, s.lexeme <+: input ∧ kind = .symbol s ∧ lexeme = s.lexeme := by
  simp only [Option.map_eq_some_iff, SymbolTable.match?_eq_some_iff, Prod.mk.injEq]
  constructor
  · rintro ⟨s, ⟨listed, written⟩, rfl, rfl⟩
    exact ⟨s, listed, written, rfl, rfl⟩
  · rintro ⟨s, listed, written, rfl, rfl⟩
    exact ⟨s, ⟨listed, written⟩, rfl, rfl⟩

theorem take?_twoChar :
    twoChar.take? lexer input = some (kind, lexeme) ↔
      ∃ s ∈ lexer.twoChar.symbols, s.lexeme <+: input ∧ kind = .symbol s ∧ lexeme = s.lexeme :=
  take?_table

theorem take?_oneChar :
    oneChar.take? lexer input = some (kind, lexeme) ↔
      ∃ s ∈ lexer.oneChar.symbols, s.lexeme <+: input ∧ kind = .symbol s ∧ lexeme = s.lexeme :=
  take?_table

/-- a stage finds what a pattern matches, or the lexeme of a symbol -/
theorem take?_cases (h : stage.take? lexer input = some (kind, lexeme)) :
    (∃ p, stage = pattern p ∧ p.match? input = some lexeme ∧ kind = p.kind) ∨
      (stage = twoChar ∨ stage = oneChar) ∧ ∃ s, s.lexeme <+: input ∧ kind = .symbol s ∧ lexeme = s.lexeme := by
  cases stage with
  | pattern p =>
    obtain ⟨-, taken, named⟩ := take?_pattern.1 h
    exact Or.inl ⟨p, rfl, taken, named⟩
  | twoChar =>
    obtain ⟨s, -, found⟩ := take?_twoChar.1 h
    exact Or.inr ⟨Or.inl rfl, s, found⟩
  | oneChar =>
    obtain ⟨s, -, found⟩ := take?_oneChar.1 h
    exact Or.inr ⟨Or.inr rfl, s, found⟩

/-- stages that have an answer have the same one, unless they are the two tables -/
theorem take?_agree {found found' : Kind × List Char} (ha : a.take? lexer input = some found)
    (hb : b.take? lexer input = some found') :
    found = found' ∨ a = twoChar ∧ b = oneChar ∨ a = oneChar ∧ b = twoChar := by
  by_cases one : a = b
  · rw [one] at ha
    exact Or.inl (Option.some.inj (ha.symm.trans hb))
  obtain ⟨kind, lexeme⟩ := found
  obtain ⟨kind', lexeme'⟩ := found'
  rcases take?_cases ha with ⟨p, rfl, hp, rfl⟩ | ⟨table, s, hs, rfl, rfl⟩
  · left
    rcases take?_cases hb with ⟨q, rfl, hq, rfl⟩ | ⟨-, s, hs, rfl, rfl⟩
    · exact absurd (congrArg pattern (Pattern.eq_of_match? hp hq)) one
    · obtain ⟨rfl, rfl, rfl⟩ := Pattern.match?_symbol hp hs
      rfl
  · rcases take?_cases hb with ⟨q, rfl, hq, rfl⟩ | ⟨table', -⟩
    · obtain ⟨rfl, rfl, rfl⟩ := Pattern.match?_symbol hq hs
      exact Or.inl rfl
    · rcases table with rfl | rfl
      · exact Or.inr (Or.inl ⟨rfl, table'.resolve_left (Ne.symm one)⟩)
      · exact Or.inr (Or.inr ⟨rfl, table'.resolve_right (Ne.symm one)⟩)

/-! ## Orders of the stages -/

/-- the order has every stage, and asks for two characters before it asks for one -/
structure PairsFirst (order : List Stage) : Prop where
  mem : ∀ stage, stage ∈ order
  pairs : order.Pairwise fun a b => ¬ (a = oneChar ∧ b = twoChar)

theorem pairsFirst_all : PairsFirst all :=
  ⟨mem_all, by decide⟩

/-- where single characters are asked for, pairs have been asked for before -/
theorem PairsFirst.twoChar_mem {before after : List Stage} (h : PairsFirst (before ++ oneChar :: after)) :
    twoChar ∈ before := by
  have later : twoChar ∉ oneChar :: after := by
    intro hm
    have behind := (List.pairwise_append.1 h.pairs).2.1
    rcases List.mem_cons.1 hm with he | hm
    · cases he
    · exact (List.pairwise_cons.1 behind).1 twoChar hm ⟨rfl, rfl⟩
  exact (List.mem_append.1 (h.mem twoChar)).resolve_right later

/-- the tables may be asked behind all patterns or before them, and the patterns in any order -/
theorem pairsFirst_of_perm {patterns : List Pattern} (perm : patterns.Perm Pattern.all) :
    PairsFirst (patterns.map pattern ++ [twoChar, oneChar]) ∧
      PairsFirst ([twoChar, oneChar] ++ patterns.map pattern) := by
  have mem : ∀ stage, stage ∈ patterns.map pattern ++ [twoChar, oneChar] := by
    intro stage
    cases stage with
    | pattern p => exact List.mem_append_left _ (List.mem_map_of_mem (perm.mem_iff.2 p.mem_all))
    | _ => exact List.mem_append_right _ (by decide)
  have apart : ∀ a ∈ patterns.map pattern, a ≠ twoChar ∧ a ≠ oneChar := by
    intro a ha
    obtain ⟨p, -, rfl⟩ := List.mem_map.1 ha
    exact ⟨Stage.noConfusion, Stage.noConfusion⟩
  have among : (patterns.map pattern).Pairwise fun a b => ¬ (a = oneChar ∧ b = twoChar) :=
    List.pairwise_of_forall_mem_list fun a ha b _ => fun h => (apart a ha).2 h.1
  have tables : [twoChar, oneChar].Pairwise fun a b => ¬ (a = oneChar ∧ b = twoChar) := by decide
  constructor
  · refine ⟨mem, List.pairwise_append.2 ⟨among, tables, ?_⟩⟩
    exact fun a ha b _ h => (apart a ha).2 h.1
  · refine ⟨fun stage => List.perm_append_comm.mem_iff.1 (mem stage), List.pairwise_append.2 ⟨tables, among, ?_⟩⟩
    exact fun a _ b hb h => (apart b hb).1 h.2

/-- the first answer is the same in all such orders -/
theorem PairsFirst.findSome?_eq {other : List Stage} (h : PairsFirst order) (ho : PairsFirst other) :
    order.findSome? (take? lexer input) = other.findSome? (take? lexer input) := by
  cases hf : other.findSome? (take? lexer input) with
  | none =>
    rw [List.findSome?_eq_none_iff] at hf ⊢
    exact fun stage _ => hf stage (ho.mem stage)
  | some found =>
    cases hg : order.findSome? (take? lexer input) with
    | none =>
      obtain ⟨stage, -, answer⟩ := List.exists_of_findSome?_eq_some hf
      rw [List.findSome?_eq_none_iff.1 hg stage (h.mem stage)] at answer
      cases answer
    | some found' =>
      obtain ⟨before, a, after, rfl, ha, first⟩ := List.findSome?_eq_some_iff.1 hg
      obtain ⟨before', b, after', rfl, hb, first'⟩ := List.findSome?_eq_some_iff.1 hf
      rcases take?_agree ha hb with same | ⟨rfl, rfl⟩ | ⟨rfl, rfl⟩
      · rw [same]
      · -- the table of pairs was asked in the second order too, and had no answer
        rw [first' twoChar ho.twoChar_mem] at ha
        cases ha
      · rw [first twoChar h.twoChar_mem] at hb
        cases hb

end Stage

namespace Lexer

variable {order : List Stage}

/-- kind and width of the token at the start of the input, where the stages are asked in another order -/
def classifyBy (lexer : Lexer) (order : List Stage) (input : List Char) : Option (Kind × Nat) :=
  if input.isEmpty then none
  else
    match order.findSome? (Stage.take? lexer input) with
    | some (kind, lexeme) => some (kind, Text.byteWidth lexeme)
    | none => some (.error, lexer.recovery.width input)

theorem classifyPattern_eq (lexer : Lexer) (order : List Pattern) (input : List Char) :
    lexer.classifyPattern order input =
      ((order.map Stage.pattern).findSome? (Stage.take? lexer input)).map fun found =>
        (found.1, Text.byteWidth found.2) := by
  induction order with
  | nil => rfl
  | cons p order ih =>
    rw [List.map_cons, List.findSome?_cons, classifyPattern, List.findSome?_cons, ← classifyPattern, ih]
    by_cases used : p ∈ lexer.patterns
    · cases taken : p.match? input <;> simp [Stage.take?, used, taken]
    · simp [Stage.take?, used]

theorem classifySymbol_eq (lexer : Lexer) (input : List Char) :
    lexer.classifySymbol input =
      ([Stage.twoChar, .oneChar].findSome? (Stage.take? lexer input)).map fun found =>
        (found.1, Text.byteWidth found.2) := by
  rw [classifySymbol]
  cases two : lexer.twoChar.match? input with
  | some s => simp [Stage.take?, two]
  | none => cases one : lexer.oneChar.match? input <;> simp [Stage.take?, two, one]

/-- what is recognized is the first answer of a stage -/
theorem recognize_eq_findSome? (lexer : Lexer) (input : List Char) :
    lexer.recognize input =
      (Stage.all.findSome? (Stage.take? lexer input)).map fun found => (found.1, Text.byteWidth found.2) := by
  have stages : Stage.all = Pattern.all.map Stage.pattern ++ [.twoChar, .oneChar] := rfl
  rw [recognize, classifyPattern_eq, classifySymbol_eq, stages, List.findSome?_append, Option.map_or]

/-- the stages in the order of the lexer -/
theorem classifyBy_all (lexer : Lexer) (input : List Char) :
    lexer.classifyBy Stage.all input = lexer.classify input := by
  by_cases empty : input = []
  · rw [empty]
    rfl
  · rw [classify_eq_recognize empty, recognize_eq_findSome?, classifyBy, if_neg (by simpa using empty)]
    cases Stage.all.findSome? (Stage.take? lexer input) <;> rfl

/-- **The stages may come in any order** in which two characters are asked for before one. -/
theorem classifyBy_eq_classify (lexer : Lexer) (input : List Char) (h : Stage.PairsFirst order) :
    lexer.classifyBy order input = lexer.classify input := by
  rw [← classifyBy_all, classifyBy, classifyBy, h.findSome?_eq Stage.pairsFirst_all]

end Lexer

/-! ## The line break -/

namespace Stage

/-- the stages but for the pattern of the line break -/
def withoutBreak : List Stage :=
  [pattern .digits, pattern .ident, pattern .singleQuoted, pattern .doubleQuoted, twoChar, oneChar]

theorem mem_withoutBreak {stage : Stage} : stage ∈ withoutBreak ↔ stage ≠ pattern .newline := by
  cases stage with
  | pattern p => cases p <;> decide
  | _ => decide

/-- the break may be asked for last -/
theorem pairsFirst_break_last : PairsFirst (withoutBreak ++ [pattern .newline]) := by
  refine ⟨fun stage => ?_, by decide⟩
  rw [List.mem_append, mem_withoutBreak, List.mem_singleton]
  exact ne_or_eq stage _

/-- the pattern of the line break finds nothing that the table of single characters does not find -/
theorem take?_newline_eq_none (listed : .newline ∈ lexer.oneChar.symbols)
    (unknown : oneChar.take? lexer input = none) : (pattern .newline).take? lexer input = none := by
  cases hf : (pattern .newline).take? lexer input with
  | none => rfl
  | some found =>
    obtain ⟨kind, lexeme⟩ := found
    obtain ⟨-, taken, -⟩ := take?_pattern.1 hf
    obtain ⟨rest, rfl, -⟩ := Pattern.newline?_eq_some_iff.1 taken
    have known : oneChar.take? lexer ('\n' :: rest) = some (.symbol .newline, Symbol.newline.lexeme) :=
      take?_oneChar.2 ⟨.newline, listed, ⟨rest, rfl⟩, rfl, rfl⟩
    rw [unknown] at known
    cases known

/-- where the table of single characters lists the line break, its pattern may be left out -/
theorem findSome?_withoutBreak (listed : .newline ∈ lexer.oneChar.symbols) (input : List Char) :
    all.findSome? (take? lexer input) = withoutBreak.findSome? (take? lexer input) := by
  rw [pairsFirst_all.findSome?_eq pairsFirst_break_last, List.findSome?_append]
  cases hf : withoutBreak.findSome? (take? lexer input) with
  | some found => rfl
  | none =>
    have unknown : oneChar.take? lexer input = none := List.findSome?_eq_none_iff.1 hf oneChar (by decide)
    rw [List.findSome?_singleton, take?_newline_eq_none listed unknown]
    rfl

end Stage

namespace Lexer

/-- where the table of single characters lists the line break, its pattern may be in use or not -/
theorem classify_of_newline_listed (listed : .newline ∈ lexer.oneChar.symbols) (set : PatternSet)
    (same : ∀ p, p ≠ .newline → (p ∈ set ↔ p ∈ lexer.patterns)) (input : List Char) :
    ({ lexer with patterns := set } : Lexer).classify input = lexer.classify input := by
  have stages : ∀ stage ∈ Stage.withoutBreak,
      stage.take? { lexer with patterns := set } input = stage.take? lexer input := by
    intro stage hs
    cases stage with
    | pattern p =>
      have hp : p ≠ .newline := fun he => Stage.mem_withoutBreak.1 hs (congrArg Stage.pattern he)
      simp only [Stage.take?, same p hp]
    | _ => rfl
  have first : Stage.all.findSome? (Stage.take? { lexer with patterns := set } input) =
      Stage.all.findSome? (Stage.take? lexer input) := by
    rw [Stage.findSome?_withoutBreak listed]
    rw [@Stage.findSome?_withoutBreak { lexer with patterns := set } listed]
    rw [← List.head?_filterMap, ← List.head?_filterMap, List.filterMap_congr stages]
  rw [← classifyBy_all, ← classifyBy_all, classifyBy, classifyBy, first]

/-- **The order of the stages matters only between the two tables.** One pattern at most matches an input; and where a
symbol of a table stands there too, both are the line break. So what is classified is the same for every order of the
patterns, be the tables asked behind them or before; and where the table of single characters lists the line break,
every source has the same tokens with the pattern of the line break and without it. -/
theorem stages_commute (lexer : Lexer) :
    (∀ input p q lexeme other, Pattern.match? p input = some lexeme → Pattern.match? q input = some other → p = q) ∧
      (∀ input p lexeme (s : Symbol), Pattern.match? p input = some lexeme →
        s ∈ lexer.twoChar.symbols ∨ s ∈ lexer.oneChar.symbols → s.lexeme <+: input →
          s = .newline ∧ p.kind = .symbol s ∧ Text.byteWidth lexeme = Text.byteWidth s.lexeme) ∧
      (∀ order : List Pattern, order.Perm Pattern.all → ∀ input,
        lexer.classifyBy (order.map .pattern ++ [.twoChar, .oneChar]) input = lexer.classify input ∧
          lexer.classifyBy ([.twoChar, .oneChar] ++ order.map .pattern) input = lexer.classify input) ∧
      (.newline ∈ lexer.oneChar.symbols → ∀ file source,
        ({ lexer with patterns := lexer.patterns.union (.single .newline) } : Lexer).lex file source =
          ({ lexer with patterns := lexer.patterns.without (.single .newline) } : Lexer).lex file source) := by
  refine ⟨fun input p q lexeme other => Pattern.eq_of_match?, ?_, ?_, ?_⟩
  · intro input p lexeme s taken _ written
    obtain ⟨rfl, rfl, rfl⟩ := Pattern.match?_symbol taken written
    exact ⟨rfl, rfl, rfl⟩
  · intro order perm input
    exact ⟨lexer.classifyBy_eq_classify input (Stage.pairsFirst_of_perm perm).1,
      lexer.classifyBy_eq_classify input (Stage.pairsFirst_of_perm perm).2⟩
  · intro listed file source
    have enabled := classify_of_newline_listed listed (lexer.patterns.union (.single .newline))
      fun p hp => by simp [PatternSet.mem_union, PatternSet.mem_single, hp]
    have disabled := classify_of_newline_listed listed (lexer.patterns.without (.single .newline))
      fun p hp => by simp [PatternSet.mem_without, PatternSet.mem_single, hp]
    rw [lex_congr enabled, lex_congr disabled]

/-- a lexer that lists the line break as a symbol and takes all the rest for an error -/
theorem stages_commute_listed_break :
    let lexer : Lexer := ⟨.standardTwo, ⟨[.equal, .newline], by decide, by decide⟩, .full, .remainder⟩
    let source := ['x', '\n', '=', '=', '\n', '+', '\n']
    .newline ∈ lexer.oneChar.symbols ∧
      ({ lexer with patterns := lexer.patterns.union (.single .newline) } : Lexer).lex "b.st" source =
        ({ lexer with patterns := lexer.patterns.without (.single .newline) } : Lexer).lex "b.st" source ∧
      (lexer.lex "b.st" source).kinds =
        [.ident, .symbol .newline, .symbol .equalEqual, .symbol .newline, .error] := by
  intro lexer source
  have listed : .newline ∈ lexer.oneChar.symbols := by decide
  exact ⟨listed, (stages_commute lexer).2.2.2 listed "b.st" source, by decide +kernel⟩

end Lexer

end TokenScanner
