/-
Groups and single characters.

A lexer puts characters together in two ways: a pattern other than the line break takes them, or they are a
two-character symbol. Both are groups (`Lexer.Groups`). A character that no group starts with stands alone, and then the
lexer has only a name for it, its label: the symbol that the character is, where the lexer knows it, or else an error
(`Lexer.label`). `Lexer.Picks` says with these what a lexer takes off an input; it has no order of rules in it, since
patterns and symbols differ in their first characters.

- `Pattern.ofFirst?_of_match?`, `Symbol.ofFirst?_lexeme`: a pattern is known by the first character of its lexemes, and
  only the line break is the first character of a pattern and of a symbol.
- `SymbolTable.match?_eq_some_iff`: an input starts with one entry of a table at most.
- `Lexer.recognize_of_groups`, `Lexer.recognize_of_label`, `Lexer.recognize_eq_none`: a group is what is recognized, and
  without a group the label decides.
- `Lexer.picks_of_classify`, `Lexer.Picks.classify_eq`: a lexer takes a lexeme off an input exactly if it picks it.
-/
import TokenScanner.Proofs.Chunk

namespace TokenScanner

/-! ## First characters -/

/-- the pattern whose lexemes start with that character -/
def Pattern.ofFirst? (c : Char) : Option Pattern :=
  if isDigit c then some digits
  else if isNameStart c then some ident
  else if c = '\n' then some newline
  else if c = '\'' then some singleQuoted
  else if c = '"' then some doubleQuoted
  else none

theorem isDigit_eq_false_of_isNameStart {c : Char} (h : isNameStart c = true) : isDigit c = false := by
  have zero : '0'.val.toNat = 48 ∧ '9'.val.toNat = 57 := by decide
  have upper : 'A'.val.toNat = 65 ∧ 'Z'.val.toNat = 90 := by decide
  have lower : 'a'.val.toNat = 97 ∧ 'z'.val.toNat = 122 := by decide
  simp only [isNameStart, Bool.or_eq_true, Bool.and_eq_true, decide_eq_true_eq, beq_iff_eq, Char.le_def,
    UInt32.le_iff_toNat_le] at h
  rw [Bool.eq_false_iff]
  simp only [isDigit, Bool.and_eq_true, decide_eq_true_eq, Char.le_def, UInt32.le_iff_toNat_le, ne_eq, not_and]
  intro hc
  rcases h with (h | h) | rfl
  · omega
  · omega
  · decide

namespace Pattern

variable {p : Pattern} {c : Char} {rest lexeme : List Char}

/-- the kind of its tokens tells a pattern -/
theorem kind_injective {q : Pattern} (h : p.kind = q.kind) : p = q := by
  cases p <;> cases q <;> first | rfl | cases h

theorem isDigit_of_digits? (h : digits? (c :: rest) = some lexeme) : isDigit c = true := by
  obtain ⟨rfl, hne⟩ := digits?_eq_some_iff.1 h
  by_contra hc
  exact hne (List.takeWhile_cons_of_neg hc)

theorem ofFirst?_of_match? (h : p.match? (c :: rest) = some lexeme) : ofFirst? c = some p := by
  cases p with
  | digits =>
    have hc := isDigit_of_digits? h
    simp [ofFirst?, hc]
  | ident =>
    change ident? (c :: rest) = some lexeme at h
    obtain ⟨d, rest', he, hd, -⟩ := ident?_eq_some_iff.1 h
    cases he
    simp [ofFirst?, isDigit_eq_false_of_isNameStart hd, hd]
  | newline =>
    obtain ⟨rest', he, -⟩ := newline?_eq_some_iff.1 h
    cases he
    decide
  | singleQuoted =>
    rcases singleQuoted?_eq_some_iff.1 h with ⟨rest', he, -⟩ | ⟨d, rest', -, -, he, -⟩
    · cases he
      decide
    · cases he
      decide
  | doubleQuoted =>
    obtain ⟨body, rest', -, he, -⟩ := doubleQuoted?_eq_some_iff.1 h
    cases he
    decide

end Pattern

/-- the only symbol that starts like the lexemes of a pattern is the line break -/
theorem Symbol.ofFirst?_lexeme {s : Symbol} {c : Char} {tail : List Char} (h : s.lexeme = c :: tail) :
    Pattern.ofFirst? c = if s = .newline then some .newline else none := by
  cases s <;> cases h <;> decide

/-! ## Symbols of one character -/

/-- the symbol that is written with that character alone -/
def Symbol.ofChar? (c : Char) : Option Symbol :=
  all.find? fun s => s.lexeme = [c]

theorem Symbol.ofChar?_eq_some_iff {c : Char} {s : Symbol} : ofChar? c = some s ↔ s.lexeme = [c] := by
  constructor
  · intro h
    simpa using List.find?_some h
  · intro h
    cases hf : ofChar? c with
    | none =>
      have := List.find?_eq_none.1 hf s s.mem_all
      simp [h] at this
    | some t =>
      have ht : t.lexeme = [c] := by simpa using List.find?_some hf
      rw [lexeme_injective (ht.trans h.symm)]

namespace SymbolTable

variable {width : Nat} {table : SymbolTable width} {input : List Char} {s : Symbol}

/-- whatever the order of the entries, the one that the input starts with is found -/
theorem match?_eq_some_iff : table.match? input = some s ↔ s ∈ table.symbols ∧ s.lexeme <+: input := by
  constructor
  · exact match?_prefix
  · rintro ⟨listed, written⟩
    cases hm : table.match? input with
    | none =>
      have := List.find?_eq_none.1 hm s listed
      exact absurd (List.isPrefixOf_iff_prefix.2 written) this
    | some t =>
      obtain ⟨listed', written'⟩ := match?_prefix hm
      have hlen : t.lexeme.length = s.lexeme.length := (table.width_eq t listed').trans (table.width_eq s listed).symm
      have same : t.lexeme = s.lexeme :=
        (List.prefix_of_prefix_length_le written' written hlen.le).eq_of_length hlen
      rw [Symbol.lexeme_injective same]

theorem match?_eq_none_iff : table.match? input = none ↔ ∀ s ∈ table.symbols, ¬ s.lexeme <+: input := by
  rw [Option.eq_none_iff_forall_ne_some]
  simp only [ne_eq, match?_eq_some_iff, not_and]

end SymbolTable

namespace Lexer

/-! ## Groups -/

/-- characters that the lexer puts together at the start of an input, as a pattern or as a two-character symbol -/
inductive Groups (lexer : Lexer) (input : List Char) : Kind → List Char → Prop where
  | pattern {p : Pattern} {lexeme : List Char} (used : p ∈ lexer.patterns) (longer : p ≠ .newline)
    (taken : p.match? input = some lexeme) : Groups lexer input p.kind lexeme
  | symbol {s : Symbol} (listed : s ∈ lexer.twoChar.symbols) (written : s.lexeme <+: input) :
    Groups lexer input (.symbol s) s.lexeme

/-- no group starts the input -/
def Ungrouped (lexer : Lexer) (input : List Char) : Prop :=
  ∀ kind lexeme, ¬ lexer.Groups input kind lexeme

/-- all that the lexer has for a character that stands alone: its symbol if the lexer knows it, or else an error -/
def label (lexer : Lexer) (c : Char) : Kind :=
  match Symbol.ofChar? c with
  | some s => if s ∈ lexer.oneChar.symbols ∨ s = .newline ∧ .newline ∈ lexer.patterns then .symbol s else .error
  | none => .error

variable {lexer : Lexer} {input lexeme rest : List Char} {kind : Kind} {c : Char}

namespace Groups

theorem lexeme_prefix (h : lexer.Groups input kind lexeme) : lexeme <+: input := by
  cases h with
  | pattern used longer taken => exact Pattern.match?_prefix taken
  | symbol listed written => exact written

theorem lexeme_ne_nil (h : lexer.Groups input kind lexeme) : lexeme ≠ [] := by
  cases h with
  | pattern used longer taken => exact Pattern.match?_ne_nil taken
  | symbol listed written => exact SymbolTable.lexeme_ne_nil (by decide) listed

theorem input_ne_nil (h : lexer.Groups input kind lexeme) : input ≠ [] := by
  rintro rfl
  exact h.lexeme_ne_nil (List.prefix_nil.1 h.lexeme_prefix)

end Groups

theorem classifyPattern_eq_some {order : List Pattern} {found : Kind × Nat}
    (h : lexer.classifyPattern order input = some found) :
    ∃ p ∈ lexer.patterns, ∃ lexeme, p.match? input = some lexeme ∧ found = (p.kind, Text.byteWidth lexeme) := by
  obtain ⟨p, -, hp⟩ := List.exists_of_findSome?_eq_some h
  split at hp
  · rename_i used
    obtain ⟨lexeme, taken, rfl⟩ := Option.map_eq_some_iff.1 hp
    exact ⟨p, used, lexeme, taken, rfl⟩
  · cases hp

/-- the pattern that matches is found, wherever it stands in the order -/
theorem classifyPattern_of_match? {p : Pattern} {order : List Pattern} (listed : p ∈ order) (used : p ∈ lexer.patterns)
    (taken : p.match? (c :: rest) = some lexeme) :
    lexer.classifyPattern order (c :: rest) = some (p.kind, Text.byteWidth lexeme) := by
  cases hf : lexer.classifyPattern order (c :: rest) with
  | none =>
    have := List.findSome?_eq_none_iff.1 hf p listed
    simp [used, taken] at this
  | some found =>
    obtain ⟨q, -, lexeme', taken', rfl⟩ := classifyPattern_eq_some hf
    have same : q = p :=
      Option.some.inj ((Pattern.ofFirst?_of_match? taken').symm.trans (Pattern.ofFirst?_of_match? taken))
    rw [same] at taken' ⊢
    rw [Option.some.inj (taken'.symm.trans taken)]

/-- before a symbol other than the line break the patterns find nothing -/
theorem classifyPattern_of_symbol {s : Symbol} {order : List Pattern} {tail : List Char} (hs : s ≠ .newline)
    (first : s.lexeme = c :: tail) : lexer.classifyPattern order (c :: rest) = none := by
  cases hf : lexer.classifyPattern order (c :: rest) with
  | none => rfl
  | some found =>
    obtain ⟨p, -, lexeme, taken, -⟩ := classifyPattern_eq_some hf
    have hp := Pattern.ofFirst?_of_match? taken
    rw [Symbol.ofFirst?_lexeme first, if_neg hs] at hp
    cases hp

theorem recognize_of_groups (h : lexer.Groups input kind lexeme) :
    lexer.recognize input = some (kind, Text.byteWidth lexeme) := by
  obtain ⟨c, rest, rfl⟩ := List.exists_cons_of_ne_nil h.input_ne_nil
  cases h with
  | @pattern p _ used longer taken =>
    rw [recognize, classifyPattern_of_match? p.mem_all used taken, Option.some_or]
  | @symbol s listed written =>
    have wide : s.lexeme.length = 2 := lexer.twoChar.width_eq s listed
    obtain ⟨d, tail, first⟩ := List.exists_cons_of_ne_nil (SymbolTable.lexeme_ne_nil (by decide) listed)
    have hs : s ≠ .newline := by
      rintro rfl
      cases wide
    have hd : d = c := by
      rw [first] at written
      exact (List.cons_prefix_cons.1 written).1
    have hm : lexer.twoChar.match? (c :: rest) = some s := SymbolTable.match?_eq_some_iff.2 ⟨listed, written⟩
    rw [recognize, classifyPattern_of_symbol hs (hd ▸ first), Option.none_or, classifySymbol, hm, Option.some_or,
      Option.map_some]

/-! ## Labels -/

theorem label_eq_symbol_iff {s : Symbol} :
    lexer.label c = .symbol s ↔
      s.lexeme = [c] ∧ (s ∈ lexer.oneChar.symbols ∨ s = .newline ∧ .newline ∈ lexer.patterns) := by
  rw [← Symbol.ofChar?_eq_some_iff, label]
  cases Symbol.ofChar? c with
  | none => simp
  | some t =>
    simp only [Option.some.injEq]
    constructor
    · intro h
      split at h
      · rename_i known
        cases h
        exact ⟨rfl, known⟩
      · cases h
    · rintro ⟨rfl, known⟩
      rw [if_pos known]

theorem label_eq_error_or_symbol (lexer : Lexer) (c : Char) :
    lexer.label c = .error ∨ ∃ s, lexer.label c = .symbol s := by
  rw [label]
  split
  · rename_i s _
    split
    · exact Or.inr ⟨s, rfl⟩
    · exact Or.inl rfl
  · exact Or.inl rfl

/-- a pattern that takes no group takes a line break -/
theorem Ungrouped.eq_newline (h : lexer.Ungrouped (c :: rest)) {p : Pattern} (used : p ∈ lexer.patterns)
    (taken : p.match? (c :: rest) = some lexeme) : p = .newline ∧ c = '\n' ∧ lexeme = [c] := by
  have hp : p = .newline := by
    by_contra longer
    exact h p.kind lexeme (.pattern used longer taken)
  subst hp
  obtain ⟨rest', he, hl⟩ := Pattern.newline?_eq_some_iff.1 taken
  cases he
  exact ⟨rfl, rfl, hl⟩

theorem recognize_of_label {s : Symbol} (h : lexer.Ungrouped (c :: rest)) (hl : lexer.label c = .symbol s) :
    lexer.recognize (c :: rest) = some (.symbol s, Text.byteWidth [c]) := by
  obtain ⟨hs, known⟩ := label_eq_symbol_iff.1 hl
  cases hf : lexer.classifyPattern Pattern.all (c :: rest) with
  | some found =>
    obtain ⟨p, used, lexeme, taken, rfl⟩ := classifyPattern_eq_some hf
    obtain ⟨rfl, rfl, rfl⟩ := h.eq_newline used taken
    have same : s = .newline := Symbol.lexeme_injective hs
    rw [recognize, hf, Option.some_or, same, Pattern.kind]
  | none =>
    have listed : s ∈ lexer.oneChar.symbols := by
      rcases known with known | ⟨rfl, used⟩
      · exact known
      · have := List.findSome?_eq_none_iff.1 hf .newline (Pattern.mem_all _)
        cases hs
        simp [used, Pattern.match?, Pattern.newline?] at this
    have two : lexer.twoChar.match? (c :: rest) = none :=
      SymbolTable.match?_eq_none_iff.2 fun t ht written => h _ _ (.symbol ht written)
    have one : lexer.oneChar.match? (c :: rest) = some s := by
      refine SymbolTable.match?_eq_some_iff.2 ⟨listed, ?_⟩
      rw [hs]
      exact ⟨rest, rfl⟩
    rw [recognize, hf, Option.none_or, classifySymbol, two, Option.none_or, one, Option.map_some, hs]

theorem recognize_eq_none (h : lexer.Ungrouped (c :: rest)) (hl : lexer.label c = .error) :
    lexer.recognize (c :: rest) = none := by
  have unknown : ∀ s : Symbol, s.lexeme = [c] →
      ¬ (s ∈ lexer.oneChar.symbols ∨ s = .newline ∧ .newline ∈ lexer.patterns) := by
    intro s hs known
    rw [label_eq_symbol_iff.2 ⟨hs, known⟩] at hl
    cases hl
  cases hr : lexer.recognize (c :: rest) with
  | none => rfl
  | some found =>
    obtain ⟨kind, width⟩ := found
    obtain ⟨lexeme, -, hl⟩ := recognize_cases hr
    exfalso
    cases hl with
    | pattern used taken =>
      obtain ⟨rfl, rfl, -⟩ := h.eq_newline used taken
      exact unknown .newline rfl (Or.inr ⟨rfl, used⟩)
    | @symbol s listed written =>
      rcases listed with listed | listed
      · exact h _ _ (.symbol listed written)
      · obtain ⟨d, hd⟩ := List.length_eq_one_iff.1 (lexer.oneChar.width_eq s listed)
        rw [hd] at written
        obtain ⟨rfl, -⟩ := List.cons_prefix_cons.1 written
        exact unknown s hd (Or.inl listed)

/-! ## What a lexer picks -/

/-- the kind and the lexeme that a lexer takes off an input, and what it leaves -/
inductive Picks (lexer : Lexer) : Kind → List Char → List Char → Prop where
  /-- a group -/
  | group {kind : Kind} {lexeme rest : List Char} (grouped : lexer.Groups (lexeme ++ rest) kind lexeme) :
    Picks lexer kind lexeme rest
  /-- a character that stands alone, if the lexer knows it or goes on behind errors -/
  | single {c : Char} {rest : List Char} (alone : lexer.Ungrouped (c :: rest))
    (kept : lexer.label c ≠ .error ∨ lexer.recovery = .singleChar) : Picks lexer (lexer.label c) [c] rest
  /-- all the input, from a character that the lexer does not know -/
  | swallow {c : Char} {tail : List Char} (alone : lexer.Ungrouped (c :: tail)) (unknown : lexer.label c = .error)
    (last : lexer.recovery = .remainder) : Picks lexer .error (c :: tail) []

/-- without a group the label and the recovery decide what is picked -/
theorem Ungrouped.picks {tail : List Char} (alone : lexer.Ungrouped (c :: (tail ++ rest)))
    (h : lexer.classify (c :: (tail ++ rest)) = some (kind, Text.byteWidth (c :: tail))) :
    lexer.Picks kind (c :: tail) rest := by
  have first : [c] ++ (tail ++ rest) = c :: tail ++ rest := rfl
  rw [classify_eq_recognize (List.cons_ne_nil c _), Option.some.injEq] at h
  rcases label_eq_error_or_symbol lexer c with hl | ⟨s, hl⟩
  · rw [recognize_eq_none alone hl, Option.getD_none, Prod.mk.injEq] at h
    obtain ⟨rfl, hw⟩ := h
    cases hrec : lexer.recovery with
    | singleChar =>
      rw [hrec] at hw
      obtain rfl : [] = tail := (List.cons.inj (Text.eq_of_byteWidth_eq first hw)).2
      have := Picks.single alone (Or.inr hrec)
      rwa [hl] at this
    | remainder =>
      rw [hrec] at hw
      have whole := Text.eq_of_byteWidth_eq (List.append_nil (c :: tail ++ rest)) hw
      obtain rfl : rest = [] := List.append_right_eq_self.1 whole
      rw [List.append_nil] at alone
      exact .swallow alone hl hrec
  · rw [recognize_of_label alone hl, Option.getD_some, Prod.mk.injEq] at h
    obtain ⟨rfl, hw⟩ := h
    obtain rfl : [] = tail := (List.cons.inj (Text.eq_of_byteWidth_eq first hw)).2
    have := Picks.single alone (Or.inl (by rw [hl]; exact Kind.noConfusion))
    rwa [hl] at this

/-- a group is what is classified -/
theorem Groups.eq_of_classify {other : Kind} {group : List Char} (hg : lexer.Groups (lexeme ++ rest) other group)
    (h : lexer.classify (lexeme ++ rest) = some (kind, Text.byteWidth lexeme)) : other = kind ∧ group = lexeme := by
  rw [classify_eq_recognize hg.input_ne_nil, recognize_of_groups hg, Option.getD_some, Option.some.injEq,
    Prod.mk.injEq] at h
  obtain ⟨same, hw⟩ := h
  obtain ⟨behind, hb⟩ := hg.lexeme_prefix
  exact ⟨same, Text.eq_of_byteWidth_eq hb hw⟩

/-- what is classified before a known rest of the input is picked -/
theorem picks_of_classify (hne : lexeme ≠ [])
    (h : lexer.classify (lexeme ++ rest) = some (kind, Text.byteWidth lexeme)) : lexer.Picks kind lexeme rest := by
  by_cases hg : ∃ k l, lexer.Groups (lexeme ++ rest) k l
  · obtain ⟨k, l, hg⟩ := hg
    obtain ⟨rfl, rfl⟩ := hg.eq_of_classify h
    exact .group hg
  · obtain ⟨c, tail, rfl⟩ := List.exists_cons_of_ne_nil hne
    have alone : lexer.Ungrouped (c :: tail ++ rest) := fun k l hl => hg ⟨k, l, hl⟩
    rw [List.cons_append] at h alone
    exact alone.picks h

/-- what is picked is classified before the rest of the input -/
theorem Picks.classify_eq (h : lexer.Picks kind lexeme rest) :
    lexer.classify (lexeme ++ rest) = some (kind, Text.byteWidth lexeme) := by
  cases h with
  | group grouped =>
    rw [classify_eq_recognize grouped.input_ne_nil, recognize_of_groups grouped, Option.getD_some]
  | @single c _ alone kept =>
    rw [List.singleton_append, classify_eq_recognize (List.cons_ne_nil c rest)]
    rcases label_eq_error_or_symbol lexer c with hl | ⟨s, hl⟩
    · have hrec : lexer.recovery = .singleChar := kept.resolve_left (not_not.2 hl)
      rw [recognize_eq_none alone hl, Option.getD_none, hl, hrec]
      rfl
    · rw [recognize_of_label alone hl, Option.getD_some, hl]
  | swallow alone unknown last =>
    rw [List.append_nil, classify_eq_recognize (List.cons_ne_nil _ _), recognize_eq_none alone unknown,
      Option.getD_none, last]
    rfl

theorem Takes.picks {chunk : Chunk} (h : lexer.Takes chunk rest) : lexer.Picks chunk.kind chunk.lexeme rest :=
  picks_of_classify h.ne_nil h.classify_eq

/-- a lexeme of a kind that a pattern makes was matched by that pattern -/
theorem Takes.match?_of_kind {chunk : Chunk} {p : Pattern} (h : lexer.Takes chunk rest) (hk : chunk.kind = p.kind)
    (longer : p ≠ .newline) : p.match? (chunk.lexeme ++ rest) = some chunk.lexeme := by
  obtain ⟨gap, kind, lexeme⟩ := chunk
  subst hk
  have picked : lexer.Picks p.kind lexeme rest := h.picks
  have symbolic : ∀ s : Symbol, p.kind ≠ .symbol s := by cases p <;> simp [Pattern.kind] at longer ⊢
  generalize made : p.kind = kind at picked
  cases picked with
  | group grouped =>
    cases grouped with
    | pattern used longer taken =>
      rw [Pattern.kind_injective made]
      exact taken
    | symbol listed written => exact absurd made (symbolic _)
  | @single c _ alone kept =>
    rcases label_eq_error_or_symbol lexer c with hl | ⟨s, hl⟩
    · exact absurd (made.trans hl) p.kind_ne_error
    · exact absurd (made.trans hl) (symbolic s)
  | swallow alone unknown last => exact absurd made p.kind_ne_error

/-- what a lexer takes in one place is taken wherever it is picked, under the kind that it has there -/
theorem Takes.of_picks {other : Lexer} {chunk : Chunk} {behind : List Char} (h : lexer.Takes chunk rest)
    (picked : other.Picks kind chunk.lexeme behind) : other.Takes { chunk with kind := kind } behind where
  blank := h.blank
  solid := h.solid
  classify_eq := picked.classify_eq

end Lexer

end TokenScanner
