/-
Tables from names.

A list of names makes a table if each is the name of a symbol of the table's width and none occurs twice
(`SymbolTable.Lists`). Any other list has a first name that breaks a rule, and that name decides the error
(`SymbolTable.FirstBreak`): it is no symbol's name, or its symbol has another width, or it occurred before. The rules are
asked in this order, so a name breaks one of them at most (`SymbolTable.Breaks`).

A table notes symbols and not names. That a repeated name is the same as a repeated symbol, or a repeated lexeme, is
`Symbol.name_injective` and `Symbol.lexeme_injective`.

- `SymbolTable.insert?_cases`: a name is taken in, behind the names of the table, or breaks a rule there.
- `SymbolTable.build_cases`: the same for names in a row, behind those of any table.
- `SymbolTable.ofNames?_eq_error_iff`, `SymbolTable.exists_ofNames?_iff`: what becomes of a list of names.
- `Lexer.ofConfig?_eq_error_iff`, `Lexer.exists_ofConfig?_iff`: the same for the two lists of a configuration.
- `Lexer.tables_validated`: all of these together.
-/
import Mathlib.Tactic
import TokenScanner.Lexer

namespace TokenScanner

/-! ## Symbols by their names -/

namespace Symbol

variable {name : String} {s t : Symbol}

theorem name_injective (h : s.name = t.name) : s = t :=
  Kind.symbol.inj (Kind.name_injective h)

theorem ofName?_eq_some_iff : ofName? name = some s ↔ s.name = name := by
  constructor
  · intro h
    obtain ⟨k, found, stands⟩ := Option.bind_eq_some_iff.1 h
    have named : k.name = name := by simpa using List.find?_some found
    cases k with
    | symbol t =>
      obtain rfl : t = s := Option.some.inj stands
      exact named
    | _ => cases stands
  · rintro rfl
    rw [ofName?, show s.name = (Kind.symbol s).name from rfl, Kind.ofName?_name]
    rfl

theorem ofName?_eq_none_iff : ofName? name = none ↔ ∀ s : Symbol, s.name ≠ name := by
  rw [Option.eq_none_iff_forall_ne_some]
  simp only [ne_eq, ofName?_eq_some_iff]

/-- a lexical class has no symbol's name -/
theorem name_ne_of_mem_classes {k : Kind} (hk : k ∈ Kind.classes) (s : Symbol) : s.name ≠ k.name := by
  intro h
  obtain rfl : .symbol s = k := Kind.name_injective h
  simp [Kind.classes] at hk

end Symbol

namespace SymbolTable

/-! ## The rules -/

/-- the names make a table: each is that of a symbol of the width, and none occurs twice -/
structure Lists (width : Nat) (names : List String) : Prop where
  named : ∀ name ∈ names, ∃ s : Symbol, s.name = name ∧ s.width = width
  nodup : names.Nodup

/-- the rule that a name breaks behind other names, as the error about it -/
inductive Breaks (width : Nat) (before : List String) (name : String) : SymbolError → Prop where
  | unknown (nameless : ∀ s : Symbol, s.name ≠ name) : Breaks width before name (.unknown name)
  | width {s : Symbol} (named : s.name = name) (other : s.width ≠ width) :
    Breaks width before name (.width name width s.width)
  | duplicate {s : Symbol} (named : s.name = name) (wide : s.width = width) (again : name ∈ before) :
    Breaks width before name (.duplicate name)

/-- the error is about the first name of the list that breaks a rule -/
def FirstBreak (width : Nat) (names : List String) (e : SymbolError) : Prop :=
  ∃ front name back, names = front ++ name :: back ∧ Lists width front ∧ Breaks width front name e

variable {width : Nat} {table : SymbolTable width} {names before : List String} {name : String} {e : SymbolError}

/-- a table holds the symbols whose names it lists -/
theorem mem_symbols_iff {s : Symbol} : s ∈ table.symbols ↔ s.name ∈ table.names := by
  rw [names, List.mem_map]
  constructor
  · exact fun hs => ⟨s, hs, rfl⟩
  · rintro ⟨t, ht, same⟩
    exact Symbol.name_injective same ▸ ht

/-- a table holds the symbols that are written like one of its entries -/
theorem mem_symbols_iff_lexeme {s : Symbol} : s ∈ table.symbols ↔ ∃ t ∈ table.symbols, t.lexeme = s.lexeme := by
  constructor
  · exact fun hs => ⟨s, hs, rfl⟩
  · rintro ⟨t, ht, same⟩
    exact Symbol.lexeme_injective same ▸ ht

/-- the names of a table make a table -/
theorem lists_names (table : SymbolTable width) : Lists width table.names where
  named := by
    intro name hn
    obtain ⟨s, hs, rfl⟩ := List.mem_map.1 hn
    exact ⟨s, rfl, table.width_eq s hs⟩
  nodup := table.nodup.map fun _ _ => Symbol.name_injective

/-- the entries of a table are written differently -/
theorem nodup_lexemes (table : SymbolTable width) : (table.symbols.map Symbol.lexeme).Nodup :=
  table.nodup.map fun _ _ => Symbol.lexeme_injective

/-- in a list that makes a table no name breaks a rule -/
theorem Lists.not_breaks {front back : List String} (h : Lists width (front ++ name :: back)) :
    ¬ Breaks width front name e := by
  intro broken
  obtain ⟨s, named, wide⟩ := h.named name (List.mem_append_right front List.mem_cons_self)
  cases broken with
  | unknown nameless => exact nameless s named
  | width named' other =>
    obtain rfl := Symbol.name_injective (named.trans named'.symm)
    exact other wide
  | duplicate named' wide' again =>
    exact (List.nodup_append.1 h.nodup).2.2 name again name List.mem_cons_self rfl

theorem Lists.not_firstBreak (h : Lists width names) : ¬ FirstBreak width names e := by
  rintro ⟨front, name, back, rfl, -, broken⟩
  exact h.not_breaks broken

/-! ## One name -/

theorem names_push {s : Symbol} {hw : s.width = width} {hs : ¬ s ∈ table.symbols} :
    (table.push s hw hs).names = table.names ++ [s.name] :=
  List.map_append

/-- **What becomes of a name:** it breaks a rule behind the names of the table, or it is the last name of a table. -/
theorem insert?_cases (table : SymbolTable width) (name : String) :
    (∃ e, Breaks width table.names name e ∧ table.insert? name = .error e) ∨
      ∃ longer, table.insert? name = .ok longer ∧ longer.names = table.names ++ [name] := by
  rw [insert?]
  split
  · rename_i unnamed
    exact Or.inl ⟨_, .unknown (Symbol.ofName?_eq_none_iff.1 unnamed), rfl⟩
  · rename_i s found
    have named := Symbol.ofName?_eq_some_iff.1 found
    split
    · rename_i wide
      split
      · rename_i listed
        exact Or.inl ⟨_, .duplicate named wide (named ▸ mem_symbols_iff.1 listed), rfl⟩
      · exact Or.inr ⟨_, rfl, by rw [names_push, named]⟩
    · rename_i other
      exact Or.inl ⟨_, .width named other, rfl⟩

/-- a name that breaks a rule is refused with the error about it -/
theorem insert?_eq_error (broken : Breaks width table.names name e) : table.insert? name = .error e := by
  cases broken with
  | unknown nameless => rw [insert?, Symbol.ofName?_eq_none_iff.2 nameless]
  | width named other => simp only [insert?, Symbol.ofName?_eq_some_iff.2 named, dif_neg other]
  | duplicate named wide again =>
    have listed := mem_symbols_iff.2 (named.symm ▸ again)
    simp only [insert?, Symbol.ofName?_eq_some_iff.2 named, dif_pos wide, dif_pos listed]

/-- a name of the right width is a duplicate if an entry is written like its symbol -/
theorem insert?_eq_duplicate_iff {s : Symbol} (named : s.name = name) (wide : s.width = width) :
    table.insert? name = .error (.duplicate name) ↔ ∃ t ∈ table.symbols, t.lexeme = s.lexeme := by
  rw [← mem_symbols_iff_lexeme]
  simp only [insert?, Symbol.ofName?_eq_some_iff.2 named, dif_pos wide]
  by_cases listed : s ∈ table.symbols
  · simp [listed]
  · simp [listed]

/-! ## Names in a row -/

/-- **What becomes of names behind those of a table:** they are all taken in, or one of them is the first to break a
rule. -/
theorem build_cases (table : SymbolTable width) (names : List String) :
    (∃ e front name back, names = front ++ name :: back ∧ Lists width (table.names ++ front) ∧
        Breaks width (table.names ++ front) name e ∧ names.foldlM insert? table = .error e) ∨
      ∃ longer, names.foldlM insert? table = .ok longer ∧ longer.names = table.names ++ names := by
  induction names generalizing table with
  | nil => exact Or.inr ⟨table, rfl, (List.append_nil _).symm⟩
  | cons name rest ih =>
    rw [List.foldlM_cons]
    rcases table.insert?_cases name with ⟨e, broken, refused⟩ | ⟨longer, taken, known⟩
    · rw [refused]
      refine Or.inl ⟨e, [], name, rest, rfl, ?_, ?_, rfl⟩
      · rw [List.append_nil]
        exact table.lists_names
      · rwa [List.append_nil]
    · rw [taken]
      -- the table that grew by the name stands before the rest as the table did before the whole list
      have moved : ∀ names, longer.names ++ names = table.names ++ name :: names := by
        intro names
        rw [known, List.append_assoc, List.singleton_append]
      rcases ih longer with ⟨e, front, other, back, rfl, lists, broken, refused⟩ | ⟨whole, built, all⟩
      · rw [moved] at lists broken
        exact Or.inl ⟨e, name :: front, other, back, rfl, lists, broken, refused⟩
      · rw [moved] at all
        exact Or.inr ⟨whole, built, all⟩

theorem ofNames?_cases (names : List String) :
    (∃ e, FirstBreak width names e ∧ (ofNames? names : Except SymbolError (SymbolTable width)) = .error e) ∨
      ∃ table : SymbolTable width, ofNames? names = .ok table ∧ table.names = names := by
  rcases (empty : SymbolTable width).build_cases names with ⟨e, front, name, back, split, lists, broken, refused⟩ | built
  · exact Or.inl ⟨e, ⟨front, name, back, split, lists, broken⟩, refused⟩
  · exact Or.inr built

/-- a table that was built lists the names it was built from -/
theorem names_of_ofNames? (h : ofNames? names = .ok table) : table.names = names := by
  rcases @ofNames?_cases width names with ⟨e, -, refused⟩ | ⟨other, built, listed⟩
  · rw [refused] at h
    cases h
  · rw [built] at h
    cases h
    exact listed

/-- names make a table exactly if they keep the rules -/
theorem exists_ofNames?_iff : (∃ table : SymbolTable width, ofNames? names = .ok table) ↔ Lists width names := by
  constructor
  · rintro ⟨table, built⟩
    exact names_of_ofNames? built ▸ table.lists_names
  · intro lists
    rcases @ofNames?_cases width names with ⟨e, first, -⟩ | ⟨table, built, -⟩
    · exact absurd first lists.not_firstBreak
    · exact ⟨table, built⟩

/-- names are refused exactly for the first that breaks a rule -/
theorem ofNames?_eq_error_iff :
    (ofNames? names : Except SymbolError (SymbolTable width)) = .error e ↔ FirstBreak width names e := by
  constructor
  · intro h
    rcases @ofNames?_cases width names with ⟨other, first, refused⟩ | ⟨table, built, -⟩
    · rw [refused] at h
      cases h
      exact first
    · rw [built] at h
      cases h
  · rintro ⟨front, name, back, rfl, lists, broken⟩
    obtain ⟨table, built⟩ := exists_ofNames?_iff.2 lists
    -- the names in front make a table, and the one that breaks a rule is refused behind it
    rw [← names_of_ofNames? built] at broken
    rw [ofNames?] at built ⊢
    rw [List.foldlM_append, built]
    change (name :: back).foldlM insert? table = .error e
    rw [List.foldlM_cons, insert?_eq_error broken]
    rfl

end SymbolTable

namespace Lexer

open SymbolTable

/-! ## Two lists -/

variable {config : Config} {lexer : Lexer} {e : SymbolError}

section

variable {α β : Type} {x : Except SymbolError α} {f : α → Except SymbolError β}

theorem bind_eq_ok_iff {b : β} : x >>= f = .ok b ↔ ∃ a, x = .ok a ∧ f a = .ok b := by
  cases x with
  | error e => simp [bind, Except.bind]
  | ok a => simp [bind, Except.bind]

theorem bind_eq_error_iff : x >>= f = .error e ↔ x = .error e ∨ ∃ a, x = .ok a ∧ f a = .error e := by
  cases x with
  | error e => simp [bind, Except.bind]
  | ok a => simp [bind, Except.bind]

end

/-- a configuration gives a lexer of the tables of its two lists -/
theorem ofConfig?_eq_ok_iff :
    ofConfig? config = .ok lexer ↔
      ofNames? config.twoChar = .ok lexer.twoChar ∧ ofNames? config.oneChar = .ok lexer.oneChar ∧
        config.patterns = lexer.patterns ∧ config.recovery = lexer.recovery := by
  simp only [ofConfig?, bind_eq_ok_iff]
  constructor
  · rintro ⟨two, built, one, built', made⟩
    cases made
    exact ⟨built, built', rfl, rfl⟩
  · obtain ⟨two, one, patterns, recovery⟩ := lexer
    rintro ⟨built, built', rfl, rfl⟩
    exact ⟨two, built, one, built', rfl⟩

/-- a configuration is refused for its first list, and for its second where the first makes a table -/
theorem ofConfig?_eq_error_iff :
    ofConfig? config = .error e ↔
      (ofNames? config.twoChar : Except SymbolError (SymbolTable 2)) = .error e ∨
        (∃ two : SymbolTable 2, ofNames? config.twoChar = .ok two) ∧
          (ofNames? config.oneChar : Except SymbolError (SymbolTable 1)) = .error e := by
  simp only [ofConfig?, bind_eq_error_iff]
  refine or_congr_right ⟨?_, ?_⟩
  · rintro ⟨two, built, refused | ⟨one, -, impossible⟩⟩
    · exact ⟨⟨two, built⟩, refused⟩
    · cases impossible
  · rintro ⟨⟨two, built⟩, refused⟩
    exact ⟨two, built, Or.inl refused⟩

/-- a configuration gives a lexer exactly if both of its lists make tables -/
theorem exists_ofConfig?_iff :
    (∃ lexer, ofConfig? config = .ok lexer) ↔ Lists 2 config.twoChar ∧ Lists 1 config.oneChar := by
  rw [← exists_ofNames?_iff, ← exists_ofNames?_iff]
  constructor
  · rintro ⟨lexer, made⟩
    obtain ⟨two, one, -, -⟩ := ofConfig?_eq_ok_iff.1 made
    exact ⟨⟨lexer.twoChar, two⟩, lexer.oneChar, one⟩
  · rintro ⟨⟨twoChar, two⟩, oneChar, one⟩
    exact ⟨⟨twoChar, oneChar, config.patterns, config.recovery⟩, ofConfig?_eq_ok_iff.2 ⟨two, one, rfl, rfl⟩⟩

/-- **Tables are checked exactly, and keep the order of the names.** Names make a table just if each is that of a symbol
of the table's width and none occurs twice; the table then lists these names in this order, and its entries are written
differently, all in that width. Else the error is that of the first name that breaks a rule, and names of lexical classes
are no symbols'. A name is a duplicate if an entry is written like its symbol, which comes to the name itself. A
configuration gives a lexer unless one of its lists is refused, and of two refusals it reports that of the pairs; the
tables of its lexer list the names that it has. -/
theorem tables_validated :
    (∀ width names,
      ((∃ table : SymbolTable width, ofNames? names = .ok table) ↔ Lists width names) ∧
        (∀ table : SymbolTable width, ofNames? names = .ok table →
          table.names = names ∧ (table.symbols.map Symbol.lexeme).Nodup ∧
            ∀ s ∈ table.symbols, s.lexeme.length = width) ∧
        ∀ e, (ofNames? names : Except SymbolError (SymbolTable width)) = .error e ↔ FirstBreak width names e) ∧
      (∀ k ∈ Kind.classes, ∀ s : Symbol, s.name ≠ k.name) ∧
      (∀ width (table : SymbolTable width) (s : Symbol), s.width = width →
        (table.insert? s.name = .error (.duplicate s.name) ↔ ∃ t ∈ table.symbols, t.lexeme = s.lexeme)) ∧
      ∀ config,
        (∀ e, ofConfig? config = .error e ↔
          (ofNames? config.twoChar : Except SymbolError (SymbolTable 2)) = .error e ∨
            (∃ two : SymbolTable 2, ofNames? config.twoChar = .ok two) ∧
              (ofNames? config.oneChar : Except SymbolError (SymbolTable 1)) = .error e) ∧
          ∀ lexer, ofConfig? config = .ok lexer →
            lexer.twoChar.names = config.twoChar ∧ lexer.oneChar.names = config.oneChar := by
  refine ⟨fun width names => ⟨exists_ofNames?_iff, ?_, fun e => ofNames?_eq_error_iff⟩, ?_, ?_, fun config =>
    ⟨fun e => ofConfig?_eq_error_iff, ?_⟩⟩
  · intro table built
    exact ⟨names_of_ofNames? built, table.nodup_lexemes, table.width_eq⟩
  · exact fun k hk s => Symbol.name_ne_of_mem_classes hk s
  · exact fun width table s wide => insert?_eq_duplicate_iff rfl wide
  · intro lexer made
    obtain ⟨two, one, -, -⟩ := ofConfig?_eq_ok_iff.1 made
    exact ⟨names_of_ofNames? two, names_of_ofNames? one⟩

/-- two refused lists, and two lists that make tables, one of which names the line break -/
theorem tables_validated_named_twice :
    let refused : Config := ⟨["EQEQ", "LTEQ", "EQEQ", "EQ"], ["DOT", "IDENT"], .full, .singleChar⟩
    let accepted : Config := ⟨["GTEQ"], ["NEWLINE", "GT"], .full, .remainder⟩
    let lexer : Lexer :=
      ⟨⟨[.greaterEqual], by decide, by decide⟩, ⟨[.newline, .greater], by decide, by decide⟩, .full, .remainder⟩
    FirstBreak 2 refused.twoChar (.duplicate "EQEQ") ∧ FirstBreak 1 refused.oneChar (.unknown "IDENT") ∧
      ofConfig? refused = .error (.duplicate "EQEQ") ∧
      ofConfig? accepted = .ok lexer ∧ lexer.twoChar.names = ["GTEQ"] ∧ lexer.oneChar.names = ["NEWLINE", "GT"] := by
  intro refused accepted lexer
  obtain ⟨lists, -, -, configs⟩ := tables_validated
  have twice : FirstBreak 2 refused.twoChar (.duplicate "EQEQ") := ((lists 2 refused.twoChar).2.2 _).1 rfl
  have nameless : FirstBreak 1 refused.oneChar (.unknown "IDENT") := ((lists 1 refused.oneChar).2.2 _).1 rfl
  have first : ofConfig? refused = .error (.duplicate "EQEQ") := ((configs refused).1 _).2 (Or.inl rfl)
  have made : ofConfig? accepted = .ok lexer := rfl
  exact ⟨twice, nameless, first, made, (configs accepted).2 lexer made⟩

end Lexer

end TokenScanner
