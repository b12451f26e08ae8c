/-
The listing of tokens.

As text, tokens are printed one below the other, each as the record that shows it. Nothing in a record is escaped, so a
lexeme may read like further fields, and the lexeme of a line break is left out. Still a record is known from its text:
before the lexeme stand the file, which is given, and numbers, which end where their digits end; behind it stands the
name of a kind, which has no blank in it, so the last blank of the text is the one before that name. And where the line
break is known to the lexer, a text is on one line, so the lines of the listing are the texts of the tokens.

- `Token.toList_text`: the text of a token, field by field.
- `Token.Lined.text_injective`: tokens of one file that are shown alike are the same.
- `splitOn_listing`: the lines of a listing.
- `listing_faithful`: a listing has a line for each token, and the stream is known from it.
-/
import TokenScanner.Command.Run
import TokenScanner.Proofs.Breaks
import TokenScanner.Proofs.Course
import TokenScanner.Proofs.Decimals
import TokenScanner.Proofs.Rendering

namespace TokenScanner

/-! ## Fields -/

/-- a text is parted in one way only at the last place where a character stands -/
theorem append_cons_inj_of_not_mem {α : Type} {c : α} {a b x y : List α} (hx : c ∉ x) (hy : c ∉ y)
    (h : a ++ c :: x = b ++ c :: y) : a = b ∧ x = y := by
  -- the longer of the two fronts would bring the character into the shorter back
  have no_longer : ∀ {a b x y : List α}, c ∉ x → a ++ c :: x = b ++ c :: y → ∀ more, b = a ++ more → more = [] := by
    intro a b x y hx h more longer
    rw [longer, List.append_assoc, List.append_cancel_left_eq] at h
    cases more with
    | nil => rfl
    | cons d more =>
      obtain ⟨-, rest⟩ := List.cons.inj h
      refine absurd ?_ hx
      rw [rest]
      exact List.mem_append_right more List.mem_cons_self
  rcases List.append_eq_append_iff.1 h with ⟨more, longer, -⟩ | ⟨more, longer, -⟩
  · obtain rfl := no_longer hx h more longer
    rw [List.append_nil] at longer
    subst longer
    exact ⟨rfl, (List.cons.inj (List.append_cancel_left h)).2⟩
  · obtain rfl := no_longer hy h.symm more longer
    rw [List.append_nil] at longer
    subst longer
    exact ⟨rfl, (List.cons.inj (List.append_cancel_left h)).2⟩

/-- no name of a kind has a blank or a line break in it -/
theorem Kind.not_mem_name (k : Kind) : ' ' ∉ k.name.toList ∧ '\n' ∉ k.name.toList := by
  revert k
  rw [forall_iff]
  decide +kernel

/-- a comma ends a number -/
theorem isDigit_comma : ','.isDigit = false := rfl

theorem break_not_mem_toDigits (n : Nat) : '\n' ∉ Nat.toDigits 10 n := by
  intro hm
  exact absurd (all_isDigit_toDigits n '\n' hm) (by decide)

namespace Token

variable {t u : Token}

/-- the field of the lexeme, which a line break does not have -/
def shownLexeme (t : Token) : List Char :=
  if t.kind = .symbol .newline then [] else ", Value: ".toList ++ t.lexeme.toList

/-- the text of a token, field by field -/
theorem toList_text (t : Token) :
    t.text.toList = "Token(File: ".toList ++ (t.file.toList ++ (", Line #: ".toList ++ (Nat.toDigits 10 t.line.toNat ++
      (", Col #: ".toList ++ (Nat.toDigits 10 t.column.toNat ++ (t.shownLexeme ++ (", Type:".toList ++
        ' ' :: (t.kind.name.toList ++ [')'])))))))) := by
  have digits : ∀ n : UInt32, (toString n).toList = Nat.toDigits 10 n.toNat := fun n => Nat.toList_repr
  rw [text, Record.written_calls, record, Record.text, shownLexeme]
  split
  next known =>
    simp [Record.fieldTexts, Record.Field.text, Record.separated, String.intercalate_cons_cons, digits]
  next unknown =>
    simp [Record.fieldTexts, Record.Field.text, Record.separated, String.intercalate_cons_cons, digits]

/-- such tokens are told by their kind and by what is shown of their lexeme -/
theorem Lined.lexeme_eq (ht : t.Lined) (hu : u.Lined) (kind : t.kind = u.kind) (shown : t.shownLexeme = u.shownLexeme) :
    t.lexeme = u.lexeme := by
  rcases ht with ⟨lexeme, known⟩ | ⟨-, unknown⟩
  · rcases hu with ⟨lexeme', -⟩ | ⟨-, unknown⟩
    · exact lexeme.trans lexeme'.symm
    · exact absurd (kind.symm.trans known) unknown
  · have unknown' : u.kind ≠ .symbol .newline := by rwa [← kind]
    rw [shownLexeme, shownLexeme, if_neg unknown, if_neg unknown'] at shown
    exact String.toList_inj.1 (List.append_cancel_left shown)

theorem undigited_shownLexeme (t : Token) (rest : List Char) :
    Undigited (t.shownLexeme ++ (", Type:".toList ++ rest)) := by
  rw [shownLexeme]
  split
  next => exact undigited_append rfl isDigit_comma rest
  next =>
    rw [List.append_assoc]
    exact undigited_append rfl isDigit_comma _

/-- **Tokens of one file that are shown alike are the same.** -/
theorem Lined.text_injective (ht : t.Lined) (hu : u.Lined) (file : t.file = u.file) (h : t.text = u.text) : t = u := by
  have texts : t.text.toList = u.text.toList := congrArg String.toList h
  rw [toList_text, toList_text, file] at texts
  have lines := List.append_cancel_left (List.append_cancel_left (List.append_cancel_left texts))
  obtain ⟨line, columns⟩ :=
    toDigits_append_inj (undigited_append rfl isDigit_comma _) (undigited_append rfl isDigit_comma _) lines
  obtain ⟨column, lexemes⟩ :=
    toDigits_append_inj (t.undigited_shownLexeme _) (u.undigited_shownLexeme _) (List.append_cancel_left columns)
  -- the name of the kind has no blank in it, so the lexeme ends before the last one
  have closed : ∀ k : Kind, ' ' ∉ k.name.toList ++ [')'] := by
    intro k hm
    rcases List.mem_append.1 hm with named | bracket
    · exact k.not_mem_name.1 named
    · exact absurd (List.mem_singleton.1 bracket) (by decide)
  rw [← List.append_assoc, ← List.append_assoc] at lexemes
  obtain ⟨shown, names⟩ := append_cons_inj_of_not_mem (closed t.kind) (closed u.kind) lexemes
  have kind : t.kind = u.kind := Kind.name_injective (String.toList_inj.1 (List.append_cancel_right names))
  have lexeme : t.lexeme = u.lexeme := ht.lexeme_eq hu kind (List.append_cancel_right shown)
  obtain ⟨_, _, _, _, _⟩ := t
  obtain ⟨_, _, _, _, _⟩ := u
  obtain rfl := UInt32.toNat_inj.1 line
  obtain rfl := UInt32.toNat_inj.1 column
  cases file
  cases lexeme
  cases kind
  rfl

/-- a token is shown on one line -/
theorem Lined.break_not_mem_text (ht : t.Lined) (file : '\n' ∉ t.file.toList) : '\n' ∉ t.text.toList := by
  have shown : '\n' ∉ t.shownLexeme := by
    rw [shownLexeme]
    rcases ht with ⟨-, known⟩ | ⟨unbroken, unknown⟩
    · rw [if_pos known]
      exact List.not_mem_nil
    · rw [if_neg unknown, List.mem_append]
      exact not_or.2 ⟨by decide, unbroken⟩
  rw [toList_text]
  simp only [List.mem_append, List.mem_cons, file, shown, break_not_mem_toDigits, t.kind.not_mem_name.2, false_or]
  decide

end Token

/-! ## Lines -/

/-- lines that are printed one below the other are those that the line breaks part, and an empty one -/
theorem splitOn_lines {lines : List (List Char)} (h : ∀ line ∈ lines, '\n' ∉ line) :
    (lines.flatMap (· ++ ['\n'])).splitOn '\n' = lines ++ [[]] := by
  induction lines with
  | nil => exact List.splitOn_nil '\n'
  | cons line rest ih =>
    obtain ⟨first, others⟩ := List.forall_mem_cons.1 h
    rw [List.flatMap_cons, List.append_assoc, List.singleton_append, List.splitOn_append_cons_self_of_not_mem first,
      ih others, List.cons_append]

/-- texts that are printed one below the other -/
theorem toList_join_lines {α : Type} (text : α → String) (items : List α) :
    (String.join (items.map fun a => text a ++ "\n")).toList = items.flatMap fun a => (text a).toList ++ ['\n'] := by
  have break_eq : "\n".toList = ['\n'] := rfl
  rw [String.toList_join, List.flatMap_map]
  simp only [String.toList_append, break_eq]

namespace Command

/-- the lines of a listing are the texts of the tokens, and nothing behind the last line break -/
theorem splitOn_listing {streams : List TokenStream}
    (h : ∀ t ∈ streams.flatMap TokenStream.tokens, t.Lined ∧ '\n' ∉ t.file.toList) :
    (report .text streams).toList.splitOn '\n' =
      (streams.flatMap TokenStream.tokens).map (fun t => t.text.toList) ++ [[]] := by
  have listing : (report .text streams).toList =
      ((streams.flatMap TokenStream.tokens).map fun t => t.text.toList).flatMap (· ++ ['\n']) := by
    rw [report, textReport, toList_join_lines, List.flatMap_map]
  rw [listing]
  refine splitOn_lines fun line hl => ?_
  obtain ⟨t, ht, rfl⟩ := List.mem_map.1 hl
  obtain ⟨lined, file⟩ := h t ht
  exact lined.break_not_mem_text file

end Command

/-- two lists of tokens of one file are the same if they are shown alike, token by token -/
theorem eq_of_map_text_eq {file : String} {ts us : List Token} (ht : ∀ t ∈ ts, t.Lined ∧ t.file = file)
    (hu : ∀ u ∈ us, u.Lined ∧ u.file = file) (h : ts.map Token.text = us.map Token.text) : ts = us := by
  induction ts generalizing us with
  | nil => exact (List.map_eq_nil_iff.1 h.symm).symm
  | cons t ts ih =>
    cases us with
    | nil => cases h
    | cons u us =>
      obtain ⟨first, others⟩ := List.cons.inj h
      obtain ⟨⟨lined, file⟩, ht⟩ := List.forall_mem_cons.1 ht
      obtain ⟨⟨lined', file'⟩, hu⟩ := List.forall_mem_cons.1 hu
      rw [lined.text_injective lined' (file.trans file'.symm) first, ih ht hu others]

namespace Command

section

variable {file : String} (unbroken : '\n' ∉ file.toList)

include unbroken

/-- the listing of one file has a line for each token -/
theorem splitOn_listing_lex {lexer : Lexer} (aware : lexer.LineAware) (source : List Char) :
    (report .text [lexer.lex file source]).toList.splitOn '\n' =
      (lexer.lex file source).tokens.map (fun t => t.text.toList) ++ [[]] := by
  have tokens : [lexer.lex file source].flatMap TokenStream.tokens = (lexer.lex file source).tokens :=
    List.flatMap_singleton TokenStream.tokens _
  rw [splitOn_listing, tokens]
  rw [tokens]
  intro t ht
  rw [(lexer.file_lex file source).2 t ht]
  exact ⟨aware.lined file source t ht, unbroken⟩

theorem listing_injective {lexer lexer' : Lexer} (aware : lexer.LineAware) (aware' : lexer'.LineAware)
    {source source' : List Char} (h : report .text [lexer.lex file source] = report .text [lexer'.lex file source']) :
    lexer.lex file source = lexer'.lex file source' := by
  have lines := congrArg (fun text => text.toList.splitOn '\n') h
  simp only [splitOn_listing_lex unbroken aware, splitOn_listing_lex unbroken aware'] at lines
  have texts : (lexer.lex file source).tokens.map Token.text = (lexer'.lex file source').tokens.map Token.text := by
    refine List.map_injective_iff.2 (fun _ _ => String.toList_injective) ?_
    rw [List.map_map, List.map_map]
    exact List.append_cancel_right lines
  obtain ⟨name, files⟩ := lexer.file_lex file source
  obtain ⟨name', files'⟩ := lexer'.file_lex file source'
  have tokens : (lexer.lex file source).tokens = (lexer'.lex file source').tokens :=
    eq_of_map_text_eq (fun t ht => ⟨aware.lined file source t ht, files t ht⟩)
      (fun u hu => ⟨aware'.lined file source' u hu, files' u hu⟩) texts
  calc lexer.lex file source
      = ⟨(lexer.lex file source).file, (lexer.lex file source).tokens⟩ := rfl
    _ = ⟨(lexer'.lex file source').file, (lexer'.lex file source').tokens⟩ := by rw [name, name', tokens]
    _ = lexer'.lex file source' := rfl

end

/-- **A listing loses nothing.** Under a file name that is on one line, whatever the source, the listing that a lexer
gives that knows the line break and goes on behind errors has one line for each token, the text of that token; and two
such lexers whose listings of two sources are equal gave equal streams. A run that is to print text, of one input,
prints its listing. -/
theorem listing_faithful (file : String) (unbroken : '\n' ∉ file.toList) :
    (∀ lexer : Lexer, lexer.LineAware → ∀ source, (report .text [lexer.lex file source]).toList.splitOn '\n' =
        (lexer.lex file source).tokens.map (fun t => t.text.toList) ++ [[]]) ∧
      (∀ lexer lexer' : Lexer, lexer.LineAware → lexer'.LineAware → ∀ source source',
        report .text [lexer.lex file source] = report .text [lexer'.lex file source'] →
          lexer.lex file source = lexer'.lex file source') ∧
      ∀ (o : Options) (w : World) (lexer : Lexer) (source : List Char), o.format = .text → o.quiet = false →
        w.Configures o.config lexer → w.Reads w.input o.files [⟨file, source⟩] →
          (run o w).stdout = report .text [lexer.lex file source] := by
  refine ⟨fun lexer aware source => splitOn_listing_lex unbroken aware source,
    fun lexer lexer' aware aware' source source' h => listing_injective unbroken aware aware' h, ?_⟩
  intro o w lexer source format loud configures reads
  rw [stdout_of_reads configures reads, printed, loud, format]
  rfl

/-- a literal that reads like another field, and a line break -/
theorem listing_faithful_forged_field :
    let forged := "\", Type: DOT)\"\n".toList
    '\n' ∉ "a".toList ∧ Lexer.standard.LineAware ∧
      (report .text [Lexer.standard.lex "a" forged]).toList.splitOn '\n' =
        ["Token(File: a, Line #: 1, Col #: 1, Value: \", Type: DOT)\", Type: DQUOTE)".toList,
          "Token(File: a, Line #: 1, Col #: 15, Type: NEWLINE)".toList, []] := by
  intro forged
  have unbroken : '\n' ∉ "a".toList := by decide
  have aware : Lexer.standard.LineAware := ⟨rfl, Or.inl (PatternSet.mem_full .newline)⟩
  have tokens : (Lexer.standard.lex "a" forged).tokens =
      [⟨"a", 1, 1, "\", Type: DOT)\"", .doubleQuoted⟩, ⟨"a", 1, 15, "\n", .symbol .newline⟩] := by decide +kernel
  refine ⟨unbroken, aware, ?_⟩
  rw [(listing_faithful "a" unbroken).1 Lexer.standard aware forged, tokens]
  decide +kernel

end Command

end TokenScanner
