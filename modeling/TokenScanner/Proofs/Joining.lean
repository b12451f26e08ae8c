/-
Inputs are scanned on their own.

A run goes through its inputs one by one and keeps nothing from one to the next but what is left of the standard input.
Where the standard input is not asked for on both sides, the sources of two lists of inputs are those of each in turn
(`World.Reads.append`), and all that is said of streams is said of each by itself. So a run on both lists prints,
diagnoses, reports and archives what the two runs do, one after the other.

- `World.Reads.append`: the sources of two lists of inputs.
- `runs_joined`: a run on two lists of inputs, told by the runs on each.
-/
import TokenScanner.Proofs.Independence
import TokenScanner.Proofs.JsonReports

namespace TokenScanner.Command

open Json (Member Piece Tree)

variable {o : Options} {w : World} {input input' : Except FileError ByteArray} {lexer : Lexer}
  {paths front back : List String} {sources as bs : List Source}

/-! ## Sources -/

/-- files do not depend on the standard input -/
theorem World.Reads.of_not_mem (h : inputPath ∉ paths) (reads : w.Reads input paths sources) :
    w.Reads input' paths sources := by
  induction reads with
  | nil => exact .nil
  | input reads ih => exact absurd List.mem_cons_self h
  | file hne holds reads ih => exact .file hne holds (ih fun listed => h (List.mem_cons_of_mem _ listed))

/-- **The sources of two lists of inputs** are those of each in turn, if one of them leaves the standard input alone. -/
theorem World.Reads.append (once : inputPath ∉ front ∨ inputPath ∉ back) (ha : w.Reads input front as)
    (hb : w.Reads input back bs) : w.Reads input (front ++ back) (as ++ bs) := by
  induction ha with
  | nil => exact hb
  | input reads ih =>
    -- the standard input is used up, which the files behind it do not notice
    have files : inputPath ∉ back := once.resolve_left fun absent => absent List.mem_cons_self
    exact .input (ih (Or.inr files) (hb.of_not_mem files))
  | file hne holds reads ih =>
    exact .file hne holds (ih (once.imp_left fun absent listed => absent (List.mem_cons_of_mem _ listed)) hb)

theorem exists_reads (readable : ∀ path ∈ paths, ¬ w.Unreadable path) : ∃ sources, w.Reads w.input paths sources := by
  rcases readSources_cases w paths with ⟨sources, reads⟩ | ⟨-, -, path, -, listed, unreadable⟩
  · exact ⟨sources, reads⟩
  · exact absurd unreadable (readable path listed)

theorem scanned_append (lexer : Lexer) (as bs : List Source) :
    scanned lexer (as ++ bs) = scanned lexer as ++ scanned lexer bs :=
  List.map_append

/-! ## What is said of streams -/

theorem textReport_append (a b : List TokenStream) : textReport (a ++ b) = textReport a ++ textReport b := by
  rw [textReport, List.flatMap_append, List.map_append, String.join_append, textReport, textReport]

theorem diagnosticNotices_append (o : Options) (a b : List TokenStream) :
    diagnosticNotices o (a ++ b) = diagnosticNotices o a ++ diagnosticNotices o b := by
  rw [diagnosticNotices, List.flatMap_append, List.map_append, diagnosticNotices, diagnosticNotices]

/-- the value of the first member of that name -/
def memberOf? (name : String) : List Member → Option Tree
  | .field (.ok key) value :: rest => if key = name.toList then some value else memberOf? name rest
  | _ => none

/-- the streams that the standard output reports, if it is a document with the member `streams` -/
def Outcome.reported? (out : Outcome) : Option (List TokenStream) :=
  match Tree.ofPieces (Piece.ofText out.stdout.toList) with
  | (.object members, []) => (memberOf? "streams" members).bind fun streams =>
    (Json.readList TokenStream.read streams).toOption
  | _ => none

/-- the streams that an archiver decodes from the archive, if one is written -/
def Outcome.archived? (a : Archiver) (out : Outcome) : Option (List TokenStream) :=
  out.archive.bind fun archive => a.decode? archive.2

/-- both lists, one after the other -/
def joined? (a b : Option (List TokenStream)) : Option (List TokenStream) := do
  return (← a) ++ (← b)

theorem joined?_none : joined? none none = none := rfl

theorem joined?_some (a b : List TokenStream) : joined? (some a) (some b) = some (a ++ b) := rfl

theorem reported?_of_json {out : Outcome} {streams : List TokenStream} (h : out.stdout = jsonReport streams) :
    out.reported? = some streams := by
  have listed : memberOf? "streams" [.field (.ok "streams".toList) (streamsJson streams).tree,
      .field (.ok "diagnostics".toList) (diagnosticsJson streams).tree] = some (streamsJson streams).tree := rfl
  rw [Outcome.reported?, h, (document_jsonReport streams).whole]
  simp only [listed, Option.bind_some, read_streamsJson]
  rfl

theorem reported?_of_empty {out : Outcome} (h : out.stdout = "") : out.reported? = none := by
  have nothing : Piece.ofText "".toList = [] := Piece.ofText_nil
  rw [Outcome.reported?, h, nothing]
  rfl

theorem stdout_of_quiet (quiet : o.quiet = true) : (run o w).stdout = "" := by
  obtain ⟨said, -, ⟨f, -, failed⟩ | ⟨lexer, sources, -, -, concluded⟩⟩ := reading_cases w o.config o.files
  · rw [failed o rfl rfl]
    rfl
  · rw [concluded o rfl rfl, conclude_stdout, printed, if_pos quiet]

section

variable (configures : w.Configures o.config lexer) (reads : w.Reads w.input o.files sources)

include configures reads

theorem reported?_run (json : o.format = .json) (loud : o.quiet = false) :
    (run o w).reported? = some (scanned lexer sources) := by
  apply reported?_of_json
  rw [stdout_of_reads configures reads, printed, loud, json]
  rfl

/-- a faithful archiver gives back the streams of any archive that is written -/
theorem archived?_of_isSome (faithful : w.archiver.Faithful) (written : (run o w).archive.isSome) :
    (run o w).archived? w.archiver = some (scanned lexer sources) := by
  obtain ⟨⟨path, bytes⟩, archive⟩ := Option.isSome_iff_exists.1 written
  rw [Outcome.archived?, archive]
  rw [archive_of_reads configures reads] at archive
  obtain ⟨-, made, valid⟩ := made_of_archiving archive
  exact faithful _ _ made valid

theorem archived?_of_archives {path : String} (faithful : w.archiver.Faithful) (asked : o.archive = some path)
    (archives : w.Archives path (scanned lexer sources)) :
    (run o w).archived? w.archiver = some (scanned lexer sources) := by
  refine archived?_of_isSome configures reads faithful ?_
  obtain ⟨bytes, archived⟩ := archiving_of_archives asked archives
  rw [archive_of_reads configures reads, archived]
  rfl

end

/-! ## Runs on two lists of inputs -/

/-- the options with other inputs and another format -/
def Options.on (o : Options) (format : Format) (files : List String) : Options :=
  { o with format, files }

section

variable (ha : w.Reads w.input front as) (hb : w.Reads w.input back bs)
  (once : inputPath ∉ front ∨ inputPath ∉ back)

include ha hb once

/-- what is seen of a run is joined, if it is told by the streams of the run, and of streams by each in turn -/
theorem seen_joined {α : Type} {format : Format} (seen : Outcome → α) (told : List TokenStream → α) (join : α → α → α)
    (of_streams : ∀ {files sources}, w.Reads w.input files sources →
      seen (run (o.on format files) w) = told (scanned lexer sources))
    (in_turn : ∀ a b, told (a ++ b) = join (told a) (told b)) :
    seen (run (o.on format (front ++ back)) w) =
      join (seen (run (o.on format front) w)) (seen (run (o.on format back) w)) := by
  rw [of_streams (ha.append once hb), of_streams ha, of_streams hb, scanned_append, in_turn]

variable (configures : w.Configures o.config lexer)

include configures

theorem stdout_joined :
    (run (o.on .text (front ++ back)) w).stdout =
      (run (o.on .text front) w).stdout ++ (run (o.on .text back) w).stdout := by
  refine seen_joined ha hb once Outcome.stdout (printed (o.on .text front)) (· ++ ·)
    (fun reads => stdout_of_reads configures reads) fun a b => ?_
  cases quiet : o.quiet with
  | true => simp only [printed, Options.on, quiet, if_true, String.append_empty]
  | false => simp only [printed, Options.on, quiet, Bool.false_eq_true, if_false, report, textReport_append]

theorem found_joined (format : Format) :
    (run (o.on format (front ++ back)) w).notices.filter Notice.isFound =
      (run (o.on format front) w).notices.filter Notice.isFound ++
        (run (o.on format back) w).notices.filter Notice.isFound :=
  seen_joined ha hb once (·.notices.filter Notice.isFound) (diagnosticNotices o) (· ++ ·)
    (fun reads => filter_isFound_run configures reads) (diagnosticNotices_append o)

theorem reported?_joined :
    (run (o.on .json (front ++ back)) w).reported? =
      joined? (run (o.on .json front) w).reported? (run (o.on .json back) w).reported? := by
  cases quiet : o.quiet with
  | true =>
    have silent : ∀ files, (run (o.on .json files) w).reported? = none :=
      fun files => reported?_of_empty (stdout_of_quiet quiet)
    rw [silent, silent, silent, joined?_none]
  | false =>
    exact seen_joined ha hb once Outcome.reported? some joined?
      (fun reads => reported?_run configures reads rfl quiet) fun a b => (joined?_some a b).symm

theorem archived?_joined (faithful : w.archiver.Faithful) (format : Format)
    (both : (run (o.on format (front ++ back)) w).archive.isSome)
    (first : (run (o.on format front) w).archive.isSome) (second : (run (o.on format back) w).archive.isSome) :
    (run (o.on format (front ++ back)) w).archived? w.archiver =
      joined? ((run (o.on format front) w).archived? w.archiver) ((run (o.on format back) w).archived? w.archiver) := by
  have told : ∀ {files sources}, w.Reads w.input files sources → (run (o.on format files) w).archive.isSome →
      (run (o.on format files) w).archived? w.archiver = some (scanned lexer sources) :=
    fun reads written => archived?_of_isSome configures reads faithful written
  rw [told ha first, told hb second, told (ha.append once hb) both, joined?_some, scanned_append]

end

/-- a run without a lexer says nothing of its inputs, whichever they are -/
theorem run_of_misconfigured (h : ∀ lexer, ¬ w.Configures o.config lexer) :
    (run o w).stdout = "" ∧ (run o w).notices.filter Notice.isFound = [] ∧ (run o w).archive = none := by
  obtain ⟨said, progressing, ⟨f, -, failed⟩ | ⟨lexer, sources, configures, -, -⟩⟩ := reading_cases w o.config o.files
  · rw [failed o rfl rfl]
    refine ⟨rfl, ?_, rfl⟩
    rw [Outcome.failure, List.filter_append, filter_isFound_progress (isProgress_of_mem_progress progressing)]
    rfl
  · exact absurd configures (h lexer)

/-- **Inputs are scanned on their own.** Whatever the configuration and the other options, if no input of two lists is
unreadable and one of the lists leaves the standard input alone, a run on both prints what the run on the first prints
and then what the run on the second prints, gives the diagnostics of the one and then of the other, and its report in
JSON holds the streams of both. So does its archive, as a faithful archiver decodes it, where the three runs write one.
What a run reports, and what it archives where the archiver takes it and the path can be written, are the streams of its
own sources alone. -/
theorem runs_joined (o : Options) (w : World) (front back : List String)
    (readable : ∀ path ∈ front ++ back, ¬ w.Unreadable path) (once : inputPath ∉ front ∨ inputPath ∉ back) :
    (run (o.on .text (front ++ back)) w).stdout =
        (run (o.on .text front) w).stdout ++ (run (o.on .text back) w).stdout ∧
      (∀ format, (run (o.on format (front ++ back)) w).notices.filter Notice.isFound =
        (run (o.on format front) w).notices.filter Notice.isFound ++
          (run (o.on format back) w).notices.filter Notice.isFound) ∧
      (run (o.on .json (front ++ back)) w).reported? =
        joined? (run (o.on .json front) w).reported? (run (o.on .json back) w).reported? ∧
      (w.archiver.Faithful → ∀ format, (run (o.on format (front ++ back)) w).archive.isSome →
        (run (o.on format front) w).archive.isSome → (run (o.on format back) w).archive.isSome →
        (run (o.on format (front ++ back)) w).archived? w.archiver =
          joined? ((run (o.on format front) w).archived? w.archiver)
            ((run (o.on format back) w).archived? w.archiver)) ∧
      ∀ lexer, w.Configures o.config lexer → ∃ as bs, w.Reads w.input front as ∧ w.Reads w.input back bs ∧
        (o.quiet = false → (run (o.on .json front) w).reported? = some (scanned lexer as) ∧
          (run (o.on .json back) w).reported? = some (scanned lexer bs)) ∧
        (w.archiver.Faithful → ∀ format path, o.archive = some path →
          (w.Archives path (scanned lexer as) →
            (run (o.on format front) w).archived? w.archiver = some (scanned lexer as)) ∧
          (w.Archives path (scanned lexer bs) →
            (run (o.on format back) w).archived? w.archiver = some (scanned lexer bs)) ∧
          (w.Archives path (scanned lexer as ++ scanned lexer bs) →
            (run (o.on format (front ++ back)) w).archived? w.archiver =
              some (scanned lexer as ++ scanned lexer bs))) := by
  obtain ⟨as, ha⟩ := exists_reads fun path listed => readable path (List.mem_append_left back listed)
  obtain ⟨bs, hb⟩ := exists_reads fun path listed => readable path (List.mem_append_right front listed)
  by_cases configured : ∃ lexer, w.Configures o.config lexer
  · obtain ⟨lexer, configures⟩ := configured
    refine ⟨stdout_joined ha hb once configures, found_joined ha hb once configures,
      reported?_joined ha hb once configures, archived?_joined ha hb once configures, ?_⟩
    intro lexer' configures'
    obtain rfl := configures.unique configures'
    refine ⟨as, bs, ha, hb,
      fun loud => ⟨reported?_run configures ha rfl loud, reported?_run configures hb rfl loud⟩, ?_⟩
    intro faithful format path asked
    have archived : ∀ {files sources}, w.Reads w.input files sources → w.Archives path (scanned lexer sources) →
        (run (o.on format files) w).archived? w.archiver = some (scanned lexer sources) :=
      fun reads archives => archived?_of_archives configures reads faithful asked archives
    rw [← scanned_append]
    exact ⟨archived ha, archived hb, archived (ha.append once hb)⟩
  · have absent : ∀ lexer, ¬ w.Configures o.config lexer := fun lexer configures => configured ⟨lexer, configures⟩
    have silent : ∀ format files, (run (o.on format files) w).stdout = "" ∧
        (run (o.on format files) w).notices.filter Notice.isFound = [] ∧
        (run (o.on format files) w).archive = none := fun format files => run_of_misconfigured absent
    have unreported : ∀ files, (run (o.on .json files) w).reported? = none :=
      fun files => reported?_of_empty (silent .json files).1
    refine ⟨?_, fun format => ?_, ?_, fun _ format both => ?_,
      fun lexer configures => absurd configures (absent lexer)⟩
    · rw [(silent .text _).1, (silent .text _).1, (silent .text _).1, String.append_empty]
    · rw [(silent format _).2.1, (silent format _).2.1, (silent format _).2.1, List.append_nil]
    · rw [unreported, unreported, unreported, joined?_none]
    · rw [(silent format _).2.2] at both
      cases both

/-- a quote that is open at the end of a file, and one at the start of the standard input -/
theorem runs_joined_open_quotes :
    let w : World := ⟨fun _ => .ok "'".toUTF8, fun _ => none, .ok "'".toUTF8, .plain⟩
    let o : Options := ⟨[], none, .text, some "out", false, false, false⟩
    (∀ path ∈ ["a.st"] ++ ["-"], ¬ w.Unreadable path) ∧ inputPath ∉ ["a.st"] ∧
      (run (o.on .text ["a.st", "-"]) w).stdout =
        "Token(File: a.st, Line #: 1, Col #: 1, Value: ', Type: ERROR)\n" ++
          "Token(File: <stdin>, Line #: 1, Col #: 1, Value: ', Type: ERROR)\n" ∧
      (run (o.on .text ["a.st", "-"]) w).notices.filter Notice.isFound =
        [.found .warning ⟨.unterminatedLiteral, "a.st", 1, 1, "'"⟩] ++
          [.found .warning ⟨.unterminatedLiteral, "<stdin>", 1, 1, "'"⟩] ∧
      (run (o.on .text ["a.st", "-"]) w).archived? w.archiver =
        some [⟨"a.st", [⟨"a.st", 1, 1, "'", .error⟩]⟩, ⟨"<stdin>", [⟨"<stdin>", 1, 1, "'", .error⟩]⟩] := by
  intro w o
  have readable : ∀ path ∈ ["a.st"] ++ ["-"], ¬ w.Unreadable path := by
    intro path _ unreadable
    refine unreadable ['\''] ?_
    unfold World.Supplies
    split
    next => rfl
    next => rfl
  have files : inputPath ∉ ["a.st"] := by decide
  obtain ⟨printed, found, -, archived, -⟩ := runs_joined o w ["a.st"] ["-"] readable (Or.inl files)
  have both := archived Archiver.plain_faithful .text (by decide +kernel) (by decide +kernel) (by decide +kernel)
  refine ⟨readable, files, printed.trans ?_, (found .text).trans ?_, both.trans ?_⟩
  · decide +kernel
  · decide +kernel
  · decide +kernel

end TokenScanner.Command
