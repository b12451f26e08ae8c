/-
Reports in JSON.

A run that is to print JSON prints one document, an object with two members. One is the list of the streams, and is read
as them; the other has a record for each diagnostic of each stream in turn (`Remark`), with the place and what is said
and no other field. Nothing depends on what the inputs hold or what they are called: every character is read as it was
quoted, and a kind by its name.

- `Remark.undoes`: a diagnostic is read as its place and what is said.
- `json_report_decodes`: what a run prints as JSON is decoded to what it scanned.
-/
import TokenScanner.Archiver.Plain
import TokenScanner.Proofs.Course
import TokenScanner.Proofs.Decoding

namespace TokenScanner

open Json (Document Shape Slot Undoes Value undoes_string undoes_word)

/-! ## Remarks -/

/-- a diagnostic as a report has it -/
structure Remark where
  file : String
  line : UInt32
  column : UInt32
  message : String
  deriving DecidableEq, Repr

/-- the place of a diagnostic and what is said -/
def Diagnostic.remark (d : Diagnostic) : Remark :=
  ⟨d.file, d.line, d.column, d.message⟩

namespace Remark

/-- a remark to write -/
def json (r : Remark) : Value :=
  .object [.mk "file" (.string r.file), .mk "line" (.natural r.line.toNat), .mk "column" (.natural r.column.toNat),
    .mk "message" (.string r.message)]

/-- a remark as far as it was read -/
structure Draft where
  file : Option String
  line : Option UInt32
  column : Option UInt32
  message : Option String

/-- the remark of a draft, or the name of the first field that it lacks -/
def Draft.complete (d : Draft) : Except String Remark :=
  match d.file, d.line, d.column, d.message with
  | none, _, _, _ => .error "file"
  | _, none, _, _ => .error "line"
  | _, _, none, _ => .error "column"
  | _, _, _, none => .error "message"
  | some file, some line, some column, some message => .ok ⟨file, line, column, message⟩

/-- how remarks are written, with no other field -/
def shape : Shape Draft Remark where
  what := "struct Remark"
  slots := [
    .of "file" Draft.file (fun a d => { d with file := some a }) Json.readString,
    .of "line" Draft.line (fun a d => { d with line := some a }) Json.readWord,
    .of "column" Draft.column (fun a d => { d with column := some a }) Json.readWord,
    .of "message" Draft.message (fun a d => { d with message := some a }) Json.readString]
  strict := true
  start := ⟨none, none, none, none⟩
  complete := Draft.complete

/-- reads a remark -/
def read : Json.Decoder Remark :=
  shape.read

theorem undoes : Undoes read json := by
  intro r
  refine Shape.read_object (d := ⟨some r.file, some r.line, some r.column, some r.message⟩) ?_ rfl
  simp only [Value.memberTrees]
  rw [Shape.readMembers_field rfl rfl (Slot.fill_of undoes_string _ _ _ r.file _)]
  rw [Shape.readMembers_field rfl rfl (Slot.fill_of undoes_word _ _ _ r.line _)]
  rw [Shape.readMembers_field rfl rfl (Slot.fill_of undoes_word _ _ _ r.column _)]
  rw [Shape.readMembers_field rfl rfl (Slot.fill_of undoes_string _ _ _ r.message _)]
  rfl

end Remark

namespace Command

variable {o : Options} {w : World} {streams : List TokenStream}

/-! ## Reports -/

/-- the list of streams in a report -/
def streamsJson (streams : List TokenStream) : Value :=
  .array (streams.map TokenStream.json)

/-- the list of diagnostics in a report -/
def diagnosticsJson (streams : List TokenStream) : Value :=
  .array ((streams.flatMap diagnose).map diagnosticJson)

theorem read_streamsJson (streams : List TokenStream) :
    Json.readList TokenStream.read (streamsJson streams).tree = .ok streams :=
  TokenStream.undoes.list streams

theorem read_diagnosticsJson (streams : List TokenStream) :
    Json.readList Remark.read (diagnosticsJson streams).tree =
      .ok ((streams.flatMap diagnose).map Diagnostic.remark) := by
  have remarks : (streams.flatMap diagnose).map diagnosticJson =
      ((streams.flatMap diagnose).map Diagnostic.remark).map Remark.json := by
    rw [List.map_map]
    rfl
  rw [diagnosticsJson, remarks]
  exact Remark.undoes.list _

/-- a report is one document, with the streams and the diagnostics for its members -/
theorem document_jsonReport (streams : List TokenStream) :
    Document (jsonReport streams).toList (.object [.field (.ok "streams".toList) (streamsJson streams).tree,
      .field (.ok "diagnostics".toList) (diagnosticsJson streams).tree]) := by
  have members : (reportJson streams).tree = .object [.field (.ok "streams".toList) (streamsJson streams).tree,
      .field (.ok "diagnostics".toList) (diagnosticsJson streams).tree] := by
    simp only [reportJson, Value.tree, Value.memberTrees, streamsJson, diagnosticsJson]
  rw [jsonReport, String.toList_ofList, ← members]
  exact (reportJson streams).document (Or.inr rfl)

/-- a run that succeeds was kept from nothing -/
theorem reads_of_exit (success : (run o w).exit = 0) :
    ∃ lexer sources, w.Configures o.config lexer ∧ w.Reads w.input o.files sources := by
  rcases run_cases o w with ⟨-, notices, f, -, failed⟩ | ⟨-, reads⟩
  · rw [failed] at success
    cases success
  · exact reads

/-- **Reports are decoded to what was scanned.** Whatever its inputs and its configuration, a run that succeeds and is
to print JSON prints one document: an object with the member `streams`, which is decoded to the streams of the inputs
in turn, and the member `diagnostics`, which is decoded to the place and the message of each of their diagnostics. The
text of any stream at all is decoded to the stream. -/
theorem json_report_decodes :
    (∀ (o : Options) (w : World), o.format = .json → o.quiet = false → (run o w).exit = 0 →
      ∃ lexer sources, w.Configures o.config lexer ∧ w.Reads w.input o.files sources ∧
        ∃ streams diagnostics,
          Document (run o w).stdout.toList
            (.object [.field (.ok "streams".toList) streams, .field (.ok "diagnostics".toList) diagnostics]) ∧
          Json.readList TokenStream.read streams =
            .ok (sources.map fun source => lexer.lex source.name source.text) ∧
          Json.readList Remark.read diagnostics =
            .ok ((sources.flatMap fun source => diagnose (lexer.lex source.name source.text)).map
              Diagnostic.remark)) ∧
      ∀ s : TokenStream, Json.ofText TokenStream.read s.json.text = .ok s := by
  refine ⟨?_, TokenStream.undoes.ofText⟩
  intro o w format loud success
  obtain ⟨lexer, sources, configures, reads⟩ := reads_of_exit success
  have stdout : (run o w).stdout = jsonReport (scanned lexer sources) := by
    rw [stdout_of_reads configures reads, printed, loud, format]
    rfl
  refine ⟨lexer, sources, configures, reads, (streamsJson (scanned lexer sources)).tree,
    (diagnosticsJson (scanned lexer sources)).tree, ?_, read_streamsJson _, ?_⟩
  · rw [stdout]
    exact document_jsonReport _
  · rw [read_diagnosticsJson, scanned, List.flatMap_map]

/-- a control character in a literal, and a character that is not recognized -/
theorem json_report_decodes_control_character :
    let w : World := ⟨fun _ => .error .notFound, fun _ => none, .ok "'\x01'@".toUTF8, .plain⟩
    let o : Options := ⟨["-"], none, .json, none, false, false, false⟩
    o.format = .json ∧ o.quiet = false ∧ (run o w).exit = 0 ∧ ∃ streams diagnostics,
      Document (run o w).stdout.toList
        (.object [.field (.ok "streams".toList) streams, .field (.ok "diagnostics".toList) diagnostics]) ∧
      Json.readList TokenStream.read streams =
        .ok [⟨"<stdin>", [⟨"<stdin>", 1, 1, "'\x01'", .singleQuoted⟩, ⟨"<stdin>", 1, 4, "@", .error⟩]⟩] ∧
      Json.readList Remark.read diagnostics = .ok [⟨"<stdin>", 1, 4, "unrecognized input `@`"⟩] := by
  intro w o
  have success : (run o w).exit = 0 := by decide +kernel
  obtain ⟨lexer, sources, configures, reads, streams, diagnostics, document, streamed, diagnosed⟩ :=
    json_report_decodes.1 o w rfl rfl success
  have supplied : w.Reads w.input o.files [⟨"<stdin>", "'\x01'@".toList⟩] := .input .nil
  obtain rfl := supplied.unique reads
  obtain rfl := configures.unique .standard
  have scanned_eq : Lexer.standard.lex "<stdin>" "'\x01'@".toList =
      ⟨"<stdin>", [⟨"<stdin>", 1, 1, "'\x01'", .singleQuoted⟩, ⟨"<stdin>", 1, 4, "@", .error⟩]⟩ := by decide +kernel
  refine ⟨rfl, rfl, success, streams, diagnostics, document, ?_, ?_⟩
  · rw [streamed, List.map_singleton, scanned_eq]
  · rw [diagnosed, List.flatMap_singleton, scanned_eq]
    decide +kernel

end Command

end TokenScanner
