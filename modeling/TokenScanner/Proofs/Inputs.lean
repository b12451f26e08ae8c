/-
What a run reads.

A file holds a text if reading it gives the bytes of that text in UTF-8. A run needs the text of its configuration, if
it has one, and of every input; the standard input is read at the first path that stands for it and gives nothing after
that. Whether a run gets all it needs is told here by the world alone, without the order of the reading: a path counts
wherever it stands among the inputs.

- `readLexer_cases`: a configuration gives a lexer, or it cannot be read, parsed or made into tables.
- `readSources_cases`: the inputs give a source each, in turn, or one of them cannot be read.
-/
import TokenScanner.Command.Run
import Mathlib.Tactic

namespace TokenScanner.Command

variable {w : World} {input : Except FileError ByteArray} {bytes : ByteArray} {path first : String}
  {paths : List String} {text : List Char}

/-! ## Texts -/

theorem fromUTF8?_toByteArray (s : String) : String.fromUTF8? s.toByteArray = some s := by
  rw [String.fromUTF8?, dif_pos s.isValidUTF8]
  rfl

theorem textOfBytes_eq_ok_iff : textOfBytes bytes = .ok text ↔ bytes = text.utf8Encode := by
  constructor
  · intro h
    unfold textOfBytes String.fromUTF8? at h
    split at h
    next read found =>
      split at found
      next valid =>
        cases found
        obtain rfl := Except.ok.inj h
        exact (@String.utf8Encode_toList (String.fromUTF8 bytes valid)).symm
      next => cases found
    next => cases h
  · rintro rfl
    rw [textOfBytes, ← String.toByteArray_ofList, fromUTF8?_toByteArray]
    simp only [String.toList_ofList]

/-- what was read is a text just if it is the bytes of that text -/
theorem bind_textOfBytes_eq_ok_iff : input >>= textOfBytes = .ok text ↔ input = .ok text.utf8Encode := by
  cases input with
  | error cause => exact ⟨fun h => (nomatch h), fun h => (nomatch h)⟩
  | ok bytes => exact textOfBytes_eq_ok_iff.trans ⟨congrArg Except.ok, Except.ok.inj⟩

namespace World

/-- the file at a path holds the text -/
def Holds (w : World) (path : String) (text : List Char) : Prop :=
  w.read path = .ok text.utf8Encode

theorem holds_iff : w.Holds path text ↔ w.read path >>= textOfBytes = .ok text :=
  bind_textOfBytes_eq_ok_iff.symm

theorem Holds.unique {text' : List Char} (h : w.Holds path text) (h' : w.Holds path text') : text = text' :=
  Except.ok.inj ((holds_iff.1 h).symm.trans (holds_iff.1 h'))

end World

/-! ## The configuration -/

namespace World

/-- the lexer that a run has, without a configuration file or with one -/
inductive Configures (w : World) : Option String → Lexer → Prop where
  | standard : w.Configures none .standard
  | file {path : String} {text : List Char} {config : Config} {lexer : Lexer} (holds : w.Holds path text)
      (parsed : Config.ofJson? text = .ok config) (valid : Lexer.ofConfig? config = .ok lexer) :
      w.Configures (some path) lexer

/-- a configuration file gives no lexer -/
inductive Misconfigures (w : World) (path : String) : Prop where
  /-- it cannot be read -/
  | unreadable (missing : ∀ text, ¬ w.Holds path text)
  /-- it cannot be parsed -/
  | malformed {text : List Char} {cause : Json.Fault} (holds : w.Holds path text)
      (refused : Config.ofJson? text = .error cause)
  /-- it names symbols that make no tables -/
  | invalid {text : List Char} {config : Config} {cause : SymbolError} (holds : w.Holds path text)
      (parsed : Config.ofJson? text = .ok config) (refused : Lexer.ofConfig? config = .error cause)

theorem Configures.not_misconfigures {lexer : Lexer} (h : w.Configures (some path) lexer) :
    ¬ w.Misconfigures path := by
  cases h with
  | file holds parsed valid =>
    intro fault
    cases fault with
    | unreadable missing => exact missing _ holds
    | malformed holds' refused =>
      rw [holds.unique holds', refused] at parsed
      cases parsed
    | invalid holds' parsed' refused =>
      rw [holds.unique holds', parsed'] at parsed
      cases parsed
      rw [refused] at valid
      cases valid

end World

theorem World.Configures.readLexer_eq {config : Option String} {lexer : Lexer} (h : w.Configures config lexer) :
    readLexer w config = .ok lexer := by
  cases h with
  | standard => rfl
  | file holds parsed valid =>
    simp only [readLexer, World.holds_iff.1 holds, parsed, valid]
    rfl

/-- what is read of a configuration does not depend on what can be written -/
theorem World.Configures.with_writing {config : Option String} {lexer : Lexer} (h : w.Configures config lexer)
    (refusal : String → Option FileError) (archiver : Archiver) :
    { w with refusal, archiver }.Configures config lexer := by
  cases h with
  | standard => exact .standard
  | file holds parsed valid => exact .file holds parsed valid

theorem readLexer_cases (w : World) (config : Option String) :
    (∃ lexer, w.Configures config lexer) ∨
      ∃ f path, readLexer w config = .error f ∧ config = some path ∧ w.Misconfigures path := by
  cases config with
  | none => exact Or.inl ⟨_, .standard⟩
  | some path =>
    cases hread : w.read path >>= textOfBytes with
    | error cause =>
      refine Or.inr ⟨.configUnreadable path cause, path, by simp only [readLexer, hread], rfl, .unreadable ?_⟩
      intro text holds
      rw [World.holds_iff.1 holds] at hread
      cases hread
    | ok text =>
      have holds : w.Holds path text := World.holds_iff.2 hread
      cases hparse : Config.ofJson? text with
      | error cause =>
        exact Or.inr ⟨.configMalformed path cause, path, by simp only [readLexer, hread, hparse], rfl,
          .malformed holds hparse⟩
      | ok config =>
        have hmade : readLexer w (some path) = (Lexer.ofConfig? config).mapError .configInvalid := by
          simp only [readLexer, hread, hparse]
        cases hvalid : Lexer.ofConfig? config with
        | error cause =>
          exact Or.inr ⟨.configInvalid cause, path, by rw [hmade, hvalid]; rfl, rfl, .invalid holds hparse hvalid⟩
        | ok lexer => exact Or.inl ⟨lexer, .file holds hparse hvalid⟩

/-! ## The inputs -/

namespace World

/-- the text that a path gives as an input; `input` is what is left of the standard input -/
def Supplies (w : World) (input : Except FileError ByteArray) (path : String) (text : List Char) : Prop :=
  if path = inputPath then input = .ok text.utf8Encode else w.Holds path text

/-- an input cannot be read: no file is found at its path, or the bytes found, or given as the standard input, are not
those of a text -/
def Unreadable (w : World) (path : String) : Prop :=
  ∀ text, ¬ w.Supplies w.input path text

/-- the sources of the inputs at some paths, in turn -/
inductive Reads (w : World) : Except FileError ByteArray → List String → List Source → Prop where
  | nil {input : Except FileError ByteArray} : w.Reads input [] []
  | input {text : List Char} {rest : List String} {sources : List Source} (reads : w.Reads (.ok .empty) rest sources) :
      w.Reads (.ok text.utf8Encode) (inputPath :: rest) (⟨inputName, text⟩ :: sources)
  | file {input : Except FileError ByteArray} {path : String} {text : List Char} {rest : List String}
      {sources : List Source} (hne : path ≠ inputPath) (holds : w.Holds path text)
      (reads : w.Reads input rest sources) : w.Reads input (path :: rest) (⟨path, text⟩ :: sources)

end World

/-- what is left of the standard input after a path -/
def leftOf (input : Except FileError ByteArray) (path : String) : Except FileError ByteArray :=
  if path = inputPath then .ok .empty else input

theorem readSource_eq_ok_iff {source : Source} :
    readSource w input path = .ok source ↔
      w.Supplies input path source.text ∧ source.name = if path = inputPath then inputName else path := by
  obtain ⟨name, text⟩ := source
  unfold readSource World.Supplies
  split
  next =>
    rw [← bind_textOfBytes_eq_ok_iff]
    cases input >>= textOfBytes with
    | error cause => simp
    | ok read => simp [and_comm, eq_comm]
  next =>
    rw [World.holds_iff]
    cases w.read path >>= textOfBytes with
    | error cause => simp
    | ok read => simp [and_comm, eq_comm]

/-- a path that could be read takes nothing from the others: what is left of the standard input is a text -/
theorem supplies_leftOf_iff (h : w.Supplies input first text) :
    (∃ text, w.Supplies (leftOf input first) path text) ↔ ∃ text, w.Supplies input path text := by
  by_cases hfirst : first = inputPath
  · by_cases hpath : path = inputPath
    · -- it is read again: it had a text before, and now has the empty one
      rw [World.Supplies, if_pos hfirst] at h
      simp only [World.Supplies, leftOf, if_pos hfirst, if_pos hpath]
      exact ⟨fun _ => ⟨text, h⟩, fun _ => ⟨[], rfl⟩⟩
    · simp only [World.Supplies, if_neg hpath]
  · rw [leftOf, if_neg hfirst]

theorem readSources_cons (w : World) (input : Except FileError ByteArray) (path : String) (paths : List String) :
    readSources w input (path :: paths) =
      match readSource w input path with
      | .error f => ([], some f)
      | .ok source =>
        (source :: (readSources w (leftOf input path) paths).1, (readSources w (leftOf input path) paths).2) := rfl

/-- all inputs are read just if there is a text for each of them at the start -/
theorem readSources_eq_none_iff (w : World) (input : Except FileError ByteArray) (paths : List String) :
    (readSources w input paths).2 = none ↔ ∀ path ∈ paths, ∃ text, w.Supplies input path text := by
  induction paths generalizing input with
  | nil => exact ⟨fun _ => List.forall_mem_nil _, fun _ => rfl⟩
  | cons first rest ih =>
    rw [readSources_cons, List.forall_mem_cons]
    cases hread : readSource w input first with
    | error f =>
      refine ⟨fun h => (nomatch h), fun ⟨⟨text, supplies⟩, _⟩ => ?_⟩
      rw [(@readSource_eq_ok_iff w input first ⟨_, text⟩).2 ⟨supplies, rfl⟩] at hread
      cases hread
    | ok source =>
      -- what the rest asks of what is left is what it asks of the whole
      have supplies := (readSource_eq_ok_iff.1 hread).1
      simp only [ih, supplies_leftOf_iff supplies]
      exact ⟨fun h => ⟨⟨_, supplies⟩, h⟩, And.right⟩

theorem readSources_reads (h : (readSources w input paths).2 = none) :
    w.Reads input paths (readSources w input paths).1 := by
  induction paths generalizing input with
  | nil => exact .nil
  | cons first rest ih =>
    rw [readSources_cons] at h ⊢
    cases hread : readSource w input first with
    | error f =>
      rw [hread] at h
      cases h
    | ok source =>
      rw [hread] at h
      have reads := ih h
      obtain ⟨name, text⟩ := source
      obtain ⟨supplies, rfl⟩ := readSource_eq_ok_iff.1 hread
      unfold World.Supplies at supplies
      by_cases hfirst : first = inputPath
      · subst hfirst
        obtain rfl : input = .ok text.utf8Encode := supplies
        exact .input reads
      · simp only [leftOf, if_neg hfirst] at supplies reads ⊢
        exact .file hfirst supplies reads

theorem World.Reads.readSources_eq {sources : List Source} (h : w.Reads input paths sources) :
    readSources w input paths = (sources, none) := by
  induction h with
  | nil => rfl
  | @input text rest sources reads ih =>
    have hread : readSource w (.ok text.utf8Encode) inputPath = .ok ⟨inputName, text⟩ :=
      readSource_eq_ok_iff.2 ⟨rfl, rfl⟩
    rw [readSources_cons, hread, leftOf, if_pos rfl, ih]
  | @file input path text rest sources hne holds reads ih =>
    have hread : readSource w input path = .ok ⟨path, text⟩ := by
      rw [readSource_eq_ok_iff, World.Supplies, if_neg hne, if_neg hne]
      exact ⟨holds, rfl⟩
    rw [readSources_cons, hread, leftOf, if_neg hne, ih]

/-- a configuration has one lexer -/
theorem World.Configures.unique {config : Option String} {lexer lexer' : Lexer} (h : w.Configures config lexer)
    (h' : w.Configures config lexer') : lexer = lexer' :=
  Except.ok.inj (h.readLexer_eq.symm.trans h'.readLexer_eq)

/-- inputs have one list of sources -/
theorem World.Reads.unique {sources sources' : List Source} (h : w.Reads input paths sources)
    (h' : w.Reads input paths sources') : sources = sources' :=
  (Prod.mk.inj (h.readSources_eq.symm.trans h'.readSources_eq)).1

theorem World.Reads.with_writing {sources : List Source} (h : w.Reads input paths sources)
    (refusal : String → Option FileError) (archiver : Archiver) :
    { w with refusal, archiver }.Reads input paths sources := by
  induction h with
  | nil => exact .nil
  | input reads ih => exact .input ih
  | file hne holds reads ih => exact .file hne holds ih

theorem readSources_cases (w : World) (paths : List String) :
    (∃ sources, w.Reads w.input paths sources) ∨
      ∃ sources f path, readSources w w.input paths = (sources, some f) ∧ path ∈ paths ∧ w.Unreadable path := by
  have hnone := readSources_eq_none_iff w w.input paths
  cases hread : (readSources w w.input paths).2 with
  | none => exact Or.inl ⟨_, readSources_reads hread⟩
  | some f =>
    have missing : ¬ ∀ path ∈ paths, ∃ text, w.Supplies w.input path text := by
      intro supplied
      rw [hnone.2 supplied] at hread
      cases hread
    push Not at missing
    obtain ⟨path, listed, unreadable⟩ := missing
    exact Or.inr ⟨_, f, path, Prod.ext rfl hread, listed, unreadable⟩

end TokenScanner.Command
