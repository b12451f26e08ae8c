/-
A plain archiver.

It is an archiver for where no library is at hand that makes archives: one layout among those an archiver may have, and
nothing that is proved of runs rests on it. It takes all streams, and takes for an archive what it can decode.

An archive starts with a mark, and then holds whole numbers to the base 128, lowest digit first, every byte but the last
of a number marked by its highest bit. A text is the number of its characters and their code points; a list is the
number of its items and the items; a kind is its code of one byte. Nothing may follow the streams.

- `PlainArchive.natural?_natural`, `PlainArchive.text?_text`: a number and a text are read back from what is written,
  whatever follows.
- `Archiver.plain`: the archiver.
-/
import TokenScanner.Archiver

namespace TokenScanner

namespace PlainArchive

/-! ## Numbers -/

/-- a number -/
def natural (n : Nat) : List UInt8 :=
  if n < 128 then [UInt8.ofNat n] else UInt8.ofNat (n % 128 + 128) :: natural (n / 128)

/-- the number at the start of the bytes, and the bytes after it -/
def natural? : List UInt8 → Option (Nat × List UInt8)
  | [] => none
  | b :: rest =>
    if b.toNat < 128 then some (b.toNat, rest)
    else (natural? rest).map fun (n, rest) => (b.toNat - 128 + 128 * n, rest)

theorem natural?_natural (n : Nat) (rest : List UInt8) : natural? (natural n ++ rest) = some (n, rest) := by
  induction n using Nat.strongRecOn with
  | ind n ih =>
    rw [natural]
    split
    next h =>
      have value : (UInt8.ofNat n).toNat = n := by rw [UInt8.toNat_ofNat']; omega
      simp only [List.cons_append, List.nil_append, natural?, value, h, if_true]
    next h =>
      have value : (UInt8.ofNat (n % 128 + 128)).toNat = n % 128 + 128 := by rw [UInt8.toNat_ofNat']; omega
      have large : ¬ n % 128 + 128 < 128 := by omega
      simp only [List.cons_append, natural?, value, large, if_false, ih (n / 128) (by omega), Option.map_some,
        Option.some.injEq, Prod.mk.injEq, and_true]
      omega

/-! ## Lists and texts -/

/-- a list of items -/
def list {α : Type} (item : α → List UInt8) (items : List α) : List UInt8 :=
  natural items.length ++ items.flatMap item

/-- that many items at the start of the bytes, and the bytes after them -/
def times? {α : Type} (item? : List UInt8 → Option (α × List UInt8)) :
    Nat → List UInt8 → Option (List α × List UInt8)
  | 0, bytes => some ([], bytes)
  | n + 1, bytes => do
    let (a, bytes) ← item? bytes
    let (rest, bytes) ← times? item? n bytes
    return (a :: rest, bytes)

/-- the list at the start of the bytes, and the bytes after it -/
def list? {α : Type} (item? : List UInt8 → Option (α × List UInt8)) (bytes : List UInt8) :
    Option (List α × List UInt8) := do
  let (n, bytes) ← natural? bytes
  times? item? n bytes

/-- the character at the start of the bytes, and the bytes after it -/
def char? (bytes : List UInt8) : Option (Char × List UInt8) := do
  let (n, bytes) ← natural? bytes
  if n.isValidChar then return (Char.ofNat n, bytes) else none

/-- a text -/
def text (s : String) : List UInt8 :=
  list (fun c => natural c.toNat) s.toList

/-- the text at the start of the bytes, and the bytes after it -/
def text? (bytes : List UInt8) : Option (String × List UInt8) :=
  (list? char? bytes).map fun (chars, bytes) => (String.ofList chars, bytes)

theorem times?_flatMap {α : Type} {item : α → List UInt8} {item? : List UInt8 → Option (α × List UInt8)}
    (h : ∀ a rest, item? (item a ++ rest) = some (a, rest)) (items : List α) (rest : List UInt8) :
    times? item? items.length (items.flatMap item ++ rest) = some (items, rest) := by
  induction items with
  | nil => rfl
  | cons a tail ih => simp [times?, h, ih]

theorem list?_list {α : Type} {item : α → List UInt8} {item? : List UInt8 → Option (α × List UInt8)}
    (h : ∀ a rest, item? (item a ++ rest) = some (a, rest)) (items : List α) (rest : List UInt8) :
    list? item? (list item items ++ rest) = some (items, rest) := by
  simp [list?, list, List.append_assoc, natural?_natural, times?_flatMap h]

theorem char?_natural (c : Char) (rest : List UInt8) : char? (natural c.toNat ++ rest) = some (c, rest) := by
  have valid : c.toNat.isValidChar := c.valid
  simp [char?, natural?_natural, valid, Char.ofNat_toNat]

theorem text?_text (s : String) (rest : List UInt8) : text? (text s ++ rest) = some (s, rest) := by
  simp [text?, text, list?_list char?_natural]

/-! ## Tokens and streams -/

/-- a token -/
def token (t : Token) : List UInt8 :=
  text t.file ++ natural t.line.toNat ++ natural t.column.toNat ++ text t.lexeme ++ [t.kind.code]

/-- the number of 32 bits at the start of the bytes, and the bytes after it -/
def word? (bytes : List UInt8) : Option (UInt32 × List UInt8) := do
  let (n, bytes) ← natural? bytes
  if n < UInt32.size then return (UInt32.ofNat n, bytes) else none

/-- the kind at the start of the bytes, and the bytes after it -/
def kind? : List UInt8 → Option (Kind × List UInt8)
  | [] => none
  | code :: bytes => (Kind.ofCode? code).map fun k => (k, bytes)

/-- the token at the start of the bytes, and the bytes after it -/
def token? (bytes : List UInt8) : Option (Token × List UInt8) := do
  let (file, bytes) ← text? bytes
  let (line, bytes) ← word? bytes
  let (column, bytes) ← word? bytes
  let (lexeme, bytes) ← text? bytes
  let (kind, bytes) ← kind? bytes
  return (⟨file, line, column, lexeme, kind⟩, bytes)

/-- a stream -/
def stream (s : TokenStream) : List UInt8 :=
  text s.file ++ list token s.tokens

/-- the stream at the start of the bytes, and the bytes after it -/
def stream? (bytes : List UInt8) : Option (TokenStream × List UInt8) := do
  let (file, bytes) ← text? bytes
  let (tokens, bytes) ← list? token? bytes
  return (⟨file, tokens⟩, bytes)

/-! ## Archives -/

/-- the mark at the start of an archive; its first byte starts no text -/
def mark : List UInt8 :=
  [0xFF, 0x54, 0x53, 0x01]

/-- the archive of some streams -/
def encode (streams : List TokenStream) : List UInt8 :=
  mark ++ list stream streams

/-- the bytes after the mark -/
def unmarked? : List UInt8 → Option (List UInt8)
  | 0xFF :: 0x54 :: 0x53 :: 0x01 :: bytes => some bytes
  | _ => none

/-- the streams of an archive -/
def decode? (bytes : List UInt8) : Option (List TokenStream) := do
  let body ← unmarked? bytes
  let (streams, rest) ← list? stream? body
  if rest.isEmpty then return streams else none

end PlainArchive

/-- the archiver of plain archives -/
def Archiver.plain : Archiver where
  serialize streams := .ok (PlainArchive.encode streams)
  validate bytes := if (PlainArchive.decode? bytes).isSome then .ok () else .error "NotAnArchive"
  decode? := PlainArchive.decode?

end TokenScanner
