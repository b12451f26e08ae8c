/-
Plain archives are read as they were written.

Each part of an archive is written so that it ends by itself: a number by its last byte, a list by the number of its
items, a kind after one byte. So a reader of a part takes off the start of the bytes what the writer of that part put
there, whatever follows (`Unpacks`), and readers put together from such readers do so too.

- `PlainArchive.unpacks_token`, `PlainArchive.unpacks_stream`: tokens and streams are read back from the start of any
  bytes.
- `PlainArchive.decode?_encode`: an archive gives back its streams.
- `Archiver.plain_faithful`, `Archiver.plain_accepts`: the plain archiver meets the premises on archivers.
-/
import TokenScanner.Archiver.Plain

namespace TokenScanner

namespace PlainArchive

/-- what is written is read off the start of the bytes, whatever follows it -/
def Unpacks {α : Type} (read? : List UInt8 → Option (α × List UInt8)) (write : α → List UInt8) : Prop :=
  ∀ a rest, read? (write a ++ rest) = some (a, rest)

theorem unpacks_text : Unpacks text? text := text?_text

theorem Unpacks.list {α : Type} {read? : List UInt8 → Option (α × List UInt8)} {write : α → List UInt8}
    (h : Unpacks read? write) : Unpacks (list? read?) (list write) :=
  list?_list h

theorem unpacks_word : Unpacks word? fun n => natural n.toNat := by
  intro n rest
  have small : n.toNat < UInt32.size := n.toNat_lt
  simp only [word?, natural?_natural, Option.bind_eq_bind, Option.bind_some, small, if_true, UInt32.ofNat_toNat]
  rfl

theorem unpacks_kind : Unpacks kind? fun k => [k.code] := by
  intro k rest
  rw [List.singleton_append, kind?, Kind.ofCode?_code, Option.map_some]

/-- **A token is read off the start of the bytes.** -/
theorem unpacks_token : Unpacks token? token := by
  intro t rest
  have file := unpacks_text t.file
  have line := unpacks_word t.line
  have column := unpacks_word t.column
  have lexeme := unpacks_text t.lexeme
  have kind := unpacks_kind t.kind
  simp only [token?, token, List.append_assoc, file, line, column, lexeme, kind, Option.bind_eq_bind, Option.bind_some]
  rfl

/-- **A stream is read off the start of the bytes.** -/
theorem unpacks_stream : Unpacks stream? stream := by
  intro s rest
  have file := unpacks_text s.file
  have tokens := unpacks_token.list s.tokens
  simp only [stream?, stream, List.append_assoc, file, tokens, Option.bind_eq_bind, Option.bind_some]
  rfl

/-- **An archive gives back its streams.** -/
theorem decode?_encode (streams : List TokenStream) : decode? (encode streams) = some streams := by
  have unmarked : unmarked? (encode streams) = some (list stream streams ++ []) := by
    rw [List.append_nil]
    rfl
  rw [decode?, unmarked]
  simp only [Option.bind_eq_bind, Option.bind_some, unpacks_stream.list streams []]
  rfl

end PlainArchive

namespace Archiver

/-- **The plain archiver decodes what it made.** -/
theorem plain_faithful : plain.Faithful := by
  intro streams bytes made _
  obtain rfl : PlainArchive.encode streams = bytes := Except.ok.inj made
  exact PlainArchive.decode?_encode streams

/-- **The plain archiver takes all streams.** -/
theorem plain_accepts (streams : List TokenStream) : plain.Accepts streams := by
  refine ⟨_, rfl, ?_⟩
  simp only [plain, PlainArchive.decode?_encode, Option.isSome_some, if_true]

end Archiver

end TokenScanner
