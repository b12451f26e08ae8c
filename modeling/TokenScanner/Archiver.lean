/-
What makes archives.

An archive holds the streams of a run as bytes. How the bytes are laid out is left to the library that makes archives,
and a run knows no more of that library than it calls: it has the streams serialized, and has the bytes validated before
it writes them, and either may fail. So the library is a parameter of a run, an `Archiver`. That it makes the same bytes
of the same streams is in its type; two premises on it have a name, and what rests on them says so:
- `Archiver.Accepts`: it serializes these streams to bytes that it validates;
- `Archiver.Faithful`: what it serialized, if it validates, it decodes to the same streams.
-/
import TokenScanner.Token

namespace TokenScanner

/-- a library that makes archives of streams; why it fails is said in its own words -/
structure Archiver where
  /-- the bytes of an archive that holds the streams -/
  serialize : List TokenStream → Except String (List UInt8)
  /-- the check that readers make before they decode -/
  validate : List UInt8 → Except String Unit
  /-- the streams of an archive -/
  decode? : List UInt8 → Option (List TokenStream)

namespace Archiver

/-- the archiver serializes the streams, and validates what it made -/
def Accepts (a : Archiver) (streams : List TokenStream) : Prop :=
  ∃ bytes, a.serialize streams = .ok bytes ∧ a.validate bytes = .ok ()

/-- the archiver decodes what it serialized, if that is valid -/
def Faithful (a : Archiver) : Prop :=
  ∀ streams bytes, a.serialize streams = .ok bytes → a.validate bytes = .ok () → a.decode? bytes = some streams

end Archiver

end TokenScanner
