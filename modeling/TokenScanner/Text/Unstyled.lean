/-
Text without its control sequences.

A text that is meant for a terminal may hold sequences that set a colour or a title or move the cursor: an escape, and
what follows it up to the end of the sequence. Where there is no such terminal, the text is shown without them and
without its other control characters, white space apart. The white space inside a sequence is shown too, and so is the
text after it up to the next control character, where the sequence goes on.
-/

namespace TokenScanner.Text

/-- the control characters that are white space: tab, line feed, form feed and carriage return -/
def isLayout (c : Char) : Bool :=
  c == '\t' || c == '\n' || c == '\x0c' || c == '\r'

/-- the character is shown outside of sequences -/
def isShown (c : Char) : Bool :=
  isLayout c || (0x20 ≤ c.toNat && c.toNat != 0x7F)

/-- the character lies in a range of code points, its ends included -/
def isWithin (first last : Nat) (c : Char) : Bool :=
  first ≤ c.toNat && c.toNat ≤ last

/-- the characters that let a sequence go on -/
def isIntermediate : Char → Bool :=
  isWithin 0x20 0x2F

/-- the digits, separators and marks of the parameters of a sequence -/
def isParameter : Char → Bool :=
  isWithin 0x30 0x3F

/-- the characters that end the head of a sequence -/
def isFinal : Char → Bool :=
  isWithin 0x40 0x7E

/-- the character is written with the byte that ends strings, though that byte is only a part of it -/
def endsString (c : Char) : Bool :=
  (String.utf8EncodeChar c).contains 0x9C

/-- where a text stands -/
inductive Context where
  /-- in no sequence -/
  | plain
  /-- after an escape -/
  | escape
  /-- after an escape and intermediate characters -/
  | intermediate
  /-- in a control sequence, which ends at a final character -/
  | control
  /-- in a command to the system of the terminal, which ends at a bell -/
  | command
  /-- at the head of a string for a device, which a final character ends -/
  | device
  /-- among the parameters in that head -/
  | deviceParameters
  /-- among the intermediate characters in that head -/
  | deviceIntermediate
  /-- in the text of a string, which ends at a byte of its own -/
  | string
  deriving DecidableEq, Repr

namespace Context

/-- the character after an escape: it opens a longer sequence, or is the whole rest of it -/
def afterEscape (c : Char) : Context :=
  if c = '[' then control
  else if c = ']' then command
  else if c = 'P' then device
  else if c = 'X' ∨ c = '^' ∨ c = '_' then string
  else if isIntermediate c then intermediate
  else if isParameter c || isFinal c then plain
  else escape

/-- where the text stands after one character more; an escape starts a sequence and a cancel ends one, wherever they
stand -/
def step (context : Context) (c : Char) : Context :=
  if c = '\x1b' then escape
  else if c = '\x18' ∨ c = '\x1a' then plain
  else
    match context with
    | plain => plain
    | escape => afterEscape c
    | intermediate => if isParameter c || isFinal c then plain else intermediate
    | control => if isFinal c then plain else control
    | command => if c = '\x07' then plain else command
    | device =>
      if isIntermediate c then deviceIntermediate
      else if isParameter c then deviceParameters
      else if isFinal c then string
      else device
    | deviceParameters =>
      if isIntermediate c then deviceIntermediate
      else if isWithin 0x3C 0x7E c then string
      else deviceParameters
    | deviceIntermediate => if isParameter c || isFinal c then string else deviceIntermediate
    | string => if endsString c then plain else string

/-- the character is shown where the text stands -/
def shows (context : Context) (c : Char) : Bool :=
  match context with
  | plain => isShown c
  | escape | intermediate | control => isLayout c
  | command | device | deviceParameters | deviceIntermediate | string => false

end Context

/-- what is shown of a text; `running` tells that the character before it is shown -/
def shownFrom (context : Context) (running : Bool) : List Char → List Char
  | [] => []
  | c :: rest =>
    if running && isShown c then c :: shownFrom (if c.toNat < 0x80 then context else .plain) true rest
    else if context.shows c then c :: shownFrom (context.step c) true rest
    else shownFrom (context.step c) false rest

/-- the text without its control sequences -/
def unstyled (text : List Char) : List Char :=
  shownFrom .plain false text

end TokenScanner.Text
