/-
The shortest decimal that reads back as a binary floating-point number.

A number of 64 bits is m · 2^q. The reals that round to it form an interval around it, ends included when m is even. Of
the grids of multiples of a power of ten, the coarsest with a point in the interval is taken, and on it the point
nearest to the number; of two equally near ones the even one. All of it is done in whole numbers.
-/

namespace TokenScanner

/-- `digits` times ten to the power `exponent` -/
structure Decimal where
  digits : Nat
  exponent : Int
  deriving DecidableEq, Repr

/-- a positive number and the interval that rounds to it, all three as multiples of `scale` -/
structure Binary where
  value : Nat
  low : Nat
  high : Nat
  /-- the ends of the interval belong to it -/
  closed : Bool
  /-- the power of two that all three are multiples of -/
  scale : Int
  deriving DecidableEq, Repr

namespace Binary

/-- the number with that mantissa and exponent; `lowest` tells that numbers below it are half as far apart -/
def ofParts (mantissa : Nat) (exponent : Int) (lowest : Bool) : Binary where
  value := 4 * mantissa
  low := 4 * mantissa - if lowest then 1 else 2
  high := 4 * mantissa + 2
  closed := mantissa % 2 == 0
  scale := exponent - 2

/-- the parts of a finite number, without its sign -/
def ofFloat (x : Float) : Binary :=
  let fraction : Nat := (x.toBits &&& 0xFFFFFFFFFFFFF).toNat
  let field : Nat := (x.toBits >>> 52 &&& 0x7FF).toNat
  if field = 0 then ofParts fraction (-1074) false
  else ofParts (0x10000000000000 + fraction) ((field : Int) - 1075) (fraction == 0 && field != 1)

/-- how many of the smaller units make up one of the larger: the factors that bring multiples of `scale` and of ten to
the power `k` to a common unit -/
def factors (b : Binary) (k : Int) : Nat × Nat :=
  (Nat.pow 2 b.scale.toNat * Nat.pow 10 (-k).toNat, Nat.pow 2 (-b.scale).toNat * Nat.pow 10 k.toNat)

/-- the point of the grid of ten to the power `k` that is in the interval and nearest to the number -/
def gridPoint? (b : Binary) (k : Int) : Option Nat :=
  let (binary, decimal) := b.factors k
  let value := b.value * binary
  let inside := fun (n : Nat) =>
    if b.closed then b.low * binary ≤ n * decimal ∧ n * decimal ≤ b.high * binary
    else b.low * binary < n * decimal ∧ n * decimal < b.high * binary
  let below := value / decimal
  let above := below + 1
  let toBelow := value - below * decimal
  let toAbove := above * decimal - value
  if inside below then
    if inside above ∧ (toAbove < toBelow ∨ (toAbove = toBelow ∧ above % 2 = 0)) then some above else some below
  else if inside above then some above
  else none

/-- the powers of ten whose grids are tried, coarse ones first; the last is finer than every number -/
def grids : List Int :=
  (List.range 650).map fun (i : Nat) => 309 - (i : Int)

end Binary

/-- the shortest decimal that reads back as a positive finite number -/
def Decimal.shortest (x : Float) : Decimal :=
  let b := Binary.ofFloat x
  (Binary.grids.findSome? fun k => (b.gridPoint? k).map (⟨·, k⟩)).getD ⟨0, 0⟩

end TokenScanner
