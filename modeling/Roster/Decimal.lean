/-!
# Decimals that read back

A floating-point number in a message is written with the fewest digits that read back as the same
number.

A binary floating-point number stands for every real that rounds to it.  Among the decimals in
that interval this file finds the one with the fewest digits, and of two with equally few the
nearer one.

The search is exact.  A finite number is `significand * 2 ^ exponent`; both ends of its interval
are multiples of `2 ^ (exponent - 2)`, so every comparison is one of natural numbers.  A decimal
with `n` digits lies on a grid of step `10 ^ k`, and if any point of that grid is in the interval
then so is one of the two neighbours of the number itself.

* `Decimal` — a natural number times a power of ten.
* `Binary` — a finite number taken apart, and `Binary.ofFloat`.
* `Binary.shortest` — the decimal described above.
* `Decimal.ofFloat` — the text of a finite floating-point number.
-/

set_option autoImplicit false

namespace Roster

/-- A decimal magnitude `digits * 10 ^ exponent`. -/
structure Decimal where
  digits : Nat
  exponent : Int

namespace Decimal

/-- A finite binary number: a sign, and the magnitude `significand * 2 ^ exponent`.  `lowest` is
set when the next smaller magnitude is only half as far away as the next larger one, which is so
at a power of two. -/
structure Binary where
  negative : Bool
  significand : Nat
  exponent : Int
  lowest : Bool

/-- The sign, significand and exponent of a finite double. -/
def Binary.ofFloat (x : Float) : Binary :=
  let bits := x.toBits.toNat
  let fraction : Nat := bits % Nat.pow 2 52
  let power : Nat := bits / Nat.pow 2 52 % Nat.pow 2 11
  let negative := bits / Nat.pow 2 63 == 1
  if power = 0 then ⟨negative, fraction, -1074, false⟩
  else ⟨negative, Nat.pow 2 52 + fraction, (power : Int) - 1075, fraction == 0 && power != 1⟩

/-- How many decimal digits a natural number has. -/
def digitCount (n : Nat) : Nat := (Nat.toDigits 10 n).length

/-- The exponent of the leading decimal digit of `num / den`, both positive. -/
def leadingExponent (num den : Nat) : Int :=
  if den ≤ num then digitCount (num / den) - 1
  else -(digitCount ((den + num - 1) / num - 1) : Int)

/-- The fraction `num / den` divided by `10 ^ k`. -/
def scaleDown (num den : Nat) (k : Int) : Nat × Nat :=
  if 0 ≤ k then (num, den * Nat.pow 10 k.toNat) else (num * Nat.pow 10 (-k).toNat, den)

/-- The interval of reals that round to a magnitude, as numerators over one denominator: the
magnitude itself, the lower end and the upper end. -/
structure Interval where
  middle : Nat
  lower : Nat
  upper : Nat
  denominator : Nat
  closed : Bool

/-- The reals that round to a number.  The ends belong to it exactly when its significand is
even. -/
def Binary.interval (b : Binary) : Interval :=
  let quarter := b.exponent - 2
  let factor := if 0 ≤ quarter then Nat.pow 2 quarter.toNat else 1
  { middle := 4 * b.significand * factor
    lower := (4 * b.significand - if b.lowest then 1 else 2) * factor
    upper := (4 * b.significand + 2) * factor
    denominator := if 0 ≤ quarter then 1 else Nat.pow 2 (-quarter).toNat
    closed := b.significand % 2 == 0 }

/-- Whether a decimal lies in an interval. -/
def Interval.contains (i : Interval) (d : Decimal) : Bool :=
  let low := scaleDown i.lower i.denominator d.exponent
  let high := scaleDown i.upper i.denominator d.exponent
  if i.closed then low.1 ≤ d.digits * low.2 && d.digits * high.2 ≤ high.1
  else low.1 < d.digits * low.2 && d.digits * high.2 < high.1

/-- The decimal of the grid `10 ^ k` that lies in the interval and is nearest to its middle, if
there is one.  Of two equally near the even one is taken. -/
def Interval.onGrid (i : Interval) (k : Int) : Option Decimal :=
  let (num, den) := scaleDown i.middle i.denominator k
  let below : Decimal := ⟨num / den, k⟩
  let above : Decimal := ⟨num / den + 1, k⟩
  let twice := 2 * (num % den)
  let first := if twice < den || (twice == den && below.digits % 2 == 0) then below else above
  let second := if first.digits = below.digits then above else below
  if i.contains first then some first else if i.contains second then some second else none

/-- The first grid, from the coarsest on, that has a decimal in the interval.  Seventeen digits
always suffice for a double. -/
def Interval.coarsest (i : Interval) (lead : Int) : Nat → Nat → Decimal
  | 0, n => ((i.onGrid (lead + 1 - n)).getD ⟨0, 0⟩)
  | more + 1, n => (i.onGrid (lead + 1 - n)).getD (i.coarsest lead more (n + 1))

/-- The shortest decimal that reads back as the magnitude of a finite number. -/
def Binary.shortest (b : Binary) : Decimal :=
  if b.significand = 0 then ⟨0, 0⟩
  else b.interval.coarsest (leadingExponent b.interval.middle b.interval.denominator) 16 1

/-! ## Notation

The point stands among the digits while the leading digit has an exponent from `-5` to `15`, and a
whole number keeps one zero after the point; beyond that the number is written with an exponent,
which has a sign and no leading zeros. -/

/-- The digits of a decimal without the zeros at their end. -/
def significantDigits (n : Nat) : List Char :=
  ((Nat.toDigits 10 n).reverse.dropWhile (· == '0')).reverse

/-- Digits with the decimal point before the digit of index `point`. -/
def positional (digits : List Char) (point : Int) : List Char :=
  if point ≤ 0 then ['0', '.'] ++ List.replicate (-point).toNat '0' ++ digits
  else if digits.length ≤ point.toNat then
    digits ++ List.replicate (point.toNat - digits.length) '0' ++ ['.', '0']
  else digits.take point.toNat ++ '.' :: digits.drop point.toNat

/-- Digits with the point after the first, and the exponent of that first digit. -/
def scientific (digits : List Char) (exponent : Int) : List Char :=
  let mantissa := match digits with
    | [] => []
    | [d] => [d]
    | d :: ds => d :: '.' :: ds
  mantissa ++ ['e', if exponent < 0 then '-' else '+'] ++ Nat.toDigits 10 exponent.natAbs

/-- A decimal magnitude in the notation that its size asks for. -/
def written (d : Decimal) : List Char :=
  if d.digits = 0 then ['0', '.', '0']
  else
    let point := (digitCount d.digits : Int) + d.exponent
    if -5 < point ∧ point ≤ 16 then positional (significantDigits d.digits) point
    else scientific (significantDigits d.digits) (point - 1)

/-- The text of a finite floating-point number. -/
def ofFloat (x : Float) : String :=
  let b := Binary.ofFloat x
  String.ofList ((if b.negative then ['-'] else []) ++ written b.shortest)

end Decimal
end Roster
