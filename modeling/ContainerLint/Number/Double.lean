/-
Binary floating-point numbers of double precision, by exact arithmetic on
naturals. A finite number is a significand times a power of two. Reading a decimal
rounds to the nearest such number, ties to the even significand; writing one picks
the fewest decimal digits that read back to it, so the two agree by construction.
Sums and products are exact before they are rounded.
-/
namespace ContainerLint

/-- A number of double precision. -/
inductive Double where
  /-- The value that is no number. -/
  | nan
  /-- Beyond the largest number, on either side. -/
  | infinite (negative : Bool)
  /-- The value `significand * 2 ^ exponent`, with a sign of its own so that zero has one. -/
  | finite (negative : Bool) (significand : Nat) (exponent : Int)
  deriving Repr, DecidableEq

namespace Double

/-! ## Rounding -/

/-- The quotient rounded to the nearest natural, ties to the even one. -/
def roundedQuotient (p q : Nat) : Nat :=
  let floor := p / q
  let twice := 2 * (p % q)
  if twice < q then floor
  else if twice == q then floor + floor % 2
  else floor + 1

/-- The least exponent of a number. -/
def leastExponent : Int := -1074

/-- The greatest exponent of a number. -/
def greatestExponent : Int := 971

/-- The fraction `p / (q * 2 ^ e)` rounded to a natural. -/
def scaledQuotient (p q : Nat) (e : Int) : Nat :=
  if e < 0 then roundedQuotient (p * Nat.pow 2 e.natAbs) q
  else roundedQuotient p (q * Nat.pow 2 e.natAbs)

/-- The number nearest to a fraction whose denominator is not zero. -/
def ofFraction (negative : Bool) (p q : Nat) : Double :=
  if p == 0 then .finite negative 0 leastExponent
  else
    let estimate : Int := (p.log2 : Int) - (q.log2 : Int) - 52
    let fits := scaledQuotient p q (estimate - 1) < Nat.pow 2 53
    let e := max leastExponent (if fits then estimate - 1 else estimate)
    let m := scaledQuotient p q e
    let (m, e) := if m == Nat.pow 2 53 then (Nat.pow 2 52, e + 1) else (m, e)
    if e > greatestExponent then .infinite negative else .finite negative m e

/-- The number of decimal digits of a natural; zero has none. -/
def digitCount (n : Nat) : Nat :=
  if n == 0 then 0 else (Nat.toDigits 10 n).length

/-- The number nearest to `digits * 10 ^ exponent`. Powers of ten far outside the
range decide the result without being computed. -/
def ofDecimal (negative : Bool) (digits : Nat) (exponent : Int) : Double :=
  let magnitude := (digitCount digits : Int) + exponent
  if digits == 0 || magnitude < -330 then .finite negative 0 leastExponent
  else if magnitude > 320 then .infinite negative
  else if exponent < 0 then ofFraction negative digits (Nat.pow 10 exponent.natAbs)
  else ofFraction negative (digits * Nat.pow 10 exponent.natAbs) 1

/-- The same number with the other sign. -/
def negate : Double → Double
  | .nan => .nan
  | .infinite negative => .infinite (!negative)
  | .finite negative m e => .finite (!negative) m e

/-- The number has the value of an integer. -/
def equalsInt : Double → Int → Bool
  | .finite negative m e, n =>
    let signed : Int := if negative then -(m : Int) else m
    let power : Int := (Nat.pow 2 e.natAbs : Nat)
    if e < 0 then signed == n * power else signed * power == n
  | _, _ => false

/-- The two numbers have the same value; the value that is no number is the same as
itself. -/
def same : Double → Double → Bool
  | .nan, .nan => true
  | .infinite a, .infinite b => a == b
  | .finite a m e, .finite b n f =>
    let low := min e f
    (m == 0 && n == 0) ||
      (a == b && m * Nat.pow 2 (e - low).natAbs == n * Nat.pow 2 (f - low).natAbs)
  | _, _ => false

/-- The number is zero, of either sign. -/
def isZero : Double → Bool
  | .finite _ m _ => m == 0
  | _ => false

/-! ## Arithmetic -/

/-- The number nearest to the integer `n * 2 ^ e`; zero takes the given sign. -/
def ofScaled (negativeZero : Bool) (n : Int) (e : Int) : Double :=
  let negative := if n == 0 then negativeZero else n < 0
  if e < 0 then ofFraction negative n.natAbs (Nat.pow 2 e.natAbs)
  else ofFraction negative (n.natAbs * Nat.pow 2 e.natAbs) 1

/-- The number nearest to a natural. -/
def ofNat (n : Nat) : Double :=
  ofFraction false n 1

/-- A significand with its sign, at a smaller exponent. -/
def signedAt (negative : Bool) (m : Nat) (e low : Int) : Int :=
  let scaled : Int := (m * Nat.pow 2 (e - low).natAbs : Nat)
  if negative then -scaled else scaled

/-- The sum, rounded. -/
def add : Double → Double → Double
  | .nan, _ | _, .nan => .nan
  | .infinite a, .infinite b => if a == b then .infinite a else .nan
  | .infinite a, _ | _, .infinite a => .infinite a
  | .finite a m e, .finite b n f =>
    let low := min e f
    ofScaled (a && b) (signedAt a m e low + signedAt b n f low) low

/-- The product, rounded. -/
def mul : Double → Double → Double
  | .nan, _ | _, .nan => .nan
  | .infinite a, .infinite b => .infinite (a != b)
  | .infinite a, .finite b n _ | .finite b n _, .infinite a =>
    if n == 0 then .nan else .infinite (a != b)
  | .finite a m e, .finite b n f =>
    ofScaled (a != b) (if a != b then -(m * n : Int) else (m * n : Int)) (e + f)

/-! ## The fewest digits -/

/-- The fraction, as numerator and denominator, of a finite magnitude. -/
def fraction (m : Nat) (e : Int) : Nat × Nat :=
  if e < 0 then (m, Nat.pow 2 e.natAbs) else (m * Nat.pow 2 e.natAbs, 1)

/-- The least power of ten above a fraction, searched upward from `start`. -/
def scaleFrom (p q : Nat) (start : Int) : Nat → Int
  | 0 => start
  | fuel + 1 =>
    let power := Nat.pow 10 start.natAbs
    let below := if start < 0 then p * power < q else p < q * power
    if below then start else scaleFrom p q (start + 1) fuel

/-- The decimal point of a magnitude: the least `k` with the magnitude below `10 ^ k`. -/
def decimalPoint (p q : Nat) : Int :=
  let estimate := (((p.log2 : Int) - (q.log2 : Int)) * 30103).fdiv 100000 - 2
  scaleFrom p q estimate 8

/-- The digits of the magnitude `m * 2 ^ e` at `places` digits, if they read back:
of the two neighbours, those that read back, and of both the nearer. -/
def digitsAt (m : Nat) (e : Int) (point : Int) (places : Nat) : Option Nat :=
  let (p, q) := fraction m e
  let grid : Int := point - places
  let power := Nat.pow 10 grid.natAbs
  let (p, q) := if grid < 0 then (p * power, q) else (p, q * power)
  let low := p / q
  let readsBack := fun n => ofDecimal false n grid == .finite false m e
  let upperNearer := q < 2 * (p % q) || (q == 2 * (p % q) && low % 2 == 1)
  match readsBack low, readsBack (low + 1) with
  | true, true => some (if upperNearer then low + 1 else low)
  | true, false => some low
  | false, true => some (low + 1)
  | false, false => none

/-- The fewest digits of a magnitude that read back, from `places` digits on. -/
def shortestFrom (m : Nat) (e : Int) (point : Int) (places : Nat) : Nat → Nat × Int
  | 0 => (0, 0)
  | fuel + 1 =>
    match digitsAt m e point places with
    | some n => (n, point - places)
    | none => shortestFrom m e point (places + 1) fuel

/-- The digits of a magnitude, and where the decimal point stands counted from the
first of them. -/
def shortest (m : Nat) (e : Int) : List Char × Int :=
  let (p, q) := fraction m e
  let (n, grid) := shortestFrom m e (decimalPoint p q) 1 17
  let digits := Nat.toDigits 10 n
  let kept := (digits.reverse.dropWhile (· == '0')).reverse
  (kept, (digits.length : Int) + grid)

/-! ## Writing -/

/-- Digits with the decimal point at the given place, with at least one digit on
either side of it. -/
def positional (digits : List Char) (point : Int) : List Char :=
  if point ≤ 0 then '0' :: '.' :: List.replicate point.natAbs '0' ++ digits
  else
    let whole := digits.take point.natAbs
    let padding := List.replicate (point.natAbs - digits.length) '0'
    let rest := digits.drop point.natAbs
    whole ++ padding ++ '.' :: (if rest.isEmpty then ['0'] else rest)

/-- Digits with one digit before the point and a signed exponent of at least two
digits. -/
def scientific (digits : List Char) (point : Int) : List Char :=
  let exponent := point - 1
  let mantissa := match digits with
    | [] => ['0']
    | [d] => [d]
    | d :: rest => d :: '.' :: rest
  let written := Nat.toDigits 10 exponent.natAbs
  let padded := if written.length < 2 then '0' :: written else written
  mantissa ++ 'e' :: (if exponent < 0 then '-' else '+') :: padded

/-- The number in decimal, with the fewest digits that read back: positional while the
point stands among or near the digits, with an exponent otherwise. -/
def render : Double → String
  | .nan => "nan"
  | .infinite negative => if negative then "-inf" else "inf"
  | .finite negative m e =>
    let sign := if negative then ['-'] else []
    if m == 0 then String.ofList (sign ++ "0.0".toList)
    else
      let (digits, point) := shortest m e
      let body := if -4 < point && point ≤ 16 then positional digits point
        else scientific digits point
      String.ofList (sign ++ body)

end Double

end ContainerLint
