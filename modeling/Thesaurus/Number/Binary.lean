/-!
Binary floating-point numbers in exact arithmetic. A format fixes the number of significand
bits and the range of exponents. `Binary.nearest` rounds a ratio of natural numbers to the
nearest number of a format, a tie going to the even significand; `Binary.shortest` writes a
number as the decimal with the fewest digits that rounds back to it, the nearer of two such
decimals when there are two.
-/

namespace Thesaurus.Number

/-- A binary floating-point format: `precision` significand bits, the leading one included,
and normal numbers between `2 ^ emin` and `2 ^ (emax + 1)`. -/
structure BinaryFormat where
  precision : Nat
  emin : Int
  emax : Int

/-- Single precision: 24 significand bits. -/
def BinaryFormat.single : BinaryFormat := ⟨24, -126, 127⟩

/-- Double precision: 53 significand bits. -/
def BinaryFormat.double : BinaryFormat := ⟨53, -1022, 1023⟩

/-- The exponent of the last significand bit of the least numbers of a format. -/
def BinaryFormat.quantumMin (f : BinaryFormat) : Int :=
  f.emin - (f.precision - 1 : Nat)

/-- A number of a binary format: `±mant · 2 ^ exp`, or an infinity. -/
inductive Binary where
  | finite (neg : Bool) (mant : Nat) (exp : Int)
  | infinite (neg : Bool)
deriving DecidableEq, Repr, Inhabited

/-- `a * 2 ^ k` as a ratio of natural numbers. -/
def ratioPow2 (a : Nat) (k : Int) : Nat × Nat :=
  if 0 ≤ k then (a * Nat.pow 2 k.toNat, 1) else (a, Nat.pow 2 (-k).toNat)

/-- The quotient `a / b` rounded to the nearest natural number, a tie going to the even one. -/
def roundHalfEven (a b : Nat) : Nat :=
  let q := a / b
  let r := a % b
  if 2 * r < b then q
  else if 2 * r > b then q + 1
  else if q % 2 = 0 then q else q + 1

/-- The greatest `e` with `2 ^ e ≤ n / d`, for `0 < n` and `0 < d`. -/
def floorLog2 (n d : Nat) : Int :=
  let e : Int := (Nat.log2 n : Int) - (Nat.log2 d : Int)
  let (a, b) := ratioPow2 d e
  -- `n / d` lies in `[2 ^ (e - 1), 2 ^ (e + 1))`; it is below `2 ^ e` iff `n < d * 2 ^ e`
  if n * b < a then e - 1 else e

/-- The number of a format nearest to `n / d` (with sign `neg`), a tie going to the even
significand; an infinity when it exceeds the greatest number of the format. -/
def Binary.nearest (f : BinaryFormat) (neg : Bool) (n d : Nat) : Binary :=
  if n = 0 ∨ d = 0 then .finite neg 0 0
  else
    let e := floorLog2 n d
    let q := max (e - (f.precision - 1 : Nat)) f.quantumMin
    -- the significand is `n / d / 2 ^ q`, rounded
    let (num, den) := if 0 ≤ q then (n, d * Nat.pow 2 q.toNat) else (n * Nat.pow 2 (-q).toNat, d)
    let m := roundHalfEven num den
    let (m, q) := if m = Nat.pow 2 f.precision then (m / 2, q + 1) else (m, q)
    if q + (f.precision - 1 : Nat) > f.emax then .infinite neg else .finite neg m q

/-- The value of a finite number as a ratio `n / d` of natural numbers, without its sign. -/
def Binary.ratio : Binary → Nat × Nat
  | .finite _ m e => ratioPow2 m e
  | .infinite _ => (0, 1)

/-- Whether a number is negative (or a negative zero). -/
def Binary.isNeg : Binary → Bool
  | .finite neg _ _ => neg
  | .infinite neg => neg

/-- The product of two numbers, rounded to the format. -/
def Binary.mul (f : BinaryFormat) (x y : Binary) : Binary :=
  match x, y with
  | .finite s m e, .finite t n k =>
      let (a, b) := ratioPow2 (m * n) (e + k)
      Binary.nearest f (s != t) a b
  | a, b => .infinite (a.isNeg != b.isNeg)

/-- The quotient of two numbers, rounded to the format; the divisor is not zero. -/
def Binary.div (f : BinaryFormat) (x y : Binary) : Binary :=
  match x, y with
  | .finite s m e, .finite t n k =>
      let (a, b) := ratioPow2 m (e - k)
      Binary.nearest f (s != t) a (b * n)
  | a, b => .infinite (a.isNeg != b.isNeg)

/-- The number of decimal digits of a positive natural number. -/
def decimalLength (n : Nat) : Nat :=
  (Nat.toDigits 10 n).length

/-- The greatest `t` with `10 ^ t ≤ n / d`, for `0 < n` and `0 < d`. -/
def floorLog10 (n d : Nat) : Int :=
  if d ≤ n then (decimalLength (n / d) : Int) - 1
  else
    let a := decimalLength (d / n)
    if n * Nat.pow 10 (a - 1) = d then -((a - 1 : Nat) : Int) else -(a : Int)

/-- `a * 10 ^ k` as a ratio of natural numbers. -/
def ratioPow10 (a : Nat) (k : Int) : Nat × Nat :=
  if 0 ≤ k then (a * Nat.pow 10 k.toNat, 1) else (a, Nat.pow 10 (-k).toNat)

/-- Compares the ratios `a / b` and `c / d`. -/
def compareRatio (a b c d : Nat) : Ordering :=
  compare (a * d) (c * b)

/-- A decimal `digits · 10 ^ exp`. -/
structure Decimal where
  digits : Nat
  exp : Int
deriving DecidableEq, Repr, Inhabited

/-- Drops up to `fuel` zeros that end the digits, raising the exponent. -/
def Decimal.trimBy : Nat → Decimal → Decimal
  | 0, x => x
  | fuel + 1, x =>
    if x.digits ≠ 0 ∧ x.digits % 10 = 0 then Decimal.trimBy fuel ⟨x.digits / 10, x.exp + 1⟩ else x

/-- Drops the zeros that end the digits, raising the exponent. -/
def Decimal.trim (x : Decimal) : Decimal :=
  Decimal.trimBy (decimalLength x.digits) x

/-- The interval of values that round to the positive number `m · 2 ^ e` of a format, in
quarters of `2 ^ e`: the value is `4 * m`, the interval runs from `lo` to `4 * m + 2`, and its
ends belong to it when `m` is even. -/
def roundingLow (f : BinaryFormat) (m : Nat) (e : Int) : Nat :=
  if m = Nat.pow 2 (f.precision - 1) ∧ e > f.quantumMin then 4 * m - 1 else 4 * m - 2

/-- Whether `c · 10 ^ k` rounds to the positive number `m · 2 ^ e`. -/
def readsBack (f : BinaryFormat) (m : Nat) (e : Int) (c : Nat) (k : Int) : Bool :=
  let (cn, cd) := ratioPow10 c k
  let (un, ud) := ratioPow2 1 (e - 2)
  let lo := roundingLow f m e
  let hi := 4 * m + 2
  let above := compareRatio cn cd (lo * un) ud
  let below := compareRatio cn cd (hi * un) ud
  if m % 2 = 0 then above != .lt && below != .gt else above == .gt && below == .lt

/-- Searches the decimal grids of `n`, `n + 1`, … digits for the fewest digits that read back
as the positive number `m · 2 ^ e`, whose greatest power of ten is `10 ^ top`. -/
def shortestFrom (f : BinaryFormat) (m : Nat) (e : Int) (top : Int) (n : Nat) : Nat → Decimal
  | 0 => ⟨m, 0⟩
  | fuel + 1 =>
    let k := top - (n - 1 : Nat)
    let (vn, vd) := ratioPow2 m e
    let (gn, gd) := ratioPow10 1 k
    -- the value's neighbours on the grid of step `10 ^ k`
    let below := (vn * gd) / (vd * gn)
    let above := below + 1
    let okBelow := readsBack f m e below k
    let okAbove := readsBack f m e above k
    if okBelow && okAbove then
      -- the nearer one; of two at the same distance, the even one
      let dBelow := vn * gd - below * vd * gn
      let dAbove := above * vd * gn - vn * gd
      if dBelow < dAbove then ⟨below, k⟩
      else if dAbove < dBelow then ⟨above, k⟩
      else if below % 2 = 0 then ⟨below, k⟩ else ⟨above, k⟩
    else if okBelow then ⟨below, k⟩
    else if okAbove then ⟨above, k⟩
    else shortestFrom f m e top (n + 1) fuel

/-- The same number written with the full significand of a format: the significand is
doubled and the exponent lowered, at most `fuel` times, until the significand has the format's
precision or the exponent is the format's least. A number of a narrower format thus becomes
one of a wider format. -/
def Binary.widenBy (f : BinaryFormat) : Nat → Binary → Binary
  | 0, x => x
  | fuel + 1, .finite neg m e =>
    if m = 0 ∨ Nat.pow 2 (f.precision - 1) ≤ m ∨ e ≤ f.quantumMin then .finite neg m e
    else Binary.widenBy f fuel (.finite neg (2 * m) (e - 1))
  | _, x => x

/-- The same number written with the full significand of a format. -/
def Binary.widen (f : BinaryFormat) (x : Binary) : Binary :=
  x.widenBy f f.precision

/-- The decimal with the fewest digits that rounds back to a finite number of the format,
without its sign. The number is first written with the format's full significand, so that
its rounding interval is the format's. -/
def Binary.shortest (f : BinaryFormat) (x : Binary) : Decimal :=
  match x.widen f with
  | .finite _ 0 _ => ⟨0, 0⟩
  | .finite _ m e =>
    let (n, d) := ratioPow2 m e
    (shortestFrom f m e (floorLog10 n d) 1 40).trim
  | .infinite _ => ⟨0, 0⟩

/-- How a decimal is written: positional notation when the place of its first digit lies
in `(minPoint, maxPoint]`, otherwise one digit, a point, the others and an exponent; a
positive exponent carries a plus sign when `plusSign` holds. -/
structure DecimalStyle where
  maxPoint : Int
  minPoint : Int
  plusSign : Bool

/-- The text of the digits of a natural number. -/
def digitText (n : Nat) : String :=
  String.ofList (Nat.toDigits 10 n)

/-- Writes a decimal, `neg` giving its sign, in a style. A whole number keeps a point and a
zero (`100.0`); zero is `0.0`. -/
def Decimal.render (s : DecimalStyle) (neg : Bool) (x : Decimal) : String :=
  let sign := if neg then "-" else ""
  if x.digits = 0 then sign ++ "0.0"
  else
    let ds := digitText x.digits
    let n : Int := ds.length
    let point := n + x.exp
    let body :=
      if 0 ≤ x.exp ∧ point ≤ s.maxPoint then
        ds ++ String.ofList (List.replicate x.exp.toNat '0') ++ ".0"
      else if 0 < point ∧ point ≤ s.maxPoint then
        String.ofList (ds.toList.take point.toNat) ++ "." ++ String.ofList (ds.toList.drop point.toNat)
      else if s.minPoint < point ∧ point ≤ 0 then
        "0." ++ String.ofList (List.replicate (-point).toNat '0') ++ ds
      else
        let e := point - 1
        let mant := match ds.toList with
          | [d] => String.singleton d
          | d :: rest => String.singleton d ++ "." ++ String.ofList rest
          | [] => "0"
        let expText := if e < 0 then "-" ++ digitText (-e).toNat
          else (if s.plusSign then "+" else "") ++ digitText e.toNat
        mant ++ "e" ++ expText
    sign ++ body

end Thesaurus.Number
