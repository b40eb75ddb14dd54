/-!
Binary64 floating-point values, computed exactly. A finite value is a sign, a significand and a
power of two. Every operation forms the exact rational result with natural numbers and rounds it
once, to nearest with ties to even, which is what the hardware operations do; nothing here uses
the runtime's own floating point.

Two things are built on this. `scaled` reads a decimal the way the configuration reader does: a
significand of at most 64 bits, converted to binary64 and then multiplied or divided by a
rounded power of ten from a table. `render` writes a value with the fewest significant digits
that read back to it, the nearest such digits when there is a choice.
-/
namespace JsxVNode

/-- A finite binary64 value `(-1)^negative · significand · 2^exponent`. The values built here
are normalised: the significand is below `2^53`, the exponent at least `-1074`, and the
significand at least `2^52` unless the exponent is `-1074` (zero and the subnormal numbers). -/
structure Binary64 where
  negative : Bool
  significand : Nat
  exponent : Int
deriving DecidableEq, Repr, Inhabited

namespace Binary64

def minExponent : Int := -1074

def maxExponent : Int := 971

def zero : Binary64 := ⟨false, 0, minExponent⟩

def scaleDown (num den : Nat) (e : Int) : Nat × Nat :=
  if e ≥ 0 then (num, den * Nat.pow 2 e.toNat) else (num * Nat.pow 2 (-e).toNat, den)

def atLeastPow2 (num den : Nat) (e : Int) : Bool :=
  let (n, d) := scaleDown num den e
  n ≥ d

def roundHalfEven (n d : Nat) : Nat :=
  let q := n / d
  let r := n % d
  if 2 * r > d || (2 * r == d && q % 2 == 1) then q + 1 else q

/-- The significand and exponent nearest to `num / den`, ties to an even significand; none
when the fraction rounds beyond the largest finite value. The exponent is chosen so that the
significand has 53 bits, or the subnormal exponent when the fraction is smaller than that
allows: `floor (log2 (num / den))` is `log2 num - log2 den` or one less. -/
def roundMagnitude (num den : Nat) : Option (Nat × Int) :=
  if num == 0 || den == 0 then some (0, minExponent) else
  let t : Int := (Nat.log2 num : Int) - Nat.log2 den
  let top := if atLeastPow2 num den t then t else t - 1
  let e := max (top - 52) minExponent
  let (n, d) := scaleDown num den e
  let q := roundHalfEven n d
  let (q, e) := if q == Nat.pow 2 53 then (Nat.pow 2 52, e + 1) else (q, e)
  if e > maxExponent then none else some (q, e)

def round (negative : Bool) (num den : Nat) : Option Binary64 :=
  (roundMagnitude num den).map fun (m, e) => ⟨negative, m, e⟩

def fraction (x : Binary64) : Nat × Nat :=
  if x.exponent ≥ 0 then (x.significand * Nat.pow 2 x.exponent.toNat, 1)
  else (x.significand, Nat.pow 2 (-x.exponent).toNat)

def neg (x : Binary64) : Binary64 := { x with negative := !x.negative }

def isZero (x : Binary64) : Bool := x.significand == 0

def ofNat (n : Nat) : Option Binary64 := round false n 1

def mul (x y : Binary64) : Option Binary64 :=
  let (a, b) := x.fraction
  let (c, d) := y.fraction
  round (x.negative != y.negative) (a * c) (b * d)

def div (x y : Binary64) : Option Binary64 :=
  let (a, b) := x.fraction
  let (c, d) := y.fraction
  round (x.negative != y.negative) (a * d) (b * c)

def pow10 (k : Nat) : Binary64 := (round false (Nat.pow 10 k) 1).getD zero

/-- Scales by `10^exponent` the way the configuration reader does: within the table one
multiplication or division by a rounded power; beyond it, division by `10^308` step by step
until the exponent falls within the table or the value reaches zero. A positive exponent beyond
the table, or a product that overflows, is out of range (none). The fuel bounds the steps: a
value from a 64-bit significand reaches zero after three divisions by `10^308`. -/
def scaleByTen : Nat → Binary64 → Int → Option Binary64
  | 0, f, _ => some f
  | fuel + 1, f, exponent =>
    if exponent.natAbs ≤ 308 then
      if exponent ≥ 0 then f.mul (pow10 exponent.natAbs) else f.div (pow10 exponent.natAbs)
    else if f.isZero then some f
    else if exponent ≥ 0 then none
    else do scaleByTen fuel (← f.div (pow10 308)) (exponent + 308)

/-- The value of `significand · 10^exponent` as the configuration reader computes it: the
significand is rounded to binary64 first, then scaled. None when out of range. -/
def scaled (significand : Nat) (exponent : Int) : Option Binary64 := do
  scaleByTen 8 (← ofNat significand) exponent

/-! ### Shortest digits -/

def digitCount (n : Nat) : Nat := (toString n).length

def scaleUp (num den : Nat) : Nat → Nat → Nat
  | 0, j => j
  | fuel + 1, j => if num * Nat.pow 10 j ≥ den then j else scaleUp num den fuel (j + 1)

/-- The decimal exponent of a positive fraction: the `E` with `10^E ≤ num / den < 10^(E+1)`.
Binary64 values are at least `10^-324`, so 400 steps find it. -/
def decimalExponent (num den : Nat) : Int :=
  if num ≥ den then (digitCount (num / den) : Int) - 1
  else -((scaleUp num den 400 1 : Nat) : Int)

/-- A multiple `c · 10^k` compared with a fraction `x / d`: the two sides of
`c · 10^k ≤ x / d` made integral, as the factor of `c` and the factor of `x`. -/
def gridFactors (d : Nat) (k : Int) : Nat × Nat :=
  if k ≥ 0 then (Nat.pow 10 k.toNat * d, 1) else (d, Nat.pow 10 (-k).toNat)

/-- The decimals `c · 10^k` that read back to a value: the least and greatest `c` with
`lo / d ≤ c · 10^k ≤ hi / d`, the bounds themselves included when `inclusive`. -/
def gridRange (lo hi d : Nat) (inclusive : Bool) (k : Int) : Nat × Nat :=
  let (p, q) := gridFactors d k
  let least := if inclusive then (lo * q + p - 1) / p else lo * q / p + 1
  let greatest := if inclusive then hi * q / p else (hi * q - 1) / p
  (least, greatest)

/-- Searches the grids `10^k`, from the coarsest down, for the first that has a decimal
reading back to the value `v / d`; on that grid the one nearest to the value is taken (ties to
even), kept within the ones that read back. -/
def searchGrid (v lo hi d : Nat) (inclusive : Bool) : Nat → Int → Nat × Int
  | 0, k => (roundHalfEven (v * (gridFactors d k).2) (gridFactors d k).1, k)
  | fuel + 1, k =>
    let (least, greatest) := gridRange lo hi d inclusive k
    if least ≤ greatest then
      let (p, q) := gridFactors d k
      let c := roundHalfEven (v * q) p
      (if c < least then least else if c > greatest then greatest else c, k)
    else searchGrid v lo hi d inclusive fuel (k - 1)

def trimZeros (c : Nat) (k : Int) : Nat × Int :=
  if h : c ≠ 0 ∧ c % 10 = 0 then
    have : c / 10 < c := Nat.div_lt_self (Nat.pos_of_ne_zero h.1) (by decide)
    trimZeros (c / 10) (k + 1)
  else (c, k)
termination_by c

/-- The shortest decimal `c · 10^k` that reads back to the positive value
`significand · 2^exponent`, without trailing zeros. A decimal reads back when it lies within
half a unit in the last place on either side, or a quarter below a power of two whose lower
neighbour is closer; the bounds count when the significand is even, since ties go to it. In
units of `2^(exponent - 2)` the value is `4 · significand` and the bounds are two units away
(one below a power of two). -/
def shortest (significand : Nat) (exponent : Int) : Nat × Int :=
  let below := if significand == Nat.pow 2 52 && exponent > minExponent then 1 else 2
  let unit := exponent - 2
  let (scale, d) :=
    if unit ≥ 0 then (Nat.pow 2 unit.toNat, 1) else (1, Nat.pow 2 (-unit).toNat)
  let v := 4 * significand * scale
  let lo := (4 * significand - below) * scale
  let hi := (4 * significand + 2) * scale
  let (c, k) := searchGrid v lo hi d (significand % 2 == 0) 20 (decimalExponent v d)
  trimZeros c k

def zeros (n : Nat) : String := String.ofList (List.replicate n '0')

def exponentText (e : Int) : String :=
  (if e < 0 then "-" else "+") ++ toString e.natAbs

/-- The text of a value: its shortest digits, positional when the first digit's place is
between `10^-5` and `10^15` (an integral value ends in `.0`), in exponent form otherwise. -/
def render (x : Binary64) : String :=
  let sign := if x.negative then "-" else ""
  if x.isZero then sign ++ "0.0" else
  let (c, k) := shortest x.significand x.exponent
  let ds := toString c
  let lead : Int := k + ds.length - 1
  sign ++
    if -5 ≤ lead && lead < 16 then
      if k ≥ 0 then ds ++ zeros k.toNat ++ ".0"
      else if lead ≥ 0 then
        String.ofList (ds.toList.take (lead.toNat + 1)) ++ "." ++
          String.ofList (ds.toList.drop (lead.toNat + 1))
      else "0." ++ zeros ((-lead).toNat - 1) ++ ds
    else
      let rest := ds.toList.drop 1
      String.ofList (ds.toList.take 1) ++ (if rest.isEmpty then "" else "." ++ String.ofList rest) ++
        "e" ++ exponentText lead

end Binary64

end JsxVNode
