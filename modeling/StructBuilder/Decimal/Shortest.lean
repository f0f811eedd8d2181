/-!
The shortest decimal that reads back as a given double. A finite positive double is
a whole number of units 2^q; the reals that round to it form an interval around it.
Digit counts are tried in order, each on the two neighbours of the value on its
decimal grid, so the first hit has the fewest digits.
-/

namespace StructBuilder.Decimal

/-- The number `units · 2 ^ power`. -/
structure Binary where
  units : Nat
  power : Int
  deriving DecidableEq, Repr

/-- The number `digits · 10 ^ power`. -/
structure Numeral where
  digits : Nat
  power : Int
  deriving DecidableEq, Repr

/-- A nonnegative fraction with positive denominator. -/
structure Ratio where
  num : Nat
  den : Nat
  deriving DecidableEq, Repr

namespace Ratio

def le (a b : Ratio) : Bool :=
  a.num * b.den ≤ b.num * a.den

def lt (a b : Ratio) : Bool :=
  a.num * b.den < b.num * a.den

/-- The fraction times `base ^ power`. -/
def scale (a : Ratio) (base : Nat) (power : Int) : Ratio :=
  match power with
  | .ofNat n => ⟨a.num * base.pow n, a.den⟩
  | .negSucc n => ⟨a.num, a.den * base.pow (n + 1)⟩

end Ratio

def Binary.toRatio (x : Binary) : Ratio :=
  Ratio.scale ⟨x.units, 1⟩ 2 x.power

def Numeral.toRatio (x : Numeral) : Ratio :=
  Ratio.scale ⟨x.digits, 1⟩ 10 x.power

/-- The reals that round to a double; both ends belong to it iff `units` is even. -/
structure Interval where
  low : Ratio
  high : Ratio
  closed : Bool

namespace Interval

def mem (i : Interval) (x : Ratio) : Bool :=
  if i.closed then i.low.le x && x.le i.high else i.low.lt x && x.lt i.high

/-- Below a power of two the doubles lie twice as close as above it. -/
def around (x : Binary) (narrowBelow : Bool) : Interval where
  low :=
    if narrowBelow then Binary.toRatio ⟨4 * x.units - 1, x.power - 2⟩
    else Binary.toRatio ⟨2 * x.units - 1, x.power - 1⟩
  high := Binary.toRatio ⟨2 * x.units + 1, x.power - 1⟩
  closed := x.units % 2 == 0

end Interval

/-- The least `k` with `x < 10 ^ k`, for positive `x`. -/
def magnitude (x : Ratio) : Int :=
  let guess : Int := ((Nat.toDigits 10 x.num).length : Int) - (Nat.toDigits 10 x.den).length
  if x.lt (Ratio.scale ⟨1, 1⟩ 10 guess) then guess else guess + 1

/-- The neighbour on the grid of `count` digits that lies in the interval and nearer
to `x`; of two at the same distance the larger. -/
def onGrid? (x : Ratio) (interval : Interval) (count : Nat) : Option Numeral :=
  let power := magnitude x - count
  let scaled := x.scale 10 (-power)
  let below : Numeral := ⟨scaled.num / scaled.den, power⟩
  let above : Numeral := ⟨below.digits + 1, power⟩
  let aboveIsNearer := 2 * (scaled.num % scaled.den) ≥ scaled.den
  match interval.mem below.toRatio, interval.mem above.toRatio with
  | true, true => some (if aboveIsNearer then above else below)
  | true, false => some below
  | false, true => some above
  | false, false => none

/-- Seventeen digits always suffice for a double. -/
def shortest (x : Binary) (narrowBelow : Bool) : Numeral :=
  let ratio := x.toRatio
  let interval := Interval.around x narrowBelow
  (((List.range 17).map (· + 1)).findSome? (onGrid? ratio interval)).getD ⟨0, 0⟩

/-- What the bits of a double stand for, sign apart. -/
inductive Magnitude where
  | zero
  | finite (value : Binary) (narrowBelow : Bool)
  | infinite
  | notANumber
  deriving DecidableEq, Repr

def Magnitude.ofBits (bits : UInt64) : Magnitude :=
  let fraction : Nat := bits.toNat % Nat.pow 2 52
  let exponent : Nat := bits.toNat / Nat.pow 2 52 % Nat.pow 2 11
  if exponent == 2047 then
    if fraction == 0 then .infinite else .notANumber
  else if exponent == 0 then
    if fraction == 0 then .zero else .finite ⟨fraction, -1074⟩ false
  else .finite ⟨Nat.pow 2 52 + fraction, (exponent : Int) - 1075⟩ (fraction == 0 && exponent != 1)

def isNegative (bits : UInt64) : Bool :=
  bits.toNat / Nat.pow 2 63 == 1

end StructBuilder.Decimal
