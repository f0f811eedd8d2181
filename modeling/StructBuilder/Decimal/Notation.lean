import StructBuilder.Decimal.Shortest

/-!
How floating point values are written and read. The layout of the written form is
one record; reading accepts an optional sign, digits with an optional point, an
optional exponent, and the names of the infinite and undefined values.
-/

namespace StructBuilder.Decimal

structure Layout where
  /-- Numbers from `10 ^ low` to below `10 ^ high` are written without exponent. -/
  low : Int
  high : Int
  mark : String
  infinity : String
  notANumber : String

/-- Values keep a fraction, and leave positional form below 1e-4 and from 1e16 on. -/
def layout : Layout :=
  ⟨-4, 16, "e", "inf", "NaN"⟩

/-- Digits without trailing zeros, and the exponent of the first one. -/
private def normal (x : Numeral) : List Char × Int :=
  let digits := Nat.toDigits 10 x.digits
  ((digits.reverse.dropWhile (· == '0')).reverse, x.power + digits.length - 1)

private def positional (digits : List Char) (lead : Int) : String :=
  match lead with
  | .ofNat n =>
      let whole := digits.take (n + 1) ++ List.replicate (n + 1 - digits.length) '0'
      let fraction := digits.drop (n + 1)
      String.ofList (whole ++ '.' :: (if fraction.isEmpty then ['0'] else fraction))
  | .negSucc n => String.ofList ("0.".toList ++ List.replicate n '0' ++ digits)

private def scientific (mark : String) (digits : List Char) (lead : Int) : String :=
  let mantissa := match digits with
    | first :: rest@(_ :: _) => String.ofList (first :: '.' :: rest)
    | digits => String.ofList digits
  mantissa ++ mark ++ toString lead

def Layout.write (layout : Layout) (value : Float) : String :=
  let sign := if isNegative value.toBits then "-" else ""
  match Magnitude.ofBits value.toBits with
  | .notANumber => layout.notANumber
  | .infinite => sign ++ layout.infinity
  | .zero => sign ++ "0.0"
  | .finite binary narrowBelow =>
      let (digits, lead) := normal (shortest binary narrowBelow)
      sign ++ (if layout.low ≤ lead && lead < layout.high then positional digits lead
        else scientific layout.mark digits lead)

private def natural? (digits : List Char) : Option Nat :=
  if digits.all Char.isDigit then
    some (digits.foldl (fun n c => 10 * n + (c.toNat - '0'.toNat)) 0)
  else none

private def exponent? : List Char → Option Int
  | [] => some 0
  | mark :: rest =>
      if mark == 'e' || mark == 'E' then
        match rest with
        | '-' :: digits => if digits.isEmpty then none else (natural? digits).map (- Int.ofNat ·)
        | '+' :: digits => if digits.isEmpty then none else (natural? digits).map Int.ofNat
        | digits => if digits.isEmpty then none else (natural? digits).map Int.ofNat
      else none

private def unsigned? (text : List Char) : Option Float :=
  let name := (String.ofList text).toLower
  if name == "nan" then some (0.0 / 0.0)
  else if name == "inf" || name == "infinity" then some (1.0 / 0.0)
  else
    let whole := text.takeWhile Char.isDigit
    let (fraction, rest) := match text.dropWhile Char.isDigit with
      | '.' :: rest => (rest.takeWhile Char.isDigit, rest.dropWhile Char.isDigit)
      | rest => ([], rest)
    if whole.isEmpty && fraction.isEmpty then none
    else do
      let digits ← natural? (whole ++ fraction)
      let power := (← exponent? rest) - fraction.length
      match power with
      | .ofNat n => some (Float.ofScientific digits false n)
      | .negSucc n => some (Float.ofScientific digits true (n + 1))

/-- The double nearest to the written number. -/
def read? (text : String) : Option Float :=
  match text.toList with
  | '-' :: rest => (unsigned? rest).map (- ·)
  | '+' :: rest => unsigned? rest
  | rest => unsigned? rest

end StructBuilder.Decimal
