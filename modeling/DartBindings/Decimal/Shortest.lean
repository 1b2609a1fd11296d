/-!
The shortest decimal number that reads back as a given binary floating-point number.

A finite double is a significand times a power of two, and the real numbers that round to it form an
interval around it, whose ends belong to it when the significand is even.  Among the decimal numbers
of fewest digits in that interval the nearest to the double is taken, and of two that are equally near
the one whose last digit is even.

Main exports: Binary, shortest, text
-/

namespace DartBindings.Decimal

/-- The non-negative number `significand * 2 ^ exponent`.  `narrowBelow` says that the next smaller
double is only half as far away as the next larger one. -/
structure Binary where
  significand : Nat
  exponent : Int
  narrowBelow : Bool
deriving Repr, DecidableEq, Inhabited

/-- The absolute value of a finite double. -/
def Binary.ofFloat (value : Float) : Binary :=
  let bits : Nat := value.toBits.toNat
  let fraction : Nat := bits % Nat.pow 2 52
  let biased : Nat := bits / Nat.pow 2 52 % Nat.pow 2 11
  if biased = 0 then ⟨fraction, -1074, false⟩
  else ⟨fraction + Nat.pow 2 52, (biased : Int) - 1075, fraction == 0 && biased != 1⟩

/-- The number `digits * 10 ^ exponent`. -/
structure Scaled where
  digits : Nat
  exponent : Int
deriving Repr, DecidableEq, Inhabited

/-- The fraction `numerator / denominator` that a power of a base is, for comparisons. -/
def powerParts (base : Nat) (exponent : Int) : Nat × Nat :=
  if 0 ≤ exponent then (Nat.pow base exponent.toNat, 1) else (1, Nat.pow base (-exponent).toNat)

/-- A binary number in units so small that the number, the ends of its interval and a decimal grid
of the given exponent are all whole: value, lower end, upper end and the width of the grid. -/
def onGrid (number : Binary) (exponent : Int) : Nat × Nat × Nat × Nat :=
  let (twoUp, twoDown) := powerParts 2 (number.exponent - 2)
  let (tenUp, tenDown) := powerParts 10 exponent
  let unit := twoUp * tenDown
  (4 * number.significand * unit,
    (4 * number.significand - (if number.narrowBelow then 1 else 2)) * unit,
    (4 * number.significand + 2) * unit,
    tenUp * twoDown)

/-- The multiple of a power of ten in the interval of a number that is nearest to it, if there is
one.  Of two equally near ones the even multiple is taken. -/
def nearestOnGrid (number : Binary) (exponent : Int) : Option Scaled :=
  let (value, low, high, width) := onGrid number exponent
  let even := number.significand % 2 == 0
  let inside := fun point => if even then low ≤ point && point ≤ high else low < point && point < high
  let below := value / width
  let above := below + 1
  let hitBelow := inside (below * width)
  let hitAbove := inside (above * width)
  let toBelow := value - below * width
  let toAbove := above * width - value
  let belowNearer := toBelow < toAbove || (toBelow = toAbove && below % 2 = 0)
  if hitBelow && (!hitAbove || belowNearer) then
    some ⟨below, exponent⟩
  else if hitAbove then some ⟨above, exponent⟩
  else none

/-- The number of digits in front of the decimal point of a positive number, counted from an
estimate that is never too large; negative when zeros follow the point. -/
def magnitudeFrom (number : Binary) : Nat → Int → Int
  | 0, estimate => estimate
  | fuel + 1, estimate =>
      let (value, _, _, width) := onGrid number estimate
      if width ≤ value then magnitudeFrom number fuel (estimate + 1) else estimate

/-- The number of digits in front of the decimal point of a positive number. -/
def magnitude (number : Binary) : Int :=
  magnitudeFrom number 700 (-330)

/-- The first hit on finer and finer grids. -/
def firstHit (number : Binary) (top : Int) : Nat → Nat → Option Scaled
  | 0, _ => none
  | left + 1, count =>
      (nearestOnGrid number (top - count)).orElse fun _ => firstHit number top left (count + 1)

/-- The shortest decimal number of a positive finite double. -/
def shortest (number : Binary) : Scaled :=
  (firstHit number (magnitude number) 17 1).getD ⟨number.significand, 0⟩

/-- A number without trailing zeros among its digits. -/
def Scaled.trimZeros (fuel : Nat) (number : Scaled) : Scaled :=
  match fuel with
  | 0 => number
  | fuel + 1 =>
      if number.digits != 0 && number.digits % 10 == 0 then
        trimZeros fuel ⟨number.digits / 10, number.exponent + 1⟩
      else number

/-- Digits written with a point: positional between one hundred-thousandth and ten to the 16th, and
with a signed power of ten elsewhere.  Positional notation always has a digit after the point. -/
def Scaled.text (number : Scaled) : String :=
  let digits := (toString number.digits).toList
  let point := (digits.length : Int) + number.exponent
  let zeros := fun (count : Int) => List.replicate count.toNat '0'
  if -5 < point && point ≤ 0 then
    String.ofList ("0.".toList ++ zeros (-point) ++ digits)
  else if 0 < point && point ≤ 16 then
    let whole := digits.take point.toNat ++ zeros (point - digits.length)
    let fraction := digits.drop point.toNat
    String.ofList (whole ++ '.' :: (if fraction.isEmpty then ['0'] else fraction))
  else
    let power := point - 1
    let sign := if 0 ≤ power then "+" else "-"
    let fraction := digits.drop 1
    String.ofList (digits.take 1 ++ (if fraction.isEmpty then [] else '.' :: fraction))
      ++ "e" ++ sign ++ toString power.natAbs

/-- The written form of a finite double. -/
def text (value : Float) : String :=
  let number := Binary.ofFloat value
  let sign := if value.toBits.toNat / Nat.pow 2 63 = 1 then "-" else ""
  if number.significand = 0 then sign ++ "0.0"
  else sign ++ ((shortest number).trimZeros 20).text

end DartBindings.Decimal
