/-!
Numbers of JSON documents.

A number is whole when it has neither a fraction nor an exponent and fits 64 bits, unsigned when it
is positive and signed when it is negative.  Every other number is a double: the digits that fit 64
bits are scaled by a power of ten, which rounds once for the digits and once for the scaling.  A
number beyond the largest double is none at all.

Main exports: Number, Numeral.value?
-/

namespace DartBindings.Json

/-- A number as it is read. -/
inductive Number where
  | whole (value : Int)
  | fractional (value : Float)
deriving Repr, Inhabited

/-- The largest number of 64 bits. -/
def wholeLimit : Nat := Nat.pow 2 64 - 1

/-- The value of a decimal digit. -/
def digitValue (c : Char) : Nat :=
  c.toNat - '0'.toNat

/-- The digits that fit 64 bits, read after a number already reached, and the digits left over. -/
def fittingDigits (reached : Nat) : List Char → Nat × List Char
  | [] => (reached, [])
  | c :: rest =>
      if reached * 10 + digitValue c ≤ wholeLimit then
        fittingDigits (reached * 10 + digitValue c) rest
      else (reached, c :: rest)

/-- A power of ten as a double. -/
def powerOfTen (exponent : Nat) : Float :=
  Float.ofScientific 1 false exponent

/-- A double divided by a power of ten, in steps no larger than the largest power of ten that is a
double. -/
def scaleDown (value : Float) (exponent : Nat) : Float :=
  if exponent ≤ 308 then value / powerOfTen exponent
  else if value == 0 then value
  else scaleDown (value / powerOfTen 308) (exponent - 308)
termination_by exponent

/-- A significand times a power of ten, unless that is beyond the largest double. -/
def scale? (significand : Nat) (exponent : Int) : Option Float :=
  let value := (UInt64.ofNat significand).toFloat
  if exponent < 0 then some (scaleDown value exponent.natAbs)
  else if exponent ≤ 308 then
    let scaled := value * powerOfTen exponent.natAbs
    if scaled.isInf then none else some scaled
  else if significand = 0 then some value
  else none

/-- The parts of a number: sign, digits in front of the point, digits behind it, and the exponent
with its sign. -/
structure Numeral where
  negative : Bool
  wholeDigits : List Char
  fractionDigits : Option (List Char)
  exponent : Option (Bool × List Char)
deriving Repr, DecidableEq, Inhabited

/-- The whole number of a sign and a magnitude, if it fits 64 bits.  Zero has no negative. -/
def wholeNumber? (negative : Bool) (magnitude : Nat) : Option Int :=
  if negative then
    if 0 < magnitude && magnitude ≤ Nat.pow 2 63 then some (-(magnitude : Int)) else none
  else some magnitude

/-- The exponent's digits as a number, if it fits 31 bits. -/
def exponentMagnitude? (digits : List Char) : Option Nat :=
  let value := digits.foldl (fun reached c => reached * 10 + digitValue c) 0
  if value < Nat.pow 2 31 then some value else none

/-- The double that a numeral denotes, without its sign. -/
def Numeral.magnitude? (numeral : Numeral) : Option Float :=
  let (front, dropped) := fittingDigits 0 numeral.wholeDigits
  let fraction := numeral.fractionDigits.getD []
  let (significand, unread) := fittingDigits front fraction
  let scaling : Int := (dropped.length : Int) - ((fraction.length - unread.length : Nat) : Int)
  match numeral.exponent with
  | none => scale? significand scaling
  | some (negative, digits) =>
      match exponentMagnitude? digits with
      | some power => scale? significand (if negative then scaling - power else scaling + power)
      | none => if significand = 0 || negative then some 0 else none

/-- The number that a numeral denotes. -/
def Numeral.value? (numeral : Numeral) : Option Number :=
  let fractional := numeral.magnitude?.map fun value =>
    Number.fractional (if numeral.negative then -value else value)
  match numeral.fractionDigits, numeral.exponent, fittingDigits 0 numeral.wholeDigits with
  | none, none, (magnitude, []) =>
      match wholeNumber? numeral.negative magnitude with
      | some value => some (.whole value)
      | none => fractional
  | _, _, _ => fractional

end DartBindings.Json
