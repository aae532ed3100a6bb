import ToolHost.Decimal.Shortest

/-! Fractions rounded to a number of binary or of decimal digits. A half goes to the even side. -/
namespace ToolHost.Decimal

/-- A fraction that is not negative. -/
structure Fraction where
  top : Nat
  bottom : Nat

namespace Fraction

/-- The whole number nearest to a fraction, the even one of two. -/
def nearest (f : Fraction) : Nat :=
  let whole := f.top / f.bottom
  let twice := 2 * (f.top % f.bottom)
  if twice < f.bottom then whole
  else if f.bottom < twice then whole + 1
  else whole + whole % 2

/-- A fraction times a power of some base, the exponent of which may be negative. -/
def scaled (f : Fraction) (power : Nat → Nat) (exponent : Int) : Fraction :=
  if 0 ≤ exponent then ⟨f.top * power exponent.toNat, f.bottom⟩
  else ⟨f.top, f.bottom * power (-exponent).toNat⟩

/-- The nearest fraction with so many binary digits from its first one on. -/
def roundedTo (bits : Nat) (f : Fraction) : Fraction :=
  if f.top = 0 then f
  else
    let guess : Int := Int.ofNat bits + Int.ofNat f.bottom.log2 - Int.ofNat f.top.log2
    -- the guess gives `bits` digits or one more
    let exponent := if (f.scaled twoToThe guess).nearest < twoToThe bits then guess else guess - 1
    Fraction.scaled ⟨(f.scaled twoToThe exponent).nearest, 1⟩ twoToThe (-exponent)

/-- A fraction with so many decimals. -/
def fixed (places : Nat) (f : Fraction) : String :=
  let digits := Nat.toDigits 10 (f.scaled tenToThe places).nearest
  let digits := List.replicate (places + 1 - digits.length) '0' ++ digits
  let (whole, tail) := digits.splitAt (digits.length - places)
  String.ofList whole ++ (if tail.isEmpty then "" else "." ++ String.ofList tail)

/-- The exponent of the first digit, the smallest one tried being given. -/
def leadingFrom (f : Fraction) : Nat → Int → Int
  | 0, exponent => exponent
  | fuel + 1, exponent =>
    if (f.scaled tenToThe (-(exponent + 1))).top < (f.scaled tenToThe (-(exponent + 1))).bottom then
      exponent
    else leadingFrom f fuel (exponent + 1)

/-- The exponent of the first decimal digit. -/
def leading (f : Fraction) : Int :=
  let least : Int := (Int.ofNat f.top.log2 - Int.ofNat f.bottom.log2 - 2) * 3 / 10 - 2
  f.leadingFrom (f.top.log2 + f.bottom.log2 + 8) (min least (least * 4 / 3))

/-- The digits of a fraction with so many behind the first one, and the exponent of that. -/
def scientific (places : Nat) (f : Fraction) : List Char × Int :=
  if f.top = 0 then (List.replicate (places + 1) '0', 0)
  else
    let exponent := f.leading
    let digits := Nat.toDigits 10 (f.scaled tenToThe (places - exponent)).nearest
    if digits.length = places + 1 then (digits, exponent) else (digits.dropLast, exponent + 1)

end Fraction
end ToolHost.Decimal
