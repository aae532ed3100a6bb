/-! The shortest decimal that reads back as a given double. A double stands for all the reals that
round to it, an interval around its own value; the decimal with the fewest digits in that interval
is taken, of two such decimals the nearer one, and of two equally near ones the even one. -/
namespace ToolHost.Decimal

/-- The number `digits * 10 ^ exponent`. -/
structure Scientific where
  digits : Nat
  exponent : Int
  deriving DecidableEq, Repr

def twoToThe (n : Nat) : Nat := Nat.pow 2 n

def tenToThe (n : Nat) : Nat := Nat.pow 10 n

/-- A positive double, and the reals that round to it, as fractions over one denominator. -/
structure Rounding where
  value : Nat
  low : Nat
  high : Nat
  denominator : Nat
  /-- Whether the two ends round to the double as well. -/
  closed : Bool

namespace Rounding

/-- The interval of `m * 2 ^ q`. Below a power of two the doubles are twice as dense, so there the
interval reaches down only half as far. -/
def ofParts (m : Nat) (q : Int) (atPower : Bool) : Rounding :=
  let num := twoToThe (q - 2).toNat
  { value := 4 * m * num
    low := (4 * m - if atPower then 1 else 2) * num
    high := (4 * m + 2) * num
    denominator := twoToThe (2 - q).toNat
    closed := m % 2 == 0 }

/-- The interval of a double given by its exponent field and its fraction field. -/
def ofFields (exponent fraction : Nat) : Rounding :=
  if exponent = 0 then ofParts fraction (-1074) false
  else ofParts (fraction + twoToThe 52) ((exponent : Int) - 1075) (fraction == 0 && 1 < exponent)

/-- The exponent of the leading decimal digit. -/
def leading (r : Rounding) : Int :=
  (Nat.toDigits 10 (r.value * tenToThe 400 / r.denominator)).length - 401

/-- A double's value and interval in units of `10 ^ k`. -/
def scaled (r : Rounding) (k : Int) : Rounding :=
  let up := tenToThe (-k).toNat
  { r with
    value := r.value * up
    low := r.low * up
    high := r.high * up
    denominator := r.denominator * tenToThe k.toNat }

/-- Whether a whole number of units rounds to the double. -/
def holds (r : Rounding) (d : Nat) : Bool :=
  let x := d * r.denominator
  if r.closed then r.low ≤ x && x ≤ r.high else r.low < x && x < r.high

/-- The whole number of units that rounds to the double and lies nearest to it, if there is one. -/
def nearest? (r : Rounding) : Option Nat :=
  let d := r.value / r.denominator
  match r.holds d, r.holds (d + 1) with
  | false, false => none
  | true, false => some d
  | false, true => some (d + 1)
  | true, true =>
    let below := r.value - d * r.denominator
    let above := (d + 1) * r.denominator - r.value
    if below < above then some d
    else if above < below then some (d + 1)
    else some (if d % 2 = 0 then d else d + 1)

/-- The first of the given digit counts for which some decimal rounds to the double. -/
def firstHit (r : Rounding) : List Nat → Scientific
  | [] => ⟨0, 0⟩
  | n :: counts =>
    let k := r.leading + 1 - n
    match (r.scaled k).nearest? with
    | some d => ⟨d, k⟩
    | none => r.firstHit counts

/-- Seventeen digits always suffice. -/
def shortest (r : Rounding) : Scientific := r.firstHit (List.range' 1 17)

end Rounding

/-- How a decimal is written: which exponents of the leading digit are written with a point only,
and what stands in front of the exponent otherwise. -/
structure Style where
  leastPlain : Int
  greatestPlain : Int
  mark : String
  plus : String

/-- Writes `0.d₁d₂… * 10 ^ (lead + 1)` for the given digits. -/
def Style.write (style : Style) (digits : List Char) (lead : Int) : String :=
  if style.leastPlain ≤ lead && lead ≤ style.greatestPlain then
    if lead < 0 then
      "0." ++ "".pushn '0' (-lead - 1).toNat ++ String.ofList digits
    else
      let whole := lead.toNat + 1
      let tail := digits.drop whole
      String.ofList (digits.take whole) ++ "".pushn '0' (whole - digits.length) ++ "." ++
        (if tail.isEmpty then "0" else String.ofList tail)
  else
    let sign := if lead < 0 then "-" else style.plus
    String.ofList (digits.take 1) ++ (if digits.length ≤ 1 then "" else "." ++ String.ofList (digits.drop 1)) ++
      style.mark ++ sign ++ toString lead.natAbs

/-- Writes a finite double in a style. -/
def Style.text (style : Style) (x : Float) : String :=
  let bits := x.toBits.toNat
  let sign := if bits / twoToThe 63 = 1 then "-" else ""
  let magnitude := bits % twoToThe 63
  if magnitude = 0 then sign ++ "0.0"
  else
    let d := (Rounding.ofFields (magnitude / twoToThe 52) (magnitude % twoToThe 52)).shortest
    let digits := Nat.toDigits 10 d.digits
    let significant := (digits.reverse.dropWhile (· == '0')).reverse
    sign ++ style.write significant (d.exponent + digits.length - 1)

end ToolHost.Decimal
