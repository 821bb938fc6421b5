set_option autoImplicit false

/-!
# Decimal text of binary floats

A finite double is `m · 2 ^ q`. Its shortest decimal is the decimal with the fewest
digits that still rounds back to it, and of those the nearest. It is searched for
digit count by digit count, in exact natural arithmetic. The record `FloatStyle`
says how a text is laid out from these digits.
-/

namespace ModHost

/-- The value `digits · 10 ^ (point - digits.length)`; `digits` has no trailing zero. -/
structure Decimal where
  digits : List Char
  point : Int
deriving Repr, DecidableEq

namespace Decimal

/-- Rounding interval of a positive double over one denominator: `low / den` and
`high / den` are the ends, `value / den` is the number. -/
structure Interval where
  low : Nat
  value : Nat
  high : Nat
  den : Nat
  closed : Bool

def Interval.ofBits (bits : Nat) : Interval :=
  let exponent := bits >>> 52
  let fraction := bits % (1 <<< 52)
  let m := if exponent = 0 then fraction else fraction + 1 <<< 52
  let q : Int := (max exponent 1 : Nat) - (1077 : Int)
  let below := if fraction = 0 ∧ exponent > 1 then 1 else 2
  let up := 1 <<< q.toNat
  { low := (4 * m - below) * up, value := 4 * m * up, high := (4 * m + 2) * up,
    den := 1 <<< (-q).toNat, closed := m % 2 = 0 }

def Interval.scale (i : Interval) (p : Int) : Interval :=
  let down := Nat.pow 10 p.toNat
  let up := Nat.pow 10 (-p).toNat
  { i with low := i.low * up, value := i.value * up, high := i.high * up, den := i.den * down }

def Interval.contains (i : Interval) (c : Nat) : Bool :=
  let x := c * i.den
  if i.closed then i.low ≤ x && x ≤ i.high else i.low < x && x < i.high

/-- The one of the two grid neighbours that lies in the interval and is nearest. -/
def Interval.nearest? (i : Interval) : Option Nat :=
  let d := i.value / i.den
  let r := i.value % i.den
  let lowOk := d > 0 && i.contains d
  let highOk := i.contains (d + 1)
  if lowOk && highOk then
    some (if 2 * r < i.den || (2 * r = i.den && d % 2 = 0) then d else d + 1)
  else if lowOk then some d
  else if highOk then some (d + 1)
  else none

def magnitude (i : Interval) : Int :=
  let guess := ((i.value.log2 : Int) - i.den.log2) * 30103 / 100000 - 2
  let below (k : Int) : Bool := i.value * Nat.pow 10 (-k).toNat < i.den * Nat.pow 10 k.toNat
  match [guess, guess + 1, guess + 2, guess + 3, guess + 4].find? (fun k => below (k + 1)) with
  | some k => k
  | none => guess + 5

def searchDigits (i : Interval) (top : Int) : Nat → Nat → Nat × Int
  | 0, n => (i.value, (n : Int))
  | fuel + 1, n =>
    let unit := top - n + 1
    match (i.scale unit).nearest? with
    | some c => (c, unit)
    | none => searchDigits i top fuel (n + 1)

def stripZeros (c : Nat) (unit : Int) : Nat → Nat × Int
  | 0 => (c, unit)
  | fuel + 1 => if c % 10 = 0 ∧ c ≠ 0 then stripZeros (c / 10) (unit + 1) fuel else (c, unit)

def ofBits (bits : Nat) : Decimal :=
  let i := Interval.ofBits bits
  let (c, unit) := searchDigits i (magnitude i) 20 1
  let (c, unit) := stripZeros c unit 20
  let digits := Nat.toDigits 10 c
  ⟨digits, digits.length + unit⟩

def positional (d : Decimal) (fraction : Bool) : String :=
  let n := d.digits.length
  if d.point ≤ 0 then
    "0." ++ String.ofList (List.replicate (-d.point).toNat '0' ++ d.digits)
  else if d.point.toNat ≥ n then
    String.ofList (d.digits ++ List.replicate (d.point.toNat - n) '0')
      ++ (if fraction then ".0" else "")
  else
    String.ofList (d.digits.take d.point.toNat ++ '.' :: d.digits.drop d.point.toNat)

def scientific (d : Decimal) (plus : Bool) : String :=
  let mantissa := match d.digits with
    | [] => "0"
    | [c] => String.ofList [c]
    | c :: rest => String.ofList (c :: '.' :: rest)
  mantissa ++ (if plus && d.point ≥ 1 then "e+" else "e") ++ toString (d.point - 1)

end Decimal

/-- How a float is laid out: positional text while `least < point ≤ most`, scientific
outside; a whole number keeps `.0` when `fraction` holds, and a positive exponent has a
sign when `plus` holds. -/
structure FloatStyle where
  least : Int
  most : Int
  fraction : Bool
  plus : Bool

namespace FloatStyle

def plain : FloatStyle := ⟨-400, 400, false, false⟩

def exponent : FloatStyle := ⟨0, -1, false, false⟩

def detailed : FloatStyle := ⟨-4, 16, true, false⟩

def json : FloatStyle := ⟨-5, 16, true, true⟩

def render (s : FloatStyle) (x : Float) : String :=
  let bits := x.toBits.toNat
  let negative := bits ≥ 1 <<< 63
  let magnitude := bits % (1 <<< 63)
  let sign := if negative then "-" else ""
  if magnitude > 0x7ff0000000000000 then "NaN"
  else if magnitude = 0x7ff0000000000000 then sign ++ "inf"
  else if magnitude = 0 then
    if s.fraction then sign ++ "0.0"
    else if s.most < 0 then sign ++ "0e0" else sign ++ "0"
  else
    let d := Decimal.ofBits magnitude
    sign ++ (if s.least < d.point ∧ d.point ≤ s.most then d.positional s.fraction
      else d.scientific s.plus)

end FloatStyle

end ModHost
