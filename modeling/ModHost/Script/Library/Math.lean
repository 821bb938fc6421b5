import ModHost.Script.Library.Text

set_option autoImplicit false

/-!
# The math library

Functions of floats, conversions between number types, and numbers from text.
-/

namespace ModHost.Script.Math

def pi : Float := Float.ofBits 0x400921fb54442d18

def e : Float := Float.ofBits 0x4005bf0a8b145769

def digitIn (radix : Nat) (c : Char) : Option Nat :=
  let d :=
    if '0' ≤ c && c ≤ '9' then c.toNat - '0'.toNat
    else if 'a' ≤ c && c ≤ 'z' then c.toNat - 'a'.toNat + 10
    else if 'A' ≤ c && c ≤ 'Z' then c.toNat - 'A'.toNat + 10
    else 99
  if d < radix then some d else none

def natOfDigits (radix : Nat) (cs : List Char) : Option Nat :=
  cs.foldl (fun acc c => acc.bind fun n => (digitIn radix c).map (n * radix + ·)) (some 0)

def parseInt (radix : Nat) (s : String) : Except String Int64 :=
  let invalid : Except String Int64 := .error "invalid digit found in string"
  let read (negative : Bool) (cs : List Char) : Except String Int64 :=
    match natOfDigits radix cs with
    | none => invalid
    | some n =>
      let value : Int := if negative then -Int.ofNat n else Int.ofNat n
      match int64? value with
      | some r => .ok r
      | none =>
        .error (if negative then "number too small to fit in target type"
          else "number too large to fit in target type")
  match s.toList with
  | [] => .error "cannot parse integer from empty string"
  | ['-'] | ['+'] => invalid
  | '-' :: rest => read true rest
  | '+' :: rest => read false rest
  | cs => read false cs

/-- The double nearest to `digits · 10 ^ exponent`. -/
def ofDecimal (digits : Nat) (exponent : Int) : Float :=
  if digits = 0 then 0
  else if exponent > 400 then 1.0 / 0.0
  else if exponent < -1200 then 0
  else if exponent ≥ 0 then Float.ofScientific (digits * Nat.pow 10 exponent.toNat) false 0
  else Float.ofScientific digits true (-exponent).toNat

def parseDecimal (cs : List Char) : Option Float :=
  let (whole, rest) := cs.span Char.isDigit
  let (fraction, rest) := match rest with
    | '.' :: rest => rest.span Char.isDigit
    | rest => ([], rest)
  if whole.isEmpty && fraction.isEmpty then none
  else
    let exponent? : Option Int := match rest with
      | [] => some 0
      | c :: rest =>
        if c = 'e' || c = 'E' then
          let (negative, ds) := match rest with
            | '-' :: ds => (true, ds)
            | '+' :: ds => (false, ds)
            | ds => (false, ds)
          if ds.isEmpty then none
          else (natOfDigits 10 ds).map fun n => if negative then -Int.ofNat n else Int.ofNat n
        else none
    match exponent?, natOfDigits 10 (whole ++ fraction) with
    | some x, some n => some (ofDecimal n (x - Int.ofNat fraction.length))
    | _, _ => none

def parseFloat (s : String) : Except String Float :=
  let unsigned (cs : List Char) : Option Float :=
    let word := (String.ofList cs).toLower
    if word = "inf" || word = "infinity" then some (1.0 / 0.0)
    else if word = "nan" then some (0.0 / 0.0)
    else parseDecimal cs
  let result := match s.toList with
    | '-' :: rest => (unsigned rest).map Float.neg
    | '+' :: rest => unsigned rest
    | cs => unsigned cs
  if s = "" then .error "cannot parse float from empty string"
  else match result with
    | some x => .ok x
    | none => .error "invalid float literal"

/-- Nearest whole number, a half away from zero. -/
def round (x : Float) : Float := x.round

def truncate (x : Float) : Float := if x < 0 then x.ceil else x.floor

/-- A float without its fraction as an integer, if it fits; no number is zero. -/
def toInt (x : Float) : Option Native :=
  if x > 9223372036854775808.0 || x < -9223372036854775808.0 then
    Native.fault (.arithmetic ("Integer overflow: to_int(" ++ FloatStyle.plain.render x ++ ")"))
  else Native.int x.toInt64

def real? (name : String) (x : Float) : Option Float :=
  match name with
  | "sin" => some x.sin
  | "cos" => some x.cos
  | "tan" => some x.tan
  | "sinh" => some x.sinh
  | "cosh" => some x.cosh
  | "tanh" => some x.tanh
  | "asin" => some x.asin
  | "acos" => some x.acos
  | "atan" => some x.atan
  | "asinh" => some x.asinh
  | "acosh" => some (if x < 1 then 0.0 / 0.0 else (x + (x - 1).sqrt * (x + 1).sqrt).log)
  | "atanh" => some x.atanh
  | "sqrt" => some x.sqrt
  | "exp" => some x.exp
  | "ln" => some x.log
  | "log" => some (x.log10)
  | "to_degrees" => some (x * (180.0 / pi))
  | "to_radians" => some (x * (pi / 180.0))
  | _ => none

def measure? (name : String) (v : Value) : Option Value :=
  match name, v with
  | "floor", .float x => some (.float x.floor)
  | "ceiling", .float x => some (.float x.ceil)
  | "round", .float x => some (.float (round x))
  | "int", .float x => some (.float (truncate x))
  | "fraction", .float x => some (.float (x - truncate x))
  | "is_nan", .float x => some (.bool x.isNaN)
  | "is_finite", .float x => some (.bool x.isFinite)
  | "is_infinite", .float x => some (.bool x.isInf)
  | _, _ => none

def native? (name : String) (args : List Value) : Option Native :=
  match name, args with
  | "PI", [] => Native.float pi
  | "E", [] => Native.float e
  | "to_float", [.int n] => Native.float n.toFloat
  | "to_int", [.int n] => Native.int n
  | "to_int", [.float x] => toInt x
  | "atan", [.float y, .float x] => Native.float (Float.atan2 y x)
  | "hypot", [.float x, .float y] => Native.float (x * x + y * y).sqrt
  | "log", [.float x, .float base] => Native.float (x.log / base.log)
  | "parse_int", [.str s] => parsed s 10
  | "parse_int", [.str s, .int radix] =>
    if radix.toInt < 2 ∨ radix.toInt > 36 then
      Native.fault (.arithmetic s!"Invalid radix: '{radix.toInt}'")
    else parsed s radix.toInt.toNat
  | "parse_float", [.str s] =>
    match parseFloat (Text.trim s) with
    | .ok x => Native.float x
    | .error why =>
      Native.fault (.arithmetic s!"Error parsing floating-point number '{s}': {why}")
  | name, [.float x] =>
    match real? name x with
    | some r => Native.float r
    | none => (measure? name (.float x)).map fun r => .answer (.ok r)
  | _, _ => none
where
  parsed (s : String) (radix : Nat) : Option Native :=
    match parseInt radix (Text.trim s) with
    | .ok n => Native.int n
    | .error why => Native.fault (.arithmetic s!"Error parsing integer number '{s}': {why}")

end ModHost.Script.Math
