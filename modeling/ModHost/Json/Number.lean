import ModHost.Json.Cursor

set_option autoImplicit false

/-!
# Numbers of JSON text

A number without a fraction and an exponent that fits 64 bits is an integer. Any other is
a float, made from a significand of 64 bits and a power of ten by one multiplication or
division for each step of `10 ^ 308`; digits that no longer fit the significand only count
for the power. So a float that was written with its shortest digits need not be read back
exactly.
-/

namespace ModHost

namespace JsonReader

def isDigit (b : UInt8) : Bool := 48 ≤ b && b ≤ 57

def digitOf (b : UInt8) : Nat := b.toNat - 48

def significandMax : Nat := UInt64.size - 1

/-- Greatest significand of a negative number that is an integer. -/
def negativeMax : Nat := 1 <<< 63

def exponentMax : Nat := 1 <<< 31 - 1

def peekDigit : JsonReader (Option Nat) := do
  match ← peek with
  | some b => pure (if isDigit b then some (digitOf b) else none)
  | none => pure none

def skipDigits : Nat → Nat → JsonReader Nat
  | 0, n => pure n
  | fuel + 1, n => do
    match ← peekDigit with
    | some _ =>
      advance
      skipDigits fuel (n + 1)
    | none => pure n

def powerOfTen (n : Nat) : Float := Float.ofScientific 1 false n

/-- `x · 10 ^ exponent`, for an exponent down to far below what a float can hold. -/
def scale : Nat → Float → Int → JsonReader Float
  | 0, _, _ => pure 0
  | fuel + 1, x, exponent => do
    if exponent.natAbs ≤ 308 then
      if exponent ≥ 0 then
        let y := x * powerOfTen exponent.natAbs
        if y.isInf then fault .numberOutOfRange else pure y
      else pure (x / powerOfTen exponent.natAbs)
    else if x == 0 then pure x
    else if exponent ≥ 0 then fault .numberOutOfRange
    else scale fuel (x / powerOfTen 308) (exponent + 308)

/-- The float of a significand and a power of ten. A float is zero after three steps
down. -/
def floatOfParts (positive : Bool) (significand : Nat) (exponent : Int) : JsonReader Float := do
  let x ← scale 4 (UInt64.ofNat significand).toFloat exponent
  pure (if positive then x else -x)

/-- Digits of an exponent after its first; nothing when it grows too large. -/
def exponentDigits : Nat → Nat → JsonReader (Option Nat)
  | 0, n => pure (some n)
  | fuel + 1, n => do
    match ← peekDigit with
    | none => pure (some n)
    | some d =>
      advance
      if n * 10 + d > exponentMax then pure none
      else exponentDigits fuel (n * 10 + d)

def exponentSign : JsonReader Bool := do
  match ← peek with
  | some 43 => do
    advance
    pure false
  | some 45 => do
    advance
    pure true
  | _ => pure false

def exponentPart (positive : Bool) (significand : Nat) (start : Int) : JsonReader Float := do
  advance
  let negative ← exponentSign
  match ← next with
  | none => fault .valueEnds
  | some b =>
    if !isDigit b then fault .invalidNumber
    else
      match ← exponentDigits (← read).fuel (digitOf b) with
      | some n =>
        floatOfParts positive significand (if negative then start - n else start + n)
      | none =>
        if significand ≠ 0 && !negative then fault .numberOutOfRange
        else
          let _ ← skipDigits (← read).fuel 0
          pure (if positive then 0.0 else -0.0)

def isExponentLetter (b : Option UInt8) : Bool := b = some (code 'e') || b = some (code 'E')

def afterFraction (positive : Bool) (significand : Nat) (exponent : Int) :
    JsonReader Float := do
  if isExponentLetter (← peek) then exponentPart positive significand exponent
  else floatOfParts positive significand exponent

/-- Digits of a fraction; how many were taken, and the significand with them. -/
def fractionDigits : Nat → Nat → Nat → JsonReader (Nat × Nat × Bool)
  | 0, significand, count => pure (significand, count, false)
  | fuel + 1, significand, count => do
    match ← peekDigit with
    | none => pure (significand, count, false)
    | some d =>
      if significand * 10 + d > significandMax then pure (significand, count, true)
      else
        advance
        fractionDigits fuel (significand * 10 + d) (count + 1)

def fractionPart (positive : Bool) (significand : Nat) (exponent : Int) :
    JsonReader Float := do
  advance
  let fuel := (← read).fuel
  let (significand, count, full) ← fractionDigits fuel significand 0
  if full then
    let _ ← skipDigits fuel 0
    afterFraction positive significand (exponent - count)
  else if count = 0 then
    match ← peek with
    | some _ => faultAhead .invalidNumber
    | none => faultAhead .valueEnds
  else afterFraction positive significand (exponent - count)

def afterInteger (positive : Bool) (significand : Nat) : JsonReader Json := do
  let b ← peek
  if b = some (code '.') then pure (.float (← fractionPart positive significand 0))
  else if isExponentLetter b then pure (.float (← exponentPart positive significand 0))
  else if positive then pure (.int significand)
  else if 0 < significand && significand ≤ negativeMax then pure (.int (-significand))
  else pure (.float (-(UInt64.ofNat significand).toFloat))

def longInteger (positive : Bool) (significand : Nat) : JsonReader Json := do
  let dropped ← skipDigits (← read).fuel 0
  let b ← peek
  if b = some (code '.') then pure (.float (← fractionPart positive significand dropped))
  else if isExponentLetter b then
    pure (.float (← exponentPart positive significand dropped))
  else pure (.float (← floatOfParts positive significand dropped))

def integerDigits (positive : Bool) : Nat → Nat → JsonReader Json
  | 0, significand => afterInteger positive significand
  | fuel + 1, significand => do
    match ← peekDigit with
    | none => afterInteger positive significand
    | some d =>
      if significand * 10 + d > significandMax then longInteger positive significand
      else
        advance
        integerDigits positive fuel (significand * 10 + d)

def unsigned (positive : Bool) : JsonReader Json := do
  match ← next with
  | none => fault .valueEnds
  | some b =>
    if b = code '0' then
      match ← peekDigit with
      | some _ => faultAhead .invalidNumber
      | none => afterInteger positive 0
    else if isDigit b then integerDigits positive (← read).fuel (digitOf b)
    else fault .invalidNumber

def number : JsonReader Json := do
  if (← peek) = some (code '-') then
    advance
    unsigned false
  else unsigned true

def startsNumber (b : UInt8) : Bool := b = code '-' || isDigit b

def skipExponent : JsonReader Unit := do
  advance
  match ← peek with
  | some 43 => advance
  | some 45 => advance
  | _ => pure ()
  match ← next with
  | some b => if !isDigit b then fault .invalidNumber
  | none => fault .invalidNumber
  let _ ← skipDigits (← read).fuel 0

def skipFraction : JsonReader Unit := do
  advance
  if (← skipDigits (← read).fuel 0) = 0 then faultAhead .invalidNumber
  if isExponentLetter (← peek) then skipExponent

def skipNumber : JsonReader Unit := do
  if (← peek) = some (code '-') then advance
  match ← next with
  | some b =>
    if b = code '0' then
      if (← peekDigit).isSome then faultAhead .invalidNumber
    else if isDigit b then
      let _ ← skipDigits (← read).fuel 0
    else fault .invalidNumber
  | none => fault .invalidNumber
  let b ← peek
  if b = some (code '.') then skipFraction
  else if isExponentLetter b then skipExponent

end JsonReader

end ModHost
