import ModHost.Json.Cursor

set_option autoImplicit false

/-!
# Strings of JSON text

The body of a string: its bytes with escapes resolved, which must be UTF-8, and the body
of a string that is passed over.
-/

namespace ModHost

namespace Utf8

def isTail (b : UInt8) : Bool := 0x80 ≤ b && b ≤ 0xbf

def follows (first second : UInt8) : Bool :=
  if first = 0xe0 then 0xa0 ≤ second && second ≤ 0xbf
  else if first = 0xed then 0x80 ≤ second && second ≤ 0x9f
  else if first = 0xf0 then 0x90 ≤ second && second ≤ 0xbf
  else if first = 0xf4 then 0x80 ≤ second && second ≤ 0x8f
  else isTail second

/-- How many bytes from the start are whole characters. -/
def validLength : List UInt8 → Nat
  | [] => 0
  | a :: rest =>
    if a < 0x80 then validLength rest + 1
    else match rest with
      | [] => 0
      | b :: rest =>
        if !follows a b || a < 0xc2 || a > 0xf4 then 0
        else if a < 0xe0 then validLength rest + 2
        else match rest with
          | [] => 0
          | c :: rest =>
            if !isTail c then 0
            else if a < 0xf0 then validLength rest + 3
            else match rest with
              | [] => 0
              | d :: rest => if isTail d then validLength rest + 4 else 0

end Utf8

namespace JsonReader

def orStringEnds (b : Option UInt8) : JsonReader UInt8 :=
  match b with
  | some b => pure b
  | none => fault .stringEnds

def hexValue (b : UInt8) : Option Nat :=
  if 48 ≤ b && b ≤ 57 then some (b.toNat - 48)
  else if 97 ≤ b && b ≤ 102 then some (b.toNat - 87)
  else if 65 ≤ b && b ≤ 70 then some (b.toNat - 55)
  else none

def hexCode : JsonReader Nat := do
  let a ← orStringEnds (← next)
  let b ← orStringEnds (← next)
  let c ← orStringEnds (← next)
  let d ← orStringEnds (← next)
  match hexValue a, hexValue b, hexValue c, hexValue d with
  | some a, some b, some c, some d => pure (((a * 16 + b) * 16 + c) * 16 + d)
  | _, _, _, _ => fault .invalidEscape

def surrogateMark (mark : Char) : JsonReader Unit := do
  let b ← orStringEnds (← peek)
  advance
  if b ≠ code mark then fault .escapeEnds

def unicodeEscape : JsonReader Char := do
  let n ← hexCode
  if 0xdc00 ≤ n && n ≤ 0xdfff then fault .loneSurrogate
  else if 0xd800 ≤ n && n ≤ 0xdbff then
    surrogateMark '\\'
    surrogateMark 'u'
    let low ← hexCode
    if 0xdc00 ≤ low && low ≤ 0xdfff then
      pure (Char.ofNat ((n - 0xd800) * 0x400 + (low - 0xdc00) + 0x10000))
    else fault .loneSurrogate
  else pure (Char.ofNat n)

def escapedChar : JsonReader Char := do
  let b ← orStringEnds (← next)
  if b = code '"' then pure '"'
  else if b = code '\\' then pure '\\'
  else if b = code '/' then pure '/'
  else if b = code 'b' then pure '\x08'
  else if b = code 'f' then pure '\x0c'
  else if b = code 'n' then pure '\n'
  else if b = code 'r' then pure '\r'
  else if b = code 't' then pure '\t'
  else if b = code 'u' then unicodeEscape
  else fault .invalidEscape

/-- The text of bytes that end where the reader is. Bytes that are no text are faulty
from the first of them on. -/
def textOf (bytes : List UInt8) : JsonReader String := do
  match String.fromUTF8? ⟨bytes.toArray⟩ with
  | some s => pure s
  | none =>
    let (line, column) ← here
    throw ⟨.invalidCodePoint, some (line, column - (bytes.length - Utf8.validLength bytes))⟩

/-- The body of a string and its closing quote; `taken` holds the bytes so far, the last
first. -/
def stringBody : Nat → List UInt8 → JsonReader String
  | 0, _ => fault .stringEnds
  | fuel + 1, taken => do
    let b ← orStringEnds (← next)
    if b = code '"' then textOf taken.reverse
    else if b = code '\\' then
      let c ← escapedChar
      stringBody fuel (c.toString.toUTF8.toList.reverse ++ taken)
    else if b < 32 then fault .controlCharacter
    else stringBody fuel (b :: taken)

def string : JsonReader String := do
  advance
  stringBody (← read).fuel []

def skipEscape : JsonReader Unit := do
  let b ← orStringEnds (← next)
  if b = code 'u' then
    let _ ← hexCode
  else if !("\"\\/bfnrt".toList.any fun c => code c = b) then fault .invalidEscape

/-- Pass over the body of a string. A control character is not taken. -/
def skipStringBody : Nat → JsonReader Unit
  | 0 => fault .stringEnds
  | fuel + 1 => do
    let b ← orStringEnds (← peek)
    if b = code '"' then advance
    else if b = code '\\' then
      advance
      skipEscape
      skipStringBody fuel
    else if b < 32 then fault .controlCharacter
    else
      advance
      skipStringBody fuel

def skipString : JsonReader Unit := do
  advance
  skipStringBody (← read).fuel

end JsonReader

end ModHost
