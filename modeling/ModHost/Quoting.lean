set_option autoImplicit false

/-!
# Quoted text

A text between quotes, as messages and detailed output show it. The quote itself, the
backslash and common controls have short escapes; other characters that show nothing
are written by their code.
-/

namespace ModHost

def hexDigits (n : Nat) : String := String.ofList (Nat.toDigits 16 n)

/-- Characters that show nothing of their own: controls, separators, joiners, marks that
combine with their neighbour, and those without a meaning. -/
def isHidden (c : Char) : Bool :=
  let n := c.toNat
  n < 32 || (127 ≤ n && n ≤ 160) || n = 0xad || (0x300 ≤ n && n ≤ 0x36f)
    || (0x483 ≤ n && n ≤ 0x489) || n = 0x61c || n = 0x1680 || n = 0x180e
    || (0x1dc0 ≤ n && n ≤ 0x1dff) || (0x2000 ≤ n && n ≤ 0x200f)
    || (0x2028 ≤ n && n ≤ 0x202f) || (0x205f ≤ n && n ≤ 0x206f)
    || (0x20d0 ≤ n && n ≤ 0x20f0) || n = 0x3000 || n = 0x3099 || n = 0x309a
    || (0xe000 ≤ n && n ≤ 0xf8ff) || (0xfe00 ≤ n && n ≤ 0xfe0f)
    || (0xfe20 ≤ n && n ≤ 0xfe2f) || n = 0xfeff || (0xfff0 ≤ n && n ≤ 0xfffb)
    || n = 0xfffe || n = 0xffff || 0xe0000 ≤ n

def escapeChar (quote c : Char) : String :=
  if c = quote || c = '\\' then String.ofList ['\\', c]
  else if c = '\n' then "\\n"
  else if c = '\r' then "\\r"
  else if c = '\t' then "\\t"
  else if c = '\x00' then "\\0"
  else if isHidden c then "\\u\x7b" ++ hexDigits c.toNat ++ "\x7d"
  else String.ofList [c]

def quoted (s : String) : String :=
  "\"" ++ String.join (s.toList.map (escapeChar '"')) ++ "\""

def quotedChar (c : Char) : String := "'" ++ escapeChar '\'' c ++ "'"

end ModHost
