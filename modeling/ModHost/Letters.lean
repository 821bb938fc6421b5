set_option autoImplicit false

/-!
# Letters and blanks

Which characters are blank, and how letters correspond in capital and small form. The
correspondence is a table of runs of small letters, each at a fixed distance from its
capitals, so that one table serves both directions.
-/

namespace ModHost

def isBlank (c : Char) : Bool :=
  let n := c.toNat
  (9 ≤ n && n ≤ 13) || n = 32 || n = 0x85 || n = 0xa0 || n = 0x1680
    || (0x2000 ≤ n && n ≤ 0x200a) || n = 0x2028 || n = 0x2029 || n = 0x202f
    || n = 0x205f || n = 0x3000

/-- Small letters from `first` to `last`, every `step`-th code, each `below` codes above
its capital. -/
structure LetterRun where
  first : Nat
  last : Nat
  step : Nat
  below : Int

namespace LetterRun

def all : List LetterRun :=
  [⟨0x61, 0x7a, 1, 32⟩, ⟨0xe0, 0xf6, 1, 32⟩, ⟨0xf8, 0xfe, 1, 32⟩, ⟨0xff, 0xff, 1, -121⟩,
   ⟨0x101, 0x12f, 2, 1⟩, ⟨0x133, 0x137, 2, 1⟩, ⟨0x13a, 0x148, 2, 1⟩, ⟨0x14b, 0x177, 2, 1⟩,
   ⟨0x17a, 0x17e, 2, 1⟩, ⟨0x1ce, 0x1dc, 2, 1⟩, ⟨0x1df, 0x1ef, 2, 1⟩, ⟨0x1f9, 0x21f, 2, 1⟩,
   ⟨0x223, 0x233, 2, 1⟩,
   ⟨0x3ac, 0x3ac, 1, 38⟩, ⟨0x3ad, 0x3af, 1, 37⟩, ⟨0x3b1, 0x3c1, 1, 32⟩,
   ⟨0x3c3, 0x3cb, 1, 32⟩, ⟨0x3cc, 0x3cc, 1, 64⟩, ⟨0x3cd, 0x3ce, 1, 63⟩,
   ⟨0x430, 0x44f, 1, 32⟩, ⟨0x450, 0x45f, 1, 80⟩, ⟨0x461, 0x481, 2, 1⟩, ⟨0x48b, 0x4bf, 2, 1⟩,
   ⟨0x4c2, 0x4ce, 2, 1⟩, ⟨0x4cf, 0x4cf, 1, 15⟩, ⟨0x4d1, 0x52f, 2, 1⟩,
   ⟨0x561, 0x586, 1, 48⟩, ⟨0x1e01, 0x1e95, 2, 1⟩, ⟨0x1ea1, 0x1eff, 2, 1⟩,
   ⟨0xff41, 0xff5a, 1, 32⟩]

def hasSmall (r : LetterRun) (n : Nat) : Bool :=
  r.first ≤ n && n ≤ r.last && (n - r.first) % r.step = 0

def hasCapital (r : LetterRun) (n : Nat) : Bool := r.hasSmall (n + r.below).toNat

end LetterRun

def capital (c : Char) : Char :=
  let n := c.toNat
  match LetterRun.all.find? (·.hasSmall n) with
  | some r => Char.ofNat (n - r.below).toNat
  | none =>
    if n = 0xb5 then Char.ofNat 0x39c
    else if n = 0x131 then 'I'
    else if n = 0x17f then 'S'
    else if n = 0x3c2 then Char.ofNat 0x3a3
    else c

def small (c : Char) : Char :=
  let n := c.toNat
  match LetterRun.all.find? (·.hasCapital n) with
  | some r => Char.ofNat (n + r.below).toNat
  | none => if n = 0x1e9e then Char.ofNat 0xdf else c

def isCased (c : Char) : Bool := capital c ≠ c || small c ≠ c

/-- A text in capitals; the sharp s has two. -/
def capitals (s : String) : String :=
  String.join (s.toList.map fun c =>
    if c.toNat = 0xdf then "SS"
    else if c.toNat = 0x149 then String.ofList [Char.ofNat 0x2bc, 'N']
    else String.ofList [capital c])

/-- Small letters of a text, where `inWord` tells whether a letter precedes: a sigma
that ends a word has a form of its own. -/
def smallLetters : Bool → List Char → List Char
  | _, [] => []
  | inWord, c :: rest =>
    if c.toNat = 0x3a3 then
      let ends := inWord && !(rest.head?.any isCased)
      Char.ofNat (if ends then 0x3c2 else 0x3c3) :: smallLetters true rest
    else if c.toNat = 0x130 then 'i' :: Char.ofNat 0x307 :: smallLetters true rest
    else small c :: smallLetters (isCased c) rest

def smalls (s : String) : String := String.ofList (smallLetters false s.toList)

end ModHost
