set_option autoImplicit false

/-!
# Random numbers

A deterministic generator: the ChaCha stream cipher with twelve rounds, its key expanded
from a 64-bit seed by a linear congruential sequence. A draw is the next 64 bits of the
stream. Numbers from a range are made from draws without bias, so a draw may be
rejected and another made.
-/

namespace ModHost

/-- A key, and how many draws have been made. -/
structure Generator where
  key : Array UInt32
  drawn : Nat
deriving Inhabited

namespace Generator

def rotateLeft (x : UInt32) (n : UInt32) : UInt32 := (x <<< n) ||| (x >>> (32 - n))

def quarterRound (s : Array UInt32) (a b c d : Nat) : Array UInt32 :=
  let mix (s : Array UInt32) (sum other rot : Nat) (n : UInt32) : Array UInt32 :=
    let s := s.set! sum (s[sum]! + s[other]!)
    s.set! rot (rotateLeft (s[rot]! ^^^ s[sum]!) n)
  let s := mix s a b d 16
  let s := mix s c d b 12
  let s := mix s a b d 8
  mix s c d b 7

def doubleRound (s : Array UInt32) : Array UInt32 :=
  let s := quarterRound s 0 4 8 12
  let s := quarterRound s 1 5 9 13
  let s := quarterRound s 2 6 10 14
  let s := quarterRound s 3 7 11 15
  let s := quarterRound s 0 5 10 15
  let s := quarterRound s 1 6 11 12
  let s := quarterRound s 2 7 8 13
  quarterRound s 3 4 9 14

def block (key : Array UInt32) (counter : Nat) : Array UInt32 :=
  let start : Array UInt32 :=
    #[0x61707865, 0x3320646e, 0x79622d32, 0x6b206574] ++ key ++
      #[UInt32.ofNat counter, UInt32.ofNat (counter / UInt32.size), 0, 0]
  let final := doubleRound (doubleRound (doubleRound (doubleRound (doubleRound
    (doubleRound start)))))
  Array.zipWith (· + ·) final start

/-- The next 64 bits: two words of the stream, the low one first. -/
def draw (g : Generator) : UInt64 × Generator :=
  let words := block g.key (g.drawn / 8)
  let i := 2 * (g.drawn % 8)
  let low := words[i]!.toUInt64
  let high := words[i + 1]!.toUInt64
  (low ||| (high <<< 32), { g with drawn := g.drawn + 1 })

def seedStep (state : UInt64) : UInt64 := state * 6364136223846793005 + 11634580027462260723

def seedWord (state : UInt64) : UInt32 :=
  let shifted := (((state >>> 18) ^^^ state) >>> 27).toUInt32
  let turn := (state >>> 59).toUInt32
  if turn = 0 then shifted else (shifted >>> turn) ||| (shifted <<< (32 - turn))

def seedWords (state : UInt64) : Nat → List UInt32
  | 0 => []
  | n + 1 =>
    let state := seedStep state
    seedWord state :: seedWords state n

def ofSeed (seed : UInt64) : Generator := ⟨(seedWords seed 8).toArray, 0⟩

/-- Take draws until one is accepted; `attempts` bounds the rejections. -/
def accept {α : Type} (ofDraw : UInt64 → Option α) (otherwise : α) (g : Generator) :
    Nat → α × Generator
  | 0 => (otherwise, g)
  | attempts + 1 =>
    let (bits, g) := g.draw
    match ofDraw bits with
    | some x => (x, g)
    | none => accept ofDraw otherwise g attempts

def attempts : Nat := 4096

def intRange (low high : Int64) (g : Generator) : Int64 × Generator :=
  let range := (high.toInt - low.toInt).toNat
  let zone := range <<< (63 - range.log2) - 1
  let ofDraw (bits : UInt64) : Option Int64 :=
    let product := bits.toNat * range
    if product % UInt64.size ≤ zone then
      some (Int64.ofInt (low.toInt + Int.ofNat (product / UInt64.size)))
    else none
  accept ofDraw low g attempts

def floatRange (low high : Float) (g : Generator) : Float × Generator :=
  let scale := high - low
  let ofDraw (bits : UInt64) : Option Float :=
    let oneToTwo := Float.ofBits ((bits >>> 12) ||| 0x3ff0000000000000)
    let x := (oneToTwo - 1.0) * scale + low
    if x < high then some x else none
  accept ofDraw low g attempts

end Generator

end ModHost
