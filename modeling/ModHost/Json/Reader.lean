import ModHost.Json.Characters
import ModHost.Json.Number

set_option autoImplicit false

/-!
# Whole values of JSON text

Reading any value, and passing over one. A value that is passed over may be nested as
deeply as it likes, and its strings need not be text.
-/

namespace ModHost

namespace JsonReader

def items {α : Type} (item : JsonReader α) : Nat → Bool → JsonReader (List α)
  | 0, _ => pure []
  | fuel + 1, first => do
    if ← moreItems first then
      let a ← item
      pure (a :: (← items item fuel false))
    else pure []

def members {σ : Type} (member : σ → String → JsonReader σ) :
    Nat → Bool → σ → JsonReader σ
  | 0, _, s => pure s
  | fuel + 1, first, s => do
    if ← moreMembers first then
      let key ← string
      members member fuel false (← member s key)
    else pure s

def list {α : Type} (item : JsonReader α) : JsonReader (List α) := do
  let fuel := (← read).fuel
  closing (nested (items item fuel true)) endList

def object {σ : Type} (member : σ → String → JsonReader σ) (s : σ) : JsonReader σ := do
  let fuel := (← read).fuel
  closing (nested (members member fuel true s)) endObject

/-- A value with containers up to the given depth. -/
def valueUpTo : Nat → JsonReader Json
  | 0 => faultAhead .tooDeep
  | depth + 1 => do
    let b ← valueStart
    if b = code 'n' then
      word "ull"
      pure .null
    else if b = code 't' then
      word "rue"
      pure (.bool true)
    else if b = code 'f' then
      word "alse"
      pure (.bool false)
    else if startsNumber b then number
    else if b = code '"' then pure (.str (← string))
    else if b = code '[' then pure (.arr (← list (valueUpTo depth)))
    else if b = 123 then
      let member (entries : List (String × Json)) (key : String) :
          JsonReader (List (String × Json)) := do
        colon
        pure (Json.insert key (← valueUpTo depth) entries)
      pure (.obj (← object member []))
    else faultAhead .valueExpected

def value : JsonReader Json := valueUpTo depthLimit

inductive Open where
  | list
  | object
deriving DecidableEq

def skipKey : JsonReader Unit := do
  match ← token with
  | none => faultAhead .objectEnds
  | some b => if b = code '"' then skipString else faultAhead .keyNotString
  colon

/-- Pass over ends of containers, and the comma after them. What is left is the stack of
open containers, with the one that goes on first; nothing, when all are closed. -/
def skipEnds : Nat → Bool → Open → List Open → JsonReader (Option (List Open))
  | 0, _, _, _ => pure none
  | fuel + 1, afterValue, inner, outer => do
    match ← token with
    | none => faultAhead (if inner = .list then .listEnds else .objectEnds)
    | some b =>
      if b = code ',' && afterValue then
        advance
        pure (some (inner :: outer))
      else if (b = code ']' && inner = .list) || (b = 125 && inner = .object) then
        advance
        match outer with
        | [] => pure none
        | next :: rest => skipEnds fuel true next rest
      else if afterValue then
        faultAhead
          (if inner = .list then .listContinuationExpected else .objectContinuationExpected)
      else pure (some (inner :: outer))

/-- Pass over a value that lies in the given open containers. -/
def skipFrom : Nat → List Open → JsonReader Unit
  | 0, _ => pure ()
  | fuel + 1, stack => do
    let b ← valueStart
    let opened : Option Open ←
      if b = code 'n' then do
        word "ull"
        pure none
      else if b = code 't' then do
        word "rue"
        pure none
      else if b = code 'f' then do
        word "alse"
        pure none
      else if startsNumber b then do
        skipNumber
        pure none
      else if b = code '"' then do
        skipString
        pure none
      else if b = code '[' then do
        advance
        pure (some .list)
      else if b = 123 then do
        advance
        pure (some .object)
      else faultAhead .valueExpected
    let fuelled := (← read).fuel
    let left ← match opened, stack with
      | some c, _ => skipEnds fuelled false c stack
      | none, c :: rest => skipEnds fuelled true c rest
      | none, [] => pure none
    match left with
    | none => pure ()
    | some stack =>
      if stack.head? = some .object then skipKey
      skipFrom fuel stack

def skipValue : JsonReader Unit := do skipFrom (← read).fuel []

end JsonReader

end ModHost
