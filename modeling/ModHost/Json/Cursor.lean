import ModHost.Json.Fault

set_option autoImplicit false

/-!
# Reading JSON text

A reader moves a cursor over the bytes of a text and keeps count of lines and columns,
so that a fault can be placed. A text that is held in memory is looked at without being
read, so a fault lies after the bytes taken; a text that streams has been read as far as
it was looked at, so the byte in view counts too. What a reader has taken stays taken
when it fails, which later faults depend on.
-/

namespace ModHost

structure JsonCursor where
  rest : List UInt8
  line : Nat
  column : Nat
  inView : Bool

structure JsonReading where
  streamed : Bool
  /-- Containers that may still be opened, and one. -/
  depth : Nat
  /-- More than the bytes of the text, a bound of every loop. -/
  fuel : Nat

abbrev JsonReader := ReaderT JsonReading (EStateM PlacedFault JsonCursor)

namespace JsonReader

def depthLimit : Nat := 128

def run {α : Type} (r : JsonReader α) (streamed : Bool) (bytes : List UInt8) :
    Except PlacedFault α :=
  match r ⟨streamed, depthLimit, bytes.length + 1⟩ ⟨bytes, 1, 0, false⟩ with
  | .ok a _ => .ok a
  | .error e _ => .error e

def code (c : Char) : UInt8 := UInt8.ofNat c.toNat

def peek : JsonReader (Option UInt8) := do
  match (← get).rest with
  | [] => pure none
  | b :: _ =>
    modify fun c => { c with inView := true }
    pure (some b)

def placeAfter (b : UInt8) (line column : Nat) : Nat × Nat :=
  if b = code '\n' then (line + 1, 0) else (line, column + 1)

def next : JsonReader (Option UInt8) := do
  let c ← get
  match c.rest with
  | [] => pure none
  | b :: rest =>
    let (line, column) := placeAfter b c.line c.column
    set { rest := rest, line := line, column := column, inView := false : JsonCursor }
    pure (some b)

def advance : JsonReader Unit := do
  let _ ← next

def aheadOf (c : JsonCursor) : Nat × Nat :=
  match c.rest with
  | [] => (c.line, c.column)
  | b :: _ => placeAfter b c.line c.column

def here : JsonReader (Nat × Nat) := do
  let c ← get
  pure (if (← read).streamed && c.inView then aheadOf c else (c.line, c.column))

def ahead : JsonReader (Nat × Nat) := do
  let c ← get
  pure (if (← read).streamed && !c.inView then (c.line, c.column) else aheadOf c)

def fault {α : Type} (f : JsonFault) : JsonReader α := do throw ⟨f, some (← here)⟩

def faultAhead {α : Type} (f : JsonFault) : JsonReader α := do throw ⟨f, some (← ahead)⟩

/-- A fault of the shape, whose place the surrounding reader tells. -/
def unplaced {α : Type} (f : JsonFault) : JsonReader α := throw ⟨f, none⟩

def attempt {α : Type} (r : JsonReader α) : JsonReader (Except PlacedFault α) := fun env c =>
  match r env c with
  | .ok a c => .ok (.ok a) c
  | .error e c => .ok (.error e) c

/-- A fault without a place lies where the reader stopped. -/
def placed {α : Type} (r : JsonReader α) : JsonReader α := do
  match ← attempt r with
  | .ok a => pure a
  | .error e =>
    match e.place with
    | some _ => throw e
    | none => fault e.fault

def isBlank (b : UInt8) : Bool := b = 32 || b = 10 || b = 9 || b = 13

def skipBlanks : Nat → JsonReader (Option UInt8)
  | 0 => peek
  | fuel + 1 => do
    match ← peek with
    | some b =>
      if isBlank b then
        advance
        skipBlanks fuel
      else pure (some b)
    | none => pure none

def token : JsonReader (Option UInt8) := do skipBlanks (← read).fuel

def valueStart : JsonReader UInt8 := do
  match ← token with
  | some b => pure b
  | none => faultAhead .valueEnds

/-- Read inside a container, of which only so many may be open. -/
def nested {α : Type} (r : JsonReader α) : JsonReader α := do
  let depth := (← read).depth
  if depth ≤ 1 then faultAhead .tooDeep
  else
    advance
    fun env => r { env with depth := depth - 1 }

/-- Read a container's content and then its end, which is read even if the content had a
fault. -/
def closing {α : Type} (content : JsonReader α) (close : JsonReader Unit) : JsonReader α := do
  let a ← attempt content
  let b ← attempt close
  match a, b with
  | .ok a, .ok _ => pure a
  | .error e, _ => throw e
  | _, .error e => throw e

def endList : JsonReader Unit := do
  match ← token with
  | none => faultAhead .listEnds
  | some b =>
    if b = code ']' then advance
    else if b = code ',' then
      advance
      match ← token with
      | some 93 => faultAhead .trailingComma
      | _ => faultAhead .trailingCharacters
    else faultAhead .trailingCharacters

def endObject : JsonReader Unit := do
  match ← token with
  | none => faultAhead .objectEnds
  | some b =>
    if b = 125 then advance
    else if b = code ',' then faultAhead .trailingComma
    else faultAhead .trailingCharacters

def moreItems (first : Bool) : JsonReader Bool := do
  match ← token with
  | none => faultAhead .listEnds
  | some b =>
    if b = code ']' then pure false
    else if first then pure true
    else if b = code ',' then
      advance
      match ← token with
      | none => faultAhead .valueEnds
      | some b => if b = code ']' then faultAhead .trailingComma else pure true
    else faultAhead .listContinuationExpected

/-- Whether an object goes on; then the quote of a key is in view. -/
def moreMembers (first : Bool) : JsonReader Bool := do
  match ← token with
  | none => faultAhead .objectEnds
  | some b =>
    if b = 125 then pure false
    else if first then
      if b = code '"' then pure true else faultAhead .keyNotString
    else if b = code ',' then
      advance
      match ← token with
      | none => faultAhead .valueEnds
      | some b =>
        if b = code '"' then pure true
        else if b = 125 then faultAhead .trailingComma
        else faultAhead .keyNotString
    else faultAhead .objectContinuationExpected

def colon : JsonReader Unit := do
  match ← token with
  | none => faultAhead .objectEnds
  | some b => if b = code ':' then advance else faultAhead .colonExpected

def endText : JsonReader Unit := do
  match ← token with
  | none => pure ()
  | some _ => faultAhead .trailingCharacters

def ident : List Char → JsonReader Unit
  | [] => pure ()
  | c :: rest => do
    match ← next with
    | none => fault .valueEnds
    | some b => if b = code c then ident rest else fault .identExpected

def word (rest : String) : JsonReader Unit := do
  advance
  ident rest.toList

end JsonReader

end ModHost
