import ModHost.Json.Reader

set_option autoImplicit false

/-!
# Shapes of documents

What a document must look like to be taken for a value of some type. A document is
checked in two ways: while it is read from text, so that the first fault is found at its
place; or as a value. Both answer the document in normal form: an object has all the
fields of its record in declared order, a missing one with its default, and an optional
value that is missing is null.

A record is written as an object, or as a list of its fields in declared order. Fields
that the record does not have are passed over. A choice is a name, or an object with the
name as its only key and null under it.
-/

namespace ModHost

mutual

inductive JsonShape where
  | any
  | boolean
  /-- An integer from `least` to `greatest`. -/
  | integer (type : String) (least greatest : Int)
  | text (what : String)
  | choice (names : List String)
  | optional (shape : JsonShape)
  | list (shape : JsonShape)
  | record (name : String) (fields : List JsonField)

/-- A field of a record. Without a default it must be there, unless it is optional. -/
inductive JsonField where
  | mk (name : String) (shape : JsonShape) (default? : Option Json)

end

namespace JsonField

def required (name : String) (shape : JsonShape) : JsonField := ⟨name, shape, none⟩

def withDefault (name : String) (shape : JsonShape) (value : Json) : JsonField :=
  ⟨name, shape, some value⟩

end JsonField

namespace JsonShape

def expected : JsonShape → String
  | any => "any valid JSON value"
  | boolean => "a boolean"
  | integer type _ _ => type
  | text what => what
  | choice _ => "variant identifier"
  | optional _ => "option"
  | list _ => "a sequence"
  | record name _ => "struct " ++ name

structure Part (χ : Type) where
  name : String
  check : χ
  default? : Option Json
  isOptional : Bool

/-- What a missing field of an object is. -/
def Part.ifMissing {χ : Type} (p : Part χ) : Except JsonFault Json :=
  match p.default? with
  | some j => .ok j
  | none => if p.isOptional then .ok .null else .error (.missingField p.name)

def Part.find? {χ : Type} (parts : List (Part χ)) (name : String) : Option (Part χ) :=
  List.find? (fun p => p.name = name) parts

/-- The fields found, in declared order and with defaults. -/
def assemble {χ : Type} (found : List (String × Json)) :
    List (Part χ) → Except JsonFault (List (String × Json))
  | [] => .ok []
  | p :: rest => do
    let j ← match Json.lookup p.name found with
      | some j => .ok j
      | none => p.ifMissing
    pure ((p.name, j) :: (← assemble found rest))

def recordLength (name : String) (n : Nat) : String :=
  s!"struct {name} with {n} element" ++ (if n = 1 then "" else "s")

def checkInteger (type : String) (least greatest : Int) : Json → Except JsonFault Json
  | .int n =>
    if least ≤ n ∧ n ≤ greatest then .ok (.int n)
    else .error (.wrongValue (.int n) type)
  | j => .error (.wrongType (.ofJson j) type)

def checkChoice (names : List String) (s : String) : Except JsonFault Json :=
  if names.contains s then .ok (.str s) else .error (.unknownVariant s names)

def isOptional : JsonShape → Bool
  | optional _ => true
  | _ => false

abbrev Check := Json → Except JsonFault Json

def checkItems (name : String) (total : Nat) :
    List (Part Check) → List Json → Nat → Except JsonFault (List (String × Json) × List Json)
  | [], items, _ => .ok ([], items)
  | p :: rest, [], i =>
    match p.default? with
    | some j => do
      let (found, items) ← checkItems name total rest [] (i + 1)
      pure ((p.name, j) :: found, items)
    | none => .error (.wrongLength i (recordLength name total))
  | p :: rest, j :: items, i => do
    let j ← p.check j
    let (found, items) ← checkItems name total rest items (i + 1)
    pure ((p.name, j) :: found, items)

def checkEntries (parts : List (Part Check)) :
    List (String × Json) → Except JsonFault (List (String × Json))
  | [] => .ok []
  | (key, j) :: rest =>
    match Part.find? parts key with
    | some p => do
      let j ← p.check j
      pure ((key, j) :: (← checkEntries parts rest))
    | none => checkEntries parts rest

def checkRecord (name : String) (parts : List (Part Check)) : Check
  | .arr items => do
    let (found, left) ← checkItems name parts.length parts items 0
    if left.isEmpty then pure (.obj found)
    else throw (.wrongLength items.length "fewer elements in array")
  | .obj entries => do pure (.obj (← assemble (← checkEntries parts entries) parts))
  | j => .error (.wrongType (.ofJson j) ("struct " ++ name))

mutual

def check : JsonShape → Check
  | any, j => .ok j
  | boolean, .bool b => .ok (.bool b)
  | boolean, j => .error (.wrongType (.ofJson j) "a boolean")
  | integer type least greatest, j => checkInteger type least greatest j
  | text _, .str s => .ok (.str s)
  | text what, j => .error (.wrongType (.ofJson j) what)
  | choice names, .str s => checkChoice names s
  | choice names, .obj [(s, j)] => do
    let choice ← checkChoice names s
    match j with
    | .null => pure choice
    | j => throw (.wrongType (.ofJson j) "unit")
  | choice _, .obj _ => .error (.wrongValue .map "map with a single key")
  | choice _, j => .error (.wrongType (.ofJson j) "string or map")
  | optional _, .null => .ok .null
  | optional shape, j => check shape j
  | list shape, .arr items => do pure (.arr (← items.mapM (check shape)))
  | list _, j => .error (.wrongType (.ofJson j) "a sequence")
  | record name fields, j => checkRecord name (checkParts fields) j

def checkParts : List JsonField → List (Part Check)
  | [] => []
  | ⟨name, shape, default?⟩ :: rest =>
    ⟨name, check shape, default?, shape.isOptional⟩ :: checkParts rest

end

open JsonReader

def wrongType {α : Type} (expected : String) : JsonReader α := do
  let b ← valueStart
  let found : JsonFinding ←
    if b = code '[' then pure .sequence
    else if b = 123 then pure .map
    else pure (.ofJson (← value))
  unplaced (.wrongType found expected)

def ofExcept {α : Type} : Except JsonFault α → JsonReader α
  | .ok a => pure a
  | .error f => unplaced f

def readName (names : List String) : JsonReader Json := placed do
  if (← valueStart) = code '"' then ofExcept (checkChoice names (← string))
  else wrongType "variant identifier"

def readUnit : JsonReader Unit := placed do
  if (← valueStart) = code 'n' then word "ull" else wrongType "unit"

def readChoice (names : List String) : JsonReader Json := do
  let b ← valueStart
  if b = code '"' then readName names
  else if b = 123 then
    let choice ← nested do
      let choice ← readName names
      colon
      readUnit
      pure choice
    match ← token with
    | some 125 =>
      advance
      pure choice
    | some _ => fault .valueExpected
    | none => fault .objectEnds
  else faultAhead .valueExpected

def readItems (name : String) (total : Nat) :
    List (Part (JsonReader Json)) → Nat → JsonReader (List (String × Json))
  | [], _ => pure []
  | p :: rest, i => do
    if ← moreItems (i = 0) then
      let j ← p.check
      pure ((p.name, j) :: (← readItems name total rest (i + 1)))
    else
      match p.default? with
      | some j => pure ((p.name, j) :: (← readItems name total rest (i + 1)))
      | none => unplaced (.wrongLength i (recordLength name total))

def readMember (parts : List (Part (JsonReader Json))) (found : List (String × Json))
    (key : String) : JsonReader (List (String × Json)) := do
  match Part.find? parts key with
  | some p =>
    if (Json.lookup key found).isSome then unplaced (.duplicateField key)
    colon
    pure ((key, ← p.check) :: found)
  | none =>
    colon
    skipValue
    pure found

def readRecord (name : String) (parts : List (Part (JsonReader Json))) : JsonReader Json :=
  placed do
    let b ← valueStart
    let fuel := (← read).fuel
    if b = code '[' then
      pure (.obj (← closing (nested (readItems name parts.length parts 0)) endList))
    else if b = 123 then
      let content := do
        let found ← members (readMember parts) fuel true []
        ofExcept (assemble found parts)
      pure (.obj (← closing (nested content) endObject))
    else wrongType ("struct " ++ name)

mutual

def read : JsonShape → JsonReader Json
  | any => value
  | boolean => placed do
    let b ← valueStart
    if b = code 't' then
      word "rue"
      pure (.bool true)
    else if b = code 'f' then
      word "alse"
      pure (.bool false)
    else wrongType "a boolean"
  | integer type least greatest => placed do
    if startsNumber (← valueStart) then
      ofExcept (checkInteger type least greatest (← number))
    else wrongType type
  | text what => placed do
    if (← valueStart) = code '"' then pure (.str (← string)) else wrongType what
  | choice names => readChoice names
  | optional shape => do
    if (← token) = some (code 'n') then
      word "ull"
      pure .null
    else read shape
  | list shape => placed do
    if (← valueStart) = code '[' then pure (.arr (← JsonReader.list (read shape)))
    else wrongType "a sequence"
  | record name fields => readRecord name (readParts fields)

def readParts : List JsonField → List (Part (JsonReader Json))
  | [] => []
  | ⟨name, shape, default?⟩ :: rest =>
    ⟨name, read shape, default?, shape.isOptional⟩ :: readParts rest

end

/-- Read a whole text as a document of a shape. -/
def readText (shape : JsonShape) (streamed : Bool) (bytes : List UInt8) :
    Except PlacedFault Json :=
  JsonReader.run (do
    let j ← read shape
    endText
    pure j) streamed bytes

end JsonShape

end ModHost
