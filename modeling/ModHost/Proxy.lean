import ModHost.Player
import ModHost.Script.Value

set_option autoImplicit false

/-!
# Proxies

A script never holds a player record, only a proxy: the kind of record, the table and
the slot, and the session that handed it out. Every access looks the record up again,
so a proxy that outlives its session, its table or its slot fails with an error that
says so. A read fails for the first of: an unknown field, a session that is over, a
released table, a borrowed table, a missing slot. A write checks after the field's name
also that the field can be written and that the value has the field's type, and at the
very end that the value fits.
-/

namespace ModHost

open Script (Value)

/-- How the host's table stands at the moment of an access. -/
inductive Storage where
  | held (players : PlayerTable)
  /-- The host is reading the table, so that it can be read but not written. -/
  | lent (players : PlayerTable)
  | borrowed
  | released
deriving Inhabited

structure ObjectProxy where
  kind : ObjectKind
  table : Nat
  slot : Nat
  session : Nat
deriving DecidableEq, Repr, Inhabited

/-- What a proxy meets when it is used: whether its session is live, and its table. -/
structure Surrounding where
  sessionLive : Bool
  storage : Storage
deriving Inhabited

namespace FieldValue

def toValue : FieldValue → Value
  | int n => .int n
  | float x => .float x

def ofValue (field : Field) (v : Value) : Except ProxyError FieldValue :=
  match field.type, v with
  | .int, .int n => .ok (.int n)
  | .int, v => .error (.typeMismatch field.name "an integer" v.nativeTypeName)
  | .float, .float x => .ok (.float x)
  | .float, .int n => .ok (.float n.toFloat)
  | .float, v => .error (.typeMismatch field.name "a number" v.nativeTypeName)

end FieldValue

namespace Proxy

def checkSession (kind : ObjectKind) (s : Surrounding) : Except ProxyError Unit :=
  if s.sessionLive then .ok () else .error (.staleSession kind)

def reach (kind : ObjectKind) (writing : Bool) : Storage → Except ProxyError PlayerTable
  | .held players => .ok players
  | .lent players => if writing then .error (.busy kind) else .ok players
  | .borrowed => .error (.busy kind)
  | .released => .error (.released kind)

def recordAt (kind : ObjectKind) (players : PlayerTable) (slot : Nat) :
    Except ProxyError PlayerState :=
  match players[slot]? with
  | some p => .ok p
  | none => .error (.outOfBounds kind slot players.size)

def resolve (kind : ObjectKind) (writing : Bool) (s : Surrounding) (slot : Nat) :
    Except ProxyError (PlayerTable × PlayerState) := do
  checkSession kind s
  let players ← reach kind writing s.storage
  let p ← recordAt kind players slot
  pure (players, p)

def field (kind : ObjectKind) (name : String) : Except ProxyError Field :=
  match Field.ofName? name with
  | some f => .ok f
  | none => .error (.unknownField kind name)

def get (kind : ObjectKind) (s : Surrounding) (slot : Nat) (name : String) :
    Except ProxyError Value := do
  let f ← field kind name
  let (_, p) ← resolve kind false s slot
  match p.readField f.name with
  | some v => pure v.toValue
  | none => throw (.unknownField kind name)

def set (kind : ObjectKind) (s : Surrounding) (slot : Nat) (name : String) (v : Value) :
    Except ProxyError PlayerTable := do
  let f ← field kind name
  if !f.writable then throw (.readOnly kind name)
  let value ← FieldValue.ofValue f v
  let (players, p) ← resolve kind true s slot
  let p ← p.writeField f.name value
  pure (players.setIfInBounds slot p)

def isValid (kind : ObjectKind) (s : Surrounding) (slot : Nat) : Bool :=
  match resolve kind false s slot with
  | .ok _ => true
  | .error _ => false

def text (kind : ObjectKind) (slot : Nat) : String := s!"{kind.name}[{slot}]"

def debugText (kind : ObjectKind) (slot : Nat) : String :=
  "ObjectProxy \x7b kind: " ++ kind.name ++ ", target: Player \x7b table: (Weak), slot: "
    ++ toString slot ++ " \x7d, session: (Weak) \x7d"

end Proxy

/-- All that proxies can meet: which sessions are live, and how each table stands. -/
structure Surroundings where
  live : Nat → Bool
  storage : Nat → Storage

namespace Surroundings

def put (s : Surroundings) (table : Nat) (players : PlayerTable) : Surroundings :=
  { s with storage := fun t => if t = table then .held players else s.storage t }

end Surroundings

namespace ObjectProxy

/-- Whether two proxies view the same record, whichever sessions handed them out. -/
def sameTarget (a b : ObjectProxy) : Bool :=
  a.kind = b.kind && a.slot = b.slot && a.table = b.table

def around (p : ObjectProxy) (s : Surroundings) : Surrounding :=
  ⟨s.live p.session, s.storage p.table⟩

def get (p : ObjectProxy) (s : Surroundings) (name : String) : Except ProxyError Value :=
  Proxy.get p.kind (p.around s) p.slot name

def set (p : ObjectProxy) (s : Surroundings) (name : String) (v : Value) :
    Except ProxyError Unit × Surroundings :=
  match Proxy.set p.kind (p.around s) p.slot name v with
  | .ok players => (.ok (), s.put p.table players)
  | .error e => (.error e, s)

def isValid (p : ObjectProxy) (s : Surroundings) : Bool :=
  Proxy.isValid p.kind (p.around s) p.slot

end ObjectProxy

end ModHost
