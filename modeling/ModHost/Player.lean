import ModHost.FloatWidth
import ModHost.Log

set_option autoImplicit false

/-!
# Player records

The simulation state of every player slot. `Field` lists the parts of a record that
scripts can reach, in the order in which they are declared; each has a type, and
whether scripts may write it. A record itself is read and written by the names of its
fields. Integer fields are narrower than script integers, so a write checks the range.
-/

namespace ModHost

inductive ObjectKind where
  | playerState
deriving DecidableEq, Repr, Inhabited

namespace ObjectKind

def all : List ObjectKind := [playerState]

def name : ObjectKind → String
  | playerState => "PlayerState"

end ObjectKind

/-- A field's value, before it is narrowed to the width of the record. -/
inductive FieldValue where
  | int (n : Int64)
  | float (x : Float)
deriving Inhabited

inductive FieldType where
  | int
  | float
deriving DecidableEq, Repr, Inhabited

inductive Field where
  | index | health | coins | lives | stars | action | flags | faceYaw
  | forwardVel | posX | posY | posZ | velX | velY | velZ
deriving DecidableEq, Repr, Inhabited

namespace Field

def all : List Field :=
  [index, health, coins, lives, stars, action, flags, faceYaw,
    forwardVel, posX, posY, posZ, velX, velY, velZ]

def name : Field → String
  | index => "index"
  | health => "health"
  | coins => "coins"
  | lives => "lives"
  | stars => "stars"
  | action => "action"
  | flags => "flags"
  | faceYaw => "face_yaw"
  | forwardVel => "forward_vel"
  | posX => "pos_x"
  | posY => "pos_y"
  | posZ => "pos_z"
  | velX => "vel_x"
  | velY => "vel_y"
  | velZ => "vel_z"

def type : Field → FieldType
  | index | health | coins | lives | stars | action | flags | faceYaw => .int
  | forwardVel | posX | posY | posZ | velX | velY | velZ => .float

def writable : Field → Bool
  | index => false
  | _ => true

def ofName? (name : String) : Option Field := all.find? (·.name = name)

end Field

namespace ObjectKind

def fields : ObjectKind → List Field
  | playerState => Field.all

end ObjectKind

inductive ProxyError where
  | staleSession (kind : ObjectKind)
  | released (kind : ObjectKind)
  | busy (kind : ObjectKind)
  | outOfBounds (kind : ObjectKind) (slot length : Nat)
  | unknownField (kind : ObjectKind) (field : String)
  | readOnly (kind : ObjectKind) (field : String)
  | typeMismatch (field expected found : String)
  | outOfRange (field value : String)
deriving DecidableEq, Repr, Inhabited

namespace ProxyError

def label : ProxyError → String
  | staleSession _ => "StaleSession"
  | released _ => "Released"
  | busy _ => "Busy"
  | outOfBounds _ _ _ => "OutOfBounds"
  | unknownField _ _ => "UnknownField"
  | readOnly _ _ => "ReadOnly"
  | typeMismatch _ _ _ => "TypeMismatch"
  | outOfRange _ _ => "OutOfRange"

def message : ProxyError → String
  | staleSession kind =>
    s!"{kind.name} proxy belongs to an interpreter session that no longer exists"
  | released kind => s!"{kind.name} storage has been released by the host"
  | busy kind => s!"{kind.name} storage is borrowed by the host"
  | outOfBounds kind slot length => s!"{kind.name} slot {slot} is out of bounds (len {length})"
  | unknownField kind field => s!"{kind.name} has no field '{field}'"
  | readOnly kind field => s!"{kind.name}.{field} is read-only"
  | typeMismatch field expected found => s!"{field} expects {expected}, got {found}"
  | outOfRange field value => s!"{field} cannot hold {value}"

end ProxyError

structure Vec3 where
  x : Float32
  y : Float32
  z : Float32
deriving Inhabited

def Vec3.zero : Vec3 := ⟨0, 0, 0⟩

structure PlayerState where
  index : UInt8
  health : Int16
  coins : Int16
  lives : Int8
  stars : Int16
  action : UInt32
  flags : UInt32
  faceYaw : Int16
  forwardVel : Float32
  pos : Vec3
  vel : Vec3
deriving Inhabited

namespace FieldValue

def asFloat32 : FieldValue → Float32
  | int n => n.toFloat32
  | float x => narrowed x

/-- The value as an integer from `low` to `high`, for the field of this name. -/
def narrow (field : String) (low high : Int) : FieldValue → Except ProxyError Int
  | int n =>
    if low ≤ n.toInt ∧ n.toInt ≤ high then .ok n.toInt
    else .error (.outOfRange field (toString n.toInt))
  | float _ => .error (.typeMismatch field "an integer" "f64")

def narrow8 (field : String) (v : FieldValue) : Except ProxyError Int8 :=
  (v.narrow field (-128) 127).map Int8.ofInt

def narrow16 (field : String) (v : FieldValue) : Except ProxyError Int16 :=
  (v.narrow field (-32768) 32767).map Int16.ofInt

def narrow32 (field : String) (v : FieldValue) : Except ProxyError UInt32 :=
  (v.narrow field 0 4294967295).map fun n => UInt32.ofNat n.toNat

end FieldValue

namespace PlayerState

def fresh (index : Nat) : PlayerState :=
  { index := UInt8.ofNat index, health := 8, coins := 0, lives := 4, stars := 0, action := 0,
    flags := 0, faceYaw := 0, forwardVel := 0, pos := .zero, vel := .zero }

def readField (p : PlayerState) (name : String) : Option FieldValue :=
  match name with
  | "index" => some (.int (Int64.ofNat p.index.toNat))
  | "health" => some (.int p.health.toInt64)
  | "coins" => some (.int p.coins.toInt64)
  | "lives" => some (.int p.lives.toInt64)
  | "stars" => some (.int p.stars.toInt64)
  | "action" => some (.int (Int64.ofNat p.action.toNat))
  | "flags" => some (.int (Int64.ofNat p.flags.toNat))
  | "face_yaw" => some (.int p.faceYaw.toInt64)
  | "forward_vel" => some (.float (widened p.forwardVel))
  | "pos_x" => some (.float (widened p.pos.x))
  | "pos_y" => some (.float (widened p.pos.y))
  | "pos_z" => some (.float (widened p.pos.z))
  | "vel_x" => some (.float (widened p.vel.x))
  | "vel_y" => some (.float (widened p.vel.y))
  | "vel_z" => some (.float (widened p.vel.z))
  | _ => none

/-- Write a field by its name, checking that the value fits. A name that is not listed, like
that of the slot number, counts as one that cannot be written. -/
def writeField (p : PlayerState) (name : String) (v : FieldValue) :
    Except ProxyError PlayerState :=
  match name with
  | "health" => (v.narrow16 name).map fun n => { p with health := n }
  | "coins" => (v.narrow16 name).map fun n => { p with coins := n }
  | "lives" => (v.narrow8 name).map fun n => { p with lives := n }
  | "stars" => (v.narrow16 name).map fun n => { p with stars := n }
  | "action" => (v.narrow32 name).map fun n => { p with action := n }
  | "flags" => (v.narrow32 name).map fun n => { p with flags := n }
  | "face_yaw" => (v.narrow16 name).map fun n => { p with faceYaw := n }
  | "forward_vel" => .ok { p with forwardVel := v.asFloat32 }
  | "pos_x" => .ok { p with pos := { p.pos with x := v.asFloat32 } }
  | "pos_y" => .ok { p with pos := { p.pos with y := v.asFloat32 } }
  | "pos_z" => .ok { p with pos := { p.pos with z := v.asFloat32 } }
  | "vel_x" => .ok { p with vel := { p.vel with x := v.asFloat32 } }
  | "vel_y" => .ok { p with vel := { p.vel with y := v.asFloat32 } }
  | "vel_z" => .ok { p with vel := { p.vel with z := v.asFloat32 } }
  | _ => .error (.readOnly .playerState name)

end PlayerState

/-- Slot numbers are stored in a byte, which bounds the table. -/
def maxPlayerSlots : Nat := 256

def defaultMaxPlayers : Nat := 16

/-- Slots granted of those requested, and what is said when they are fewer. -/
def grantedSlots (count : Nat) : Nat × List LogEvent :=
  (min count maxPlayerSlots,
    if count > maxPlayerSlots then
      [.warn s!"Requested {count} player slots, capping at {maxPlayerSlots}"]
    else [])

abbrev PlayerTable := Array PlayerState

namespace PlayerTable

def freshSlots (first count : Nat) : List PlayerState :=
  (List.range' first count).map PlayerState.fresh

def ofCount (count : Nat) : PlayerTable × List LogEvent :=
  let (n, log) := grantedSlots count
  ((freshSlots 0 n).toArray, log)

/-- Shrink or grow to the given count; the slots that stay keep their records. -/
def resize (t : PlayerTable) (count : Nat) : PlayerTable × List LogEvent :=
  let (n, log) := grantedSlots count
  (if n < t.size then t.extract 0 n else t ++ (freshSlots t.size (n - t.size)).toArray, log)

end PlayerTable

end ModHost
