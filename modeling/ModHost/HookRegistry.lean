import ModHost.HookKind
import ModHost.Script.Value

set_option autoImplicit false

/-!
# The hook registry

The callbacks that scripts have registered, by kind, each with the unit that owns it; and
which unit owns what is registered now. Without an owner nothing can be registered.
-/

namespace ModHost

structure Callback where
  name : String
  given : List Script.Value
deriving Inhabited

/-- A callback and the unit whose code registered it. -/
structure HookEntry where
  unit : Nat
  callback : Callback
deriving Inhabited

/-- Lists of callbacks by kind, each in the order of registration. A kind has no list until
something is registered for it. -/
structure HookLists where
  lists : List (HookKind × List HookEntry)
  distinct : (lists.map (·.1)).Nodup

namespace HookLists

def empty : HookLists := ⟨[], .nil⟩

instance : Inhabited HookLists := ⟨empty⟩

def listOf (kind : HookKind) : List (HookKind × List HookEntry) → Option (List HookEntry)
  | [] => none
  | (k, es) :: rest => if k = kind then some es else listOf kind rest

def get? (h : HookLists) (kind : HookKind) : Option (List HookEntry) := listOf kind h.lists

/-- An entry put at the end of the list of its kind, which is made if there is none. -/
def added (kind : HookKind) (e : HookEntry) :
    List (HookKind × List HookEntry) → List (HookKind × List HookEntry)
  | [] => [(kind, [e])]
  | (k, es) :: rest => if k = kind then (k, es ++ [e]) :: rest else (k, es) :: added kind e rest

theorem mem_added {kind k : HookKind} {e : HookEntry} {lists : List (HookKind × List HookEntry)} :
    k ∈ (added kind e lists).map (·.1) ↔ k = kind ∨ k ∈ lists.map (·.1) := by
  induction lists with
  | nil => simp [added]
  | cons first rest ih =>
    obtain ⟨k', es⟩ := first
    rw [added]
    split
    · next same => simp [same]
    · simp only [List.map_cons, List.mem_cons, ih]
      exact or_left_comm

theorem nodup_added {kind : HookKind} {e : HookEntry} {lists : List (HookKind × List HookEntry)}
    (distinct : (lists.map (·.1)).Nodup) : ((added kind e lists).map (·.1)).Nodup := by
  induction lists with
  | nil => simp [added]
  | cons first rest ih =>
    obtain ⟨k, es⟩ := first
    rw [List.map_cons, List.nodup_cons] at distinct
    rw [added]
    split
    · exact List.nodup_cons.2 distinct
    · next other =>
      rw [List.map_cons, List.nodup_cons, mem_added]
      exact ⟨not_or.2 ⟨other, distinct.1⟩, ih distinct.2⟩

def add (h : HookLists) (kind : HookKind) (e : HookEntry) : HookLists :=
  ⟨added kind e h.lists, nodup_added h.distinct⟩

end HookLists

structure HookRegistry where
  hooks : HookLists
  /-- The unit that owns registrations made now. -/
  active : Option Nat
deriving Inhabited

namespace HookRegistry

def empty : HookRegistry := ⟨.empty, none⟩

def setActive (r : HookRegistry) (unit : Option Nat) : Option Nat × HookRegistry :=
  (r.active, { r with active := unit })

def unownedText : String := "hook_event called outside of a loaded script"

def register (r : HookRegistry) (kind : HookKind) (callback : Callback) :
    Except String HookRegistry :=
  match r.active with
  | some unit => .ok { r with hooks := r.hooks.add kind ⟨unit, callback⟩ }
  | none => .error unownedText

def registerById (r : HookRegistry) (id : Int) (callback : Callback) :
    Except String HookRegistry :=
  match HookKind.ofId? id with
  | some kind => r.register kind callback
  | none => .error (HookKind.unknownText id)

/-- The callbacks of a kind, in the order of their registration. -/
def snapshot (r : HookRegistry) (kind : HookKind) : List HookEntry :=
  (r.hooks.get? kind).getD []

def count (r : HookRegistry) (kind : HookKind) : Nat :=
  ((r.hooks.get? kind).map List.length).getD 0

def total (r : HookRegistry) : Nat := r.hooks.lists.foldr (fun (_, es) n => es.length + n) 0

def clear (r : HookRegistry) : HookRegistry := { r with hooks := .empty, active := none }

end HookRegistry

end ModHost
