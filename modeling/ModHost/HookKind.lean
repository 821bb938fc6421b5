set_option autoImplicit false

/-!
# Hook kinds

The moments of a simulation at which scripts can have callbacks run. Scripts name a
kind by its number.
-/

namespace ModHost

inductive HookKind where
  | update
  /-- After a player's step, with that player. -/
  | playerUpdate
  /-- Before a player's step, with that player. -/
  | beforePlayerUpdate
deriving DecidableEq, Repr, Inhabited

namespace HookKind

def all : List HookKind := [update, playerUpdate, beforePlayerUpdate]

def id : HookKind → Int
  | update => 0
  | playerUpdate => 1
  | beforePlayerUpdate => 2

def ofId? (n : Int) : Option HookKind := all.find? (·.id = n)

def unknownText (n : Int) : String := s!"unknown hook kind {n}"

def name : HookKind → String
  | update => "update"
  | playerUpdate => "player_update"
  | beforePlayerUpdate => "before_player_update"

def constantName : HookKind → String
  | update => "HOOK_UPDATE"
  | playerUpdate => "HOOK_PLAYER_UPDATE"
  | beforePlayerUpdate => "HOOK_BEFORE_PLAYER_UPDATE"

def takesPlayer : HookKind → Bool
  | update => false
  | _ => true

end HookKind

end ModHost
