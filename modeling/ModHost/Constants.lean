import ModHost.Sandbox

set_option autoImplicit false

/-!
# Host constants

The constants that every session gives to its scripts, each with the line on which it
stands. They are run as a script of constant definitions, so they are subject to the
rules of the session like any other script.
-/

namespace ModHost

open Script (Value Program Stmt Position Memory Env)

structure HostConstant where
  line : Nat
  name : String
  value : Int64

def gameConstants : List (Nat × String × Int64) :=
  [(1, "ACT_IDLE", 0x0C400201), (2, "ACT_WALKING", 0x04000440), (3, "ACT_JUMP", 0x03000880),
   (4, "ACT_DOUBLE_JUMP", 0x03000881), (5, "ACT_FREEFALL", 0x0100088C),
   (6, "ACT_DIVE", 0x0188088A), (7, "ACT_GROUND_POUND", 0x008008A9),
   (8, "ACT_DEATH_ON_BACK", 0x00021316),
   (11, "PLAYER_FLAG_NORMAL_CAP", 0x1), (12, "PLAYER_FLAG_VANISH_CAP", 0x2),
   (13, "PLAYER_FLAG_METAL_CAP", 0x4), (14, "PLAYER_FLAG_WING_CAP", 0x8),
   (15, "PLAYER_FLAG_CAP_ON_HEAD", 0x10), (16, "PLAYER_FLAG_CAP_IN_HAND", 0x20),
   (18, "ANGLE_FULL_TURN", 0x10000), (19, "ANGLE_HALF_TURN", 0x8000)]

/-- All constants of a session with so many player slots: the numbers of the hook kinds,
the number of slots, and those of the game. -/
def hostConstants (maxPlayers : Nat) : List HostConstant :=
  (HookKind.all.zipIdx 1).map (fun (kind, line) =>
    ⟨line, kind.constantName, Int64.ofInt kind.id⟩)
  ++ [⟨4, "MAX_PLAYERS", Int64.ofNat maxPlayers⟩]
  ++ gameConstants.map fun (line, name, value) => ⟨5 + line, name, value⟩

def HostConstant.definition (c : HostConstant) : Stmt :=
  .define c.name (.const (.int c.value) ⟨c.line, c.name.length + 10⟩) true ⟨c.line, 1⟩

def constantsProgram (maxPlayers : Nat) : Program :=
  ⟨(hostConstants maxPlayers).map HostConstant.definition, [], []⟩

def constantsEnv (rules : Rules) (host : HostNamespace) (maxPlayers : Nat) : Env :=
  { rules.env (constantsProgram maxPlayers) none host.get with hasOwner := false }

/-- Run the constants and take them over as globals of the host. -/
def seedConstants (engine : Engine) (rules : Rules) (host : HostNamespace) (s : Scene)
    (maxPlayers : Nat) : Except ScriptError HostNamespace :=
  let r := engine.runTopLevel (constantsEnv rules host maxPlayers) Memory.empty s.world
  match r.ending with
  | .failed e => .error (.setup s!"host constants failed to evaluate: {e.text}")
  | _ => .ok (host.absorb (r.memory.vars.reverse.map fun v => (v.name, v.value)))

end ModHost
