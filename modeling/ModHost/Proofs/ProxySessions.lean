import ModHost.Proofs.HostSteps
import ModHost.Proofs.ProxyWrites

set_option autoImplicit false

/-!
# Proxies and their sessions

A proxy carries the number of the session that handed it out, and every session gets a number that
no earlier one had. So a proxy lives exactly as long as its session: no later session brings it
back, although the table of players stays the same.
-/

namespace ModHost

open Script (Value)

def HostAnswer.endsSession : HostAnswer → Bool
  | .started _ | .ended => true
  | .nothing | .dispatched _ | .took _ => false

namespace ScriptHost

def liveId (h : ScriptHost) : Option Nat := h.session.map Session.id

/-- A number was given to a session that is over. -/
structure Over (id : Nat) (h : ScriptHost) : Prop where
  given : id < h.sessions
  notLive : h.liveId ≠ some id

theorem HookRuns.liveId {engine : Engine} {h : ScriptHost} {asks : HookAsks}
    {left : DispatchReport × ScriptHost} (runs : h.HookRuns engine asks left) :
    left.2.liveId = h.liveId ∧ left.2.sessions = h.sessions := by
  induction runs with
  | nothing | ignored => exact ⟨rfl, rfl⟩
  | hooks kind args _ h =>
    unfold runHooks ScriptHost.liveId
    cases live : h.session with
    | none => exact ⟨congrArg _ live, rfl⟩
    | some session => exact ⟨rfl, rfl⟩
  | merge _ _ first second => exact ⟨second.1.trans first.1, second.2.trans first.2⟩

end ScriptHost

namespace HostStep

variable {engine : Engine} {h h' : ScriptHost} {answer : HostAnswer} {id : Nat}

theorem liveId_of_stays (step : HostStep engine h answer h') (stays : answer.endsSession = false) :
    h'.liveId = h.liveId ∧ h'.sessions = h.sessions := by
  cases step with
  | outside session sessions => exact ⟨congrArg (Option.map Session.id) session, sessions⟩
  | start | shutdown => cases stays
  | run runs => exact runs.liveId
  | take => exact ⟨rfl, rfl⟩

theorem liveId_of_ends (step : HostStep engine h answer h') (ends : answer.endsSession = true) :
    h'.liveId = none ∧ h'.sessions = h.sessions ∨
      h'.liveId = some h.sessions ∧ h'.sessions = h.sessions + 1 := by
  cases step with
  | @start said files sessions _ =>
    rw [← sessions]
    obtain ⟨dead, same⟩ | ⟨session, live, next, more⟩ :=
      (ScriptHost.starts_start engine files said).session
    · exact .inl ⟨congrArg _ dead, same⟩
    · exact .inr ⟨(congrArg _ live).trans (congrArg some next), more⟩
  | shutdown => exact .inl ⟨congrArg _ h.shutdown_session, h.shutdown_sessions⟩
  | outside | run | take => cases ends

theorem over_of_ends (step : HostStep engine h answer h') (ends : answer.endsSession = true)
    (given : id < h.sessions) : h'.Over id := by
  obtain ⟨dead, same⟩ | ⟨live, more⟩ := step.liveId_of_ends ends
  · refine ⟨same ▸ given, ?_⟩
    rw [dead]
    exact nofun
  · refine ⟨by omega, fun again => ?_⟩
    rw [live, Option.some.injEq] at again
    omega

theorem stays_over (step : HostStep engine h answer h') (gone : h.Over id) : h'.Over id := by
  cases ends : answer.endsSession with
  | true => exact step.over_of_ends ends gone.given
  | false =>
    obtain ⟨sameId, same⟩ := step.liveId_of_stays ends
    exact ⟨same ▸ gone.given, sameId ▸ gone.notLive⟩

theorem liveId_lt (step : HostStep engine h answer h')
    (numbered : ∀ id, h.liveId = some id → id < h.sessions) :
    ∀ id, h'.liveId = some id → id < h'.sessions := by
  intro id live
  cases ends : answer.endsSession with
  | true =>
    obtain ⟨dead, -⟩ | ⟨next, more⟩ := step.liveId_of_ends ends
    · rw [dead] at live
      cases live
    · rw [next, Option.some.injEq] at live
      omega
  | false =>
    obtain ⟨sameId, same⟩ := step.liveId_of_stays ends
    rw [same]
    exact numbered id (sameId ▸ live)

end HostStep

namespace ScriptHost

open HostAction (run answers)

variable {engine : Engine} {h : ScriptHost} {id : Nat}

theorem Reachable.liveId_lt (reached : Reachable engine h) :
    ∀ id, h.liveId = some id → id < h.sessions := by
  induction reached with
  | new config =>
    intro id live
    cases live
  | @step h a _ ih => exact (a.step engine h).liveId_lt ih

theorem over_run (gone : h.Over id) (actions : List HostAction) :
    (run engine h actions).Over id := by
  induction actions generalizing h with
  | nil => exact gone
  | cons a rest ih => exact ih ((a.step engine h).stays_over gone)

/-- A session stays live until an action ends it, and is over from then on. -/
theorem run_session (engine : Engine) (live : h.liveId = some id) (given : id < h.sessions)
    (actions : List HostAction) :
    if (answers engine h actions).any (·.endsSession) then (run engine h actions).Over id
    else (run engine h actions).liveId = some id := by
  induction actions generalizing h with
  | nil => exact live
  | cons a rest ih =>
    have step := a.step engine h
    rw [answers, List.any_cons]
    cases ends : (a.answer engine h).endsSession with
    | true => exact over_run (step.over_of_ends ends given) rest
    | false =>
      obtain ⟨sameId, same⟩ := step.liveId_of_stays ends
      exact ih (sameId.trans live) (same ▸ given)

theorem surroundings_live (h : ScriptHost) (id : Nat) :
    h.surroundings.live id = true ↔ h.liveId = some id := by
  unfold surroundings liveId
  cases h.session <;> simp

end ScriptHost

namespace Proxy

theorem get_stale (kind : ObjectKind) (storage : Storage) (slot : Nat) (f : Field) :
    get kind ⟨false, storage⟩ slot f.name = .error (.staleSession kind) := by
  refine (reports_get kind _ slot f.name _).2 ?_
  rw [readFaults, firstFault_cons, unknownField?_name]
  rfl

theorem set_stale (kind : ObjectKind) (storage : Storage) (slot : Nat) {f : Field} {v : Value}
    (writable : f.writable = true) (accepted : f.type.accepts v = true) :
    set kind ⟨false, storage⟩ slot f.name v = .error (.staleSession kind) := by
  refine (reports_set kind _ slot f.name v _).2 ?_
  simp [writeFaults, firstFault_cons, unknownField?, readOnly?, typeMismatch?, reachFaults,
    Field.ofName?_name, writable, accepted, staleSession?]

theorem set_stale_fails (kind : ObjectKind) (storage : Storage) (slot : Nat) (name : String)
    (v : Value) : ∃ e, set kind ⟨false, storage⟩ slot name v = .error e := by
  cases written : set kind ⟨false, storage⟩ slot name v with
  | error e => exact ⟨e, rfl⟩
  | ok players =>
    obtain ⟨_, _, _, _, _, _, _, _, live, _⟩ := set_eq_ok written
    cases live

end Proxy

namespace ObjectProxy

/-- What a proxy is after its session: not valid, and refused for its session whatever is read and
whatever could be written through it; and no attempt changes anything. -/
structure Dead (p : ObjectProxy) (s : Surroundings) : Prop where
  invalid : p.isValid s = false
  get (f : Field) : p.get s f.name = .error (.staleSession p.kind)
  set (f : Field) (v : Value) : f.writable = true → f.type.accepts v = true →
    p.set s f.name v = (.error (.staleSession p.kind), s)
  unchanged (name : String) (v : Value) : (p.set s name v).2 = s

theorem dead_of_not_live {p : ObjectProxy} {s : Surroundings} (notLive : s.live p.session = false) :
    p.Dead s := by
  have around : p.around s = ⟨false, s.storage p.table⟩ := by
    rw [ObjectProxy.around, notLive]
  constructor
  · rw [ObjectProxy.isValid, around]
    rfl
  · intro f
    rw [ObjectProxy.get, around, Proxy.get_stale]
  · intro f v writable accepted
    rw [ObjectProxy.set, around, Proxy.set_stale _ _ _ writable accepted]
  · intro name v
    obtain ⟨e, refused⟩ := Proxy.set_stale_fails p.kind (s.storage p.table) p.slot name v
    rw [ObjectProxy.set, around, refused]

end ObjectProxy

namespace ScriptHost

open HostAction (run answers)

theorem proxyOf_eq_some {h : ScriptHost} {v : Value} {p : ObjectProxy} :
    h.proxyOf v = some p ↔
      ∃ slot id, v = .player slot ∧ h.liveId = some id ∧ p = ⟨.playerState, 0, slot, id⟩ := by
  unfold proxyOf liveId
  cases h.session with
  | none => simp
  | some session => cases v <;> simp [eq_comm]

/-- Whatever value of a session a proxy stands for, be it from the list of players, from a variable
of a script or an argument of a callback: the proxy is the same until an action ends the session,
and is dead from then on. It stays so whatever is done, also while later sessions are live. -/
theorem proxy_lives_with_session (engine : Engine) (h : ScriptHost) (reached : Reachable engine h)
    (v : Value) (p : ObjectProxy) (handed : h.proxyOf v = some p) (actions : List HostAction) :
    ((∀ r ∈ answers engine h actions, r.endsSession = false) →
      (run engine h actions).proxyOf v = some p) ∧
    ((∃ r ∈ answers engine h actions, r.endsSession = true) →
      p.Dead (run engine h actions).surroundings) := by
  obtain ⟨slot, id, rfl, live, rfl⟩ := proxyOf_eq_some.1 handed
  have outcome := run_session engine live (reached.liveId_lt id live) actions
  constructor
  · intro stays
    rw [if_neg (by simpa using stays)] at outcome
    exact proxyOf_eq_some.2 ⟨slot, id, rfl, outcome, rfl⟩
  · intro ends
    rw [if_pos (by simpa using ends)] at outcome
    refine ObjectProxy.dead_of_not_live (Bool.eq_false_iff.2 fun again => ?_)
    exact outcome.notLive ((surroundings_live _ id).1 again)

def twoPlayers : ScriptHost :=
  (HostAction.start .empty).apply .standard
    (.ofConfig { ScriptingConfig.default with maxPlayers := 2 })

/-- The second player's proxy is dead in the next session, where that player has another one. -/
theorem twoPlayers_restarted :
    ∃ p, twoPlayers.proxyOf (.player 1) = some p ∧
      (let again := run .standard twoPlayers [.shutdown, .tick, .start .empty]
      p.Dead again.surroundings ∧ ∃ q, again.proxyOf (.player 1) = some q ∧ q ≠ p) ∧
      (run .standard twoPlayers [.tick, .resize 1]).proxyOf (.player 1) = some p := by
  have reached : Reachable .standard twoPlayers := .step _ (.new _)
  have handed : twoPlayers.proxyOf (.player 1) = some ⟨.playerState, 0, 1, 0⟩ := by
    decide +kernel
  refine ⟨_, handed, ⟨?_, ⟨.playerState, 0, 1, 1⟩, by decide +kernel, by decide⟩, ?_⟩
  · exact (proxy_lives_with_session .standard twoPlayers reached _ _ handed _).2
      ⟨.ended, List.mem_cons_self, rfl⟩
  · refine (proxy_lives_with_session .standard twoPlayers reached _ _ handed _).1 fun r mem => ?_
    simp only [answers, List.mem_cons, List.not_mem_nil, or_false] at mem
    obtain rfl | rfl := mem <;> rfl

end ScriptHost

end ModHost
