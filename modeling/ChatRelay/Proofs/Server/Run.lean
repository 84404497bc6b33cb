import ChatRelay.ChatServer
import ChatRelay.Proofs.Relay.Isolation

/-!
# Runs of the chat server

What happens to a chat server: requests come, clients send frames and drop their streams, and
whatever else happens, happens to the relay behind it.
-/

namespace ChatRelay

/-- What a frame makes of the transport. Nothing can be written behind a close frame. -/
def Transport.accept (t : Transport) (frame : Frame) : Transport :=
  if frame.inbound = .streamEnd then { t.finish with closing := .fails Defect.reset.fault }
  else t.arrive frame.inbound

/-- What the drop of its stream makes of a transport. -/
def Transport.lose (t : Transport) : Transport :=
  let fault := Defect.reset.fault
  { t.arrive (.fault fault) with
    isOpen := false, writing := .fails fault, pinging := .fails fault, closing := .fails fault }

theorem Transport.accept_inbound (t : Transport) (frame : Frame) :
    (t.accept frame).inbound = t.inbound ++ [frame.inbound] := by
  unfold accept
  split
  · rename_i last
    rw [last]
    rfl
  · rfl

namespace Relay

/-- The relay once a frame that asks for a reply has got it. -/
def reply (r : Relay) (id : ConnectionId) (frame : Frame) : Relay :=
  match frame.reply? with
  | some payload => { r with hub := r.hub.note (.connection id (.ponged payload)) }
  | none => r

/-- The relay once an upgrade was requested and, if it was accepted, is complete. -/
def upgrade (r : Relay) (peer : String) : Relay :=
  let requested := r.act (.requestUpgrade peer)
  if (r.requestUpgrade peer).1 = .accepted then requested.act (.completeUpgrade peer {})
  else requested

theorem upgrades_of_accepted {r : Relay} {peer : String}
    (accepted : (r.requestUpgrade peer).1 = .accepted) :
    (r.requestUpgrade peer).2.upgrades ≠ 0 := by
  unfold requestUpgrade at accepted ⊢
  cases shut : r.signal.isSet with
  | true => simp [shut] at accepted
  | false => cases reserved : r.slots.reserve? <;> simp_all

theorem reply_connections (r : Relay) (id : ConnectionId) (frame : Frame) :
    (r.reply id frame).connections = r.connections := by
  unfold reply
  split <;> rfl

section Sound

variable {r : Relay} (h : r.Sound)

include h

theorem Sound.note (e : Event) : ({ r with hub := r.hub.note e } : Relay).Sound :=
  h.shrink rfl h.ascending (fun _ among => among) rfl rfl

theorem Sound.reply (id : ConnectionId) (frame : Frame) : (r.reply id frame).Sound := by
  unfold Relay.reply
  split
  · exact h.note _
  · exact h

theorem Sound.upgrade (peer : String) : (r.upgrade peer).Sound := by
  unfold Relay.upgrade
  dsimp only
  split
  · exact (h.act _).act _
  · exact h.act _

theorem Sound.modifyTransport (key : Nat) (f : Transport → Transport) :
    (r.modifyTransport key f).Sound :=
  h.calm (calm_modifyTransport r key f)

end Sound

end Relay

namespace ChatServer

inductive Action where
  | request (peer : String) (request : Http.Request)
  | frames (key : Nat) (frames : List Frame)
  | drop (key : Nat)
  /-- A task takes a step, time passes, the server is shut down, or the like. -/
  | relay (a : Relay.Action)
deriving DecidableEq

def act (s : ChatServer) : Action → ChatServer
  | .request peer request => (s.answer peer request).2.2
  | .frames key frames => (s.receive key frames).2
  | .drop key => (s.drop key).2
  | .relay a => { s with relay := s.relay.act a }

def settle (s : ChatServer) : ChatServer := { s with relay := s.relay.settle }

/-- The server after an action, and after what the schedule makes of it. -/
def proceed : Relay.Pace → ChatServer → Action → ChatServer
  | .stepwise, s, a => s.act a
  | .scheduled, s, .relay (.pass length) => { s with relay := s.relay.advance length }
  | .scheduled, s, a => (s.act a).settle

def conducted (pace : Relay.Pace) (s : ChatServer) (actions : List Action) : ChatServer :=
  actions.foldl (proceed pace) s

structure Moment where
  before : ChatServer
  action : Action

def moments (pace : Relay.Pace) : ChatServer → List Action → List Moment
  | _, [] => []
  | s, a :: rest => ⟨s, a⟩ :: moments pace (s.proceed pace a) rest

def wait (pace : Relay.Pace) (s : ChatServer) (t : Nat) : ChatServer :=
  { s with relay := s.relay.wait pace t }

/-- Waits for the time of an action and proceeds with it. -/
def follow (pace : Relay.Pace) (s : ChatServer) (timed : Nat × Action) : ChatServer :=
  (s.wait pace timed.1).proceed pace timed.2

section Run

variable {pace : Relay.Pace} {s : ChatServer} {a : Action}

theorem conducted_append (pace : Relay.Pace) (s : ChatServer) (actions : List Action)
    (a : Action) :
    conducted pace s (actions ++ [a]) = (conducted pace s actions).proceed pace a := by
  simp [conducted]

theorem moments_append (pace : Relay.Pace) (s : ChatServer) (actions : List Action)
    (a : Action) :
    moments pace s (actions ++ [a]) =
      moments pace s actions ++ [⟨conducted pace s actions, a⟩] := by
  induction actions generalizing s with
  | nil => rfl
  | cons first rest ih => simp [moments, conducted, ih]

theorem proceed_pass (pace : Relay.Pace) (s : ChatServer) (length : Nat) :
    s.proceed pace (.relay (.pass length)) =
      { s with relay := s.relay.proceed pace (.pass length) } := by
  cases pace <;> rfl

theorem proceed_scheduled (s : ChatServer) (timeless : ∀ length, a ≠ .relay (.pass length)) :
    s.proceed .scheduled a = (s.act a).settle := by
  cases a with
  | relay a =>
    cases a with
    | pass length => exact absurd rfl (timeless length)
    | _ => rfl
  | _ => rfl

/-- The request gets as far as the relay. -/
def reaches (s : ChatServer) (request : Http.Request) : Bool :=
  request.path != Settings.healthCheckPath.toList && s.route.isOf request.path &&
    (request.method == "GET" || request.method == "HEAD") && request.upgradeFault?.isNone

theorem act_request (s : ChatServer) (peer : String) (request : Http.Request) :
    s.act (.request peer request) =
      if s.reaches request then { s with relay := s.relay.upgrade peer } else s := by
  have upgraded : (s.upgrade peer request).2.2 =
      if request.upgradeFault?.isNone then { s with relay := s.relay.upgrade peer } else s := by
    unfold ChatServer.upgrade
    cases request.upgradeFault? with
    | some fault => rfl
    | none =>
      have waiting := @Relay.upgrades_of_accepted s.relay peer
      rcases outcome : s.relay.requestUpgrade peer with ⟨answer, relay⟩
      rw [outcome] at waiting
      have requested : s.relay.act (.requestUpgrade peer) = relay := congrArg Prod.snd outcome
      rw [Relay.upgrade, requested, outcome]
      cases answer with
      | accepted => simp [Relay.act, waiting rfl]
      | shuttingDown => rfl
      | full => rfl
  simp only [ChatServer.act, answer, reaches]
  by_cases health : request.path = Settings.healthCheckPath.toList
  · simp [health]
  · by_cases routed : s.route.isOf request.path = true
    · by_cases method : request.method = "GET" ∨ request.method = "HEAD"
      · simp [health, routed, method, upgraded]
      · simp [health, routed, method]
    · simp [health, routed]

theorem act_drop (s : ChatServer) (key : Nat) :
    s.act (.drop key) = if s.lost.contains key then s else
      { s with relay := s.relay.modifyTransport key Transport.lose, lost := key :: s.lost } := by
  simp only [ChatServer.act, drop]
  split <;> rfl

theorem receiveAll_cons (r : Relay) (key : Nat) (id : ConnectionId) (frame : Frame)
    (rest : List Frame) :
    receiveAll r key id (frame :: rest) =
      receiveAll ((r.reply id frame).modifyTransport key fun t => t.accept frame) key id rest := by
  cases arrived : frame.inbound <;> cases replied : frame.reply? <;>
    simp [receiveAll, Relay.reply, Transport.accept, arrived, replied]

theorem receiveAll_sound {r : Relay} (h : r.Sound) (key : Nat) (id : ConnectionId)
    (frames : List Frame) : (receiveAll r key id frames).Sound := by
  induction frames generalizing r with
  | nil => exact h
  | cons frame rest ih =>
    rw [receiveAll_cons]
    exact ih ((h.reply id frame).modifyTransport key _)

theorem act_sound (h : s.relay.Sound) (a : Action) : (s.act a).relay.Sound := by
  cases a with
  | request peer request =>
    rw [act_request]
    split
    · exact h.upgrade peer
    · exact h
  | frames key frames =>
    simp only [ChatServer.act, receive]
    split
    · exact h
    · split
      · exact receiveAll_sound h _ _ _
      · exact h
  | drop key =>
    rw [act_drop]
    split
    · exact h
    · exact h.modifyTransport key _
  | relay a => exact h.act a

open Relay (Rested)

theorem rested_proceed (h : Rested pace s.relay) (a : Action) :
    Rested pace (s.proceed pace a).relay := by
  by_cases timed : ∃ length, a = .relay (.pass length)
  · obtain ⟨length, rfl⟩ := timed
    rw [proceed_pass]
    exact h.proceed (.pass length)
  · have acted := act_sound h.sound a
    cases pace with
    | stepwise => exact ⟨acted, fun scheduled => by cases scheduled⟩
    | scheduled =>
      rw [proceed_scheduled s (not_exists.mp timed)]
      exact ⟨acted.settle, fun _ => Relay.settle_isQuiet acted⟩

/-- A server that nobody has connected to. -/
theorem relay_of_made {config : RelayConfig} (made : ofConfig config = .ok s) :
    s.relay = .ofConfig config := by
  unfold ofConfig at made
  cases routed : route? config.wsPath with
  | error fault => simp [routed, bind, Except.bind] at made
  | ok route =>
    simp only [routed, bind, Except.bind, pure, Except.pure] at made
    rw [← Except.ok.inj made]

end Run

end ChatServer

end ChatRelay
