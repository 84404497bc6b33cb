import ChatRelay.Program
import ChatRelay.Proofs.Http.Route
import ChatRelay.Proofs.Settings.Accepted

/-!
# What accepted settings serve

The checks of the settings look at the first character of the path and keep it apart from the path
of the health check, and that is all. So of the settings that pass, those can be served whose path
has all its marks in order; with any other path the server ends right after its start.
-/

namespace ChatRelay

open Http (MarksFit Route)

/-- The chat server can be made if its path is not that of the health check and can be routed. -/
theorem ChatServer.ofConfig_ok_iff {config : RelayConfig} :
    (∃ server, ofConfig config = .ok server) ↔
      config.wsPath ≠ Settings.healthCheckPath ∧ ∃ route, Route.parse? config.wsPath = .ok route := by
  unfold ofConfig route?
  by_cases taken : config.wsPath = Settings.healthCheckPath
  · simp [taken, bind, Except.bind]
  · cases Route.parse? config.wsPath <;> simp [taken, bind, Except.bind, pure, Except.pure]

namespace Server

/-- What can keep the observability server from starting is its address, never the route of the
chat. -/
theorem observe_unrouted {host : Host} {settings : Settings} {task pattern : String}
    {fault : Http.RouteFault} : observe host settings ≠ .error (.chatRoute task pattern fault) := by
  unfold observe
  intro failed
  split at failed
  · split at failed <;> cases failed
  · cases failed

/-- A start ends with a fault of the route if the observability server is no obstacle and the chat
server cannot be made. -/
theorem start_unrouted_iff {host : Host} {settings : Settings} {chat : SocketAddress} :
    (∃ task pattern fault, (start host settings chat).2 = .error (.chatRoute task pattern fault)) ↔
      (∃ line, observe host settings = .ok line) ∧
        ¬ ∃ server, ChatServer.ofConfig settings.relayConfig = .ok server := by
  unfold start
  cases observed : observe host settings with
  | error other =>
    refine iff_of_false ?_ (by simp)
    rintro ⟨task, pattern, fault, ended⟩
    obtain rfl : other = .chatRoute task pattern fault := by simpa using ended
    exact observe_unrouted observed
  | ok line => cases ChatServer.ofConfig settings.relayConfig <;> simp

end Server

namespace Settings

/-- Settings that pass every check can be served if, and only if, the marks of their path are in
order; and only where they are not, a start that gets as far as the chat ends for its route. -/
theorem accepted_served_iff {s : Settings} (accepted : s.fault? = none) :
    ((∃ server, ChatServer.ofConfig s.relayConfig = .ok server) ↔
      MarksFit [] s.network.wsPath.toList) ∧
    ∀ host chat,
      (∃ task pattern fault,
        (Server.start host s chat).2 = .error (.chatRoute task pattern fault)) ↔
      (∃ line, Server.observe host s = .ok line) ∧ ¬ MarksFit [] s.network.wsPath.toList := by
  have passed := fault?_eq_none_iff.mp accepted
  have served : (∃ server, ChatServer.ofConfig s.relayConfig = .ok server) ↔
      MarksFit [] s.network.wsPath.toList := by
    rw [ChatServer.ofConfig_ok_iff]
    change s.network.wsPath ≠ healthCheckPath ∧ (∃ route, Route.parse? s.network.wsPath = .ok route)
      ↔ _
    rw [Http.parse?_ok_iff]
    simp [passed.apart, passed.slash]
  refine ⟨served, fun host chat => ?_⟩
  rw [Server.start_unrouted_iff, served]

/-- A path with a parameter and a rest behind it. -/
theorem accepted_served_iff_rooms :
    let s : Settings := { network := { wsPath := "/rooms/r:number/*rest" } }
    s.fault? = none ∧ (∃ server, ChatServer.ofConfig s.relayConfig = .ok server) ∧
      MarksFit [] s.network.wsPath.toList := by
  have accepted : ({ network := { wsPath := "/rooms/r:number/*rest" } } : Settings).fault? = none := by
    decide
  have served : ∃ server, ChatServer.ofConfig
      ({ network := { wsPath := "/rooms/r:number/*rest" } } : Settings).relayConfig = .ok server :=
    ⟨_, rfl⟩
  exact ⟨accepted, served, (accepted_served_iff accepted).1.mp served⟩

/-- A star without a name passes every check and cannot be served. -/
theorem unnamed_star_unserved :
    ¬ ∀ s : Settings, s.fault? = none →
      ∃ server, ChatServer.ofConfig s.relayConfig = .ok server := by
  intro claim
  obtain ⟨server, made⟩ := claim { network := { wsPath := "/*" } } (by decide)
  cases made

end Settings

end ChatRelay
