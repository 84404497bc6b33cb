import ChatRelay.Connection.Task
import ChatRelay.Settings.Load

/-!
# Accepted settings

Settings are loaded only if they pass every check. So whoever is given loaded settings knows of each
check that it was passed.
-/

namespace ChatRelay

namespace Settings

/-- What the checks see to. -/
structure Accepted (s : Settings) : Prop where
  slash : s.network.wsPath.toList.head? = some '/'
  apart : s.network.wsPath ≠ healthCheckPath
  queue : s.chat.queueSize ≠ 0
  keepalive : s.chat.keepalive ≠ 0
  patient : s.chat.keepalive < s.chat.idleTimeout
  write : s.chat.writeTimeout ≠ 0
  level : Log.isLevelName s.logging.level = true
  format : Log.isFormatName s.logging.format = true

theorem fault?_eq_none_iff {s : Settings} : s.fault? = none ↔ s.Accepted := by
  constructor
  · intro passed
    simp only [fault?] at passed
    constructor <;> grind
  · rintro ⟨slash, apart, queue, keepalive, patient, write, level, format⟩
    have longer : ¬ s.chat.idleTimeout ≤ s.chat.keepalive := by simpa using patient
    simp [fault?, slash, apart, queue, keepalive, longer, write, level, format]

/-- Settings that were loaded from a file, or stand in for a missing one, passed every check. -/
theorem load_accepted {path : String} {content : FileContent} {s : Settings}
    (loaded : (load path content).1 = .ok s) : s.Accepted := by
  rw [← fault?_eq_none_iff]
  unfold load at loaded
  dsimp only at loaded
  split at loaded
  · cases loaded
  · split at loaded
    · cases loaded
    · rename_i passed
      cases loaded
      exact passed

namespace Accepted

variable {s : Settings} (h : s.Accepted)

include h

/-- No ping is due sooner than the settings say. -/
theorem period_eq : s.relayConfig.period = s.relayConfig.keepalive := by
  have some : 0 < s.chat.keepalive.toNat :=
    Nat.pos_of_ne_zero fun none => h.keepalive (UInt64.toNat_inj.mp none)
  simp only [RelayConfig.period, relayConfig, Duration.seconds]
  omega

theorem keepalive_lt : s.relayConfig.keepalive < s.relayConfig.idleTimeout := by
  have patient : s.chat.keepalive.toNat < s.chat.idleTimeout.toNat := h.patient
  simp only [relayConfig, Duration.seconds]
  omega

end Accepted

end Settings

end ChatRelay
