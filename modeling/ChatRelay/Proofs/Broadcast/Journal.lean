import ChatRelay.Proofs.Broadcast.Effect

/-!
# The hub does not read its journal

The operations of the hub add to its journal and do not look at what it says. So they do the same at
a hub whose journal tells the past in another way, and what they add is added there too. The one
thing that may be left out of such an account is that a task read a binary frame, and no operation
of the hub notes that.
-/

namespace ChatRelay

def Event.isBinary : Event → Bool
  | .connection _ (.consumed (.binary _)) => true
  | _ => false

namespace Hub

/-- The hub with another account of what has happened. -/
def retell (f : List Entry → List Entry) (h : Hub) : Hub := { h with journal := f h.journal }

/-- To the account is added whatever happens, unless a binary frame is read. -/
def Faithful (f : List Entry → List Entry) : Prop :=
  ∀ entry past, entry.event.isBinary = false → f (entry :: past) = entry :: f past

section Retell

variable {f : List Entry → List Entry}

theorem setGauge_retell (h : Hub) : (h.retell f).setGauge = h.setGauge.retell f := by
  cases metered : h.options.registryMetered <;> simp [setGauge, retell, metered]

theorem take?_retell (h : Hub) (key : QueueKey) : (h.retell f).take? key =
    (h.take? key).map fun taken => (taken.1, taken.2.retell f) := by
  cases here : h.queues[key]? with
  | none => simp [take?, retell, here]
  | some q => cases first : q.take? <;> simp [take?, retell, here, first]

variable (faithful : Faithful f) (h : Hub)

include faithful

theorem note_retell {e : Event} (told : e.isBinary = false) :
    (h.retell f).note e = (h.note e).retell f := by
  simp [note, retell, faithful ⟨h.now, e⟩ h.journal told]

theorem register_retell (m : Member) :
    (h.retell f).register m = (h.register m).map (retell f) := by
  cases done : h.registry.register m with
  | error fault => simp [register, retell, done, Except.map]
  | ok registry =>
    have gauge := setGauge_retell (f := f) { h with registry }
    have noted := note_retell faithful { h with registry }.setGauge
      (e := .registered m.id m.name registry.size) rfl
    rw [← gauge] at noted
    simp only [register, retell, done, Except.map]
    exact congrArg Except.ok noted

theorem unregister_retell (id : ConnectionId) :
    (h.retell f).unregister id = ((h.unregister id).1, (h.unregister id).2.retell f) := by
  cases found : h.registry.find? id with
  | none => simp [unregister, retell, found]
  | some m =>
    have gauge := setGauge_retell (f := f) { h with registry := h.registry.unregister id }
    have noted := note_retell faithful { h with registry := h.registry.unregister id }.setGauge
      (e := .unregistered id m.name (h.registry.unregister id).size) rfl
    rw [← gauge] at noted
    simp only [unregister, retell, found]
    exact congrArg (Prod.mk true) noted

theorem endRegistry_retell :
    (h.retell f).endRegistry = (h.endRegistry.1, h.endRegistry.2.retell f) := by
  have gauge := setGauge_retell (f := f) { h with registry := h.registry.close }
  have noted := note_retell faithful { h with registry := h.registry.close }.setGauge
    (e := .registryEnded h.registry.size) rfl
  rw [← gauge] at noted
  exact congrArg (Prod.mk h.registry.size) noted

theorem deliver_retell (m : Member) (text : String) :
    (h.retell f).deliver m text = (h.deliver m text).map (retell f) := by
  cases here : h.queues[m.queue]? with
  | none => simp [deliver, retell, here, Except.map]
  | some q =>
    cases offered : q.offer text with
    | error fault => simp [deliver, retell, here, offered, Except.map]
    | ok q' =>
      have noted := note_retell faithful
        { h with queues := h.queues.setIfInBounds m.queue q' } (e := .accepted m.queue text) rfl
      simp only [deliver, retell, here, offered, Except.map]
      exact congrArg Except.ok noted

section Broadcast

variable (sender : ConnectionId) (text : String) (report : Report)

theorem deliverTo_retell (m : Member) : (h.retell f).deliverTo sender text report m =
    ((h.deliverTo sender text report m).1.retell f, (h.deliverTo sender text report m).2) := by
  rw [deliverTo, deliver_retell faithful, deliverTo]
  cases h.deliver m text with
  | ok h' => rfl
  | error fault =>
    dsimp only [Except.map]
    rw [note_retell faithful h rfl]

theorem deliverAll_retell (ms : List Member) : (h.retell f).deliverAll sender text report ms =
    ((h.deliverAll sender text report ms).1.retell f,
      (h.deliverAll sender text report ms).2) := by
  induction ms generalizing h report with
  | nil => rfl
  | cons m rest ih =>
    rw [deliverAll, deliverTo_retell faithful, deliverAll]
    exact ih _ _

theorem unregisterAll_retell (ids : List ConnectionId) :
    (h.retell f).unregisterAll ids = (h.unregisterAll ids).retell f := by
  induction ids generalizing h with
  | nil => rfl
  | cons id rest ih =>
    have gone : ((h.retell f).unregister id).2 = (h.unregister id).2.retell f :=
      congrArg Prod.snd (unregister_retell faithful h id)
    simp only [unregisterAll, List.foldl_cons] at ih ⊢
    rw [gone, ih]

theorem account_retell (message : Message) :
    (h.retell f).account message report = (h.account message report).retell f := by
  have noted := note_retell faithful h
    (e := .broadcast message report.delivered report.failed) rfl
  unfold account
  dsimp only
  rw [noted]
  cases metered : h.options.broadcastMetered <;> simp [retell, metered]

theorem broadcast_retell (message : Message) : (h.retell f).broadcast message =
    ((h.broadcast message).1.retell f, (h.broadcast message).2) := by
  have fanned : (h.retell f).fanOut message =
      ((h.fanOut message).1.retell f, (h.fanOut message).2) :=
    deliverAll_retell faithful h _ _ _ _
  rw [broadcast_eq, fanned, unregisterAll_retell faithful, account_retell faithful, broadcast_eq]

end Broadcast

end Retell

end Hub

end ChatRelay
