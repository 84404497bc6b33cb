import ChatRelay.Proofs.Relay.Inbound
import ChatRelay.Proofs.Relay.Plain
import ChatRelay.Proofs.Server.Run

/-!
# What is read of the frames

Clients send frames in any portions, and the tasks receive them, interrupted by whatever else
happens. A call that receives passes over binary frames, and may be given up between any two frames;
the next call goes on where it stopped. What a task gets to read are the images of its client's
frames other than the binary ones, each once and in order, up to the first that ends the stream.
-/

namespace ChatRelay

namespace Frame

def isBinary : Frame → Bool
  | .binary _ => true
  | _ => false

def plain (frames : List Frame) : List Frame := frames.filter fun frame => !frame.isBinary

theorem inbound_isBinary (frame : Frame) : frame.inbound.isBinary = frame.isBinary := by
  cases frame with
  | ping | pong | close =>
    simp only [inbound, control, isBinary]
    split <;> rfl
  | _ => rfl

/-- Only a binary frame has the image that is skipped. -/
theorem plain_inbound (frames : List Frame) :
    Inbound.plain (frames.map inbound) = (plain frames).map inbound := by
  rw [Inbound.plain, plain, List.filter_map]
  congr 1
  apply List.filter_congr
  intro frame _
  exact congrArg (!·) frame.inbound_isBinary

end Frame

namespace Inbound

theorem plain_append (items more : List Inbound) :
    plain (items ++ more) = plain items ++ plain more :=
  List.filter_append ..

/-- A call that receives: it takes the first item that is no binary frame, unless it has to wait or
is given up when it has looked at a number of items. -/
def receive : Nat → List Inbound → Option Inbound × List Inbound
  | 0, items => (none, items)
  | _ + 1, [] => (none, [])
  | n + 1, item :: rest => if item.isBinary then receive n rest else (some item, rest)

/-- Calls one after the other, each given up after as many items as it is told. -/
def receiveAll : List Nat → List Inbound → List Inbound × List Inbound
  | [], items => ([], items)
  | n :: calls, items =>
    let (received, rest) := receive n items
    let (more, rest) := receiveAll calls rest
    (received.toList ++ more, rest)

theorem receive_plain (n : Nat) (items : List Inbound) :
    (receive n items).1.toList ++ plain (receive n items).2 = plain items := by
  induction n generalizing items with
  | zero => rfl
  | succ n ih =>
    cases items with
    | nil => rfl
    | cons item rest =>
      cases binary : item.isBinary with
      | true => simpa [receive, binary, plain] using ih rest
      | false => simp [receive, binary, plain]

/-- Whenever calls are given up, nothing is lost or received twice. -/
theorem receiveAll_plain (calls : List Nat) (items : List Inbound) :
    (receiveAll calls items).1 ++ plain (receiveAll calls items).2 = plain items := by
  induction calls generalizing items with
  | nil => rfl
  | cons n calls ih => rw [receiveAll, List.append_assoc, ih, receive_plain]

/-- Calls that are given up behind each item look at as many items as there are calls. -/
theorem receiveAll_rest (n : Nat) (items : List Inbound) :
    (receiveAll (List.replicate n 1) items).2 = items.drop n := by
  induction n generalizing items with
  | zero => rfl
  | succ n ih =>
    rw [List.replicate_succ, receiveAll, ih]
    cases items with
    | nil => simp [receive]
    | cons item rest => cases binary : item.isBinary <;> simp [receive, binary]

end Inbound

namespace Relay

/-- What came for a connection was read or waits. -/
def Fed (r : Relay) (key : Nat) (items : List Inbound) (told : List Event) : Prop :=
  ∃ admitted, Recorded r.connections[key]? items told admitted

section Fed

variable {r : Relay} {key : Nat} {items : List Inbound} {told : List Event}

theorem Fed.act (h : r.Fed key items told) (a : Action) :
    (r.act a).Fed key (items ++ (Moment.mk r a).arrived key) (told ++ (Moment.mk r a).own key) := by
  obtain ⟨admitted, recorded⟩ := h
  exact ⟨_, recorded.act a⟩

/-- A new connection has nothing to read yet. -/
theorem Fed.upgrade (h : r.Fed key items told) (peer : String) :
    (r.upgrade peer).Fed key items told := by
  have silent (r : Relay) (a : Action) (idle : a.actor? = none)
      (empty : (Moment.mk r a).arrived key = []) (h : r.Fed key items told) :
      (r.act a).Fed key items told := by
    have after := h.act a
    rwa [empty, Moment.own, if_neg (by simp [idle]), List.append_nil, List.append_nil] at after
  have requested := silent r (.requestUpgrade peer) rfl rfl h
  unfold Relay.upgrade
  dsimp only
  split
  · exact silent _ (.completeUpgrade peer {}) rfl (ite_self _) requested
  · exact requested

/-- More arrives for a connection. -/
theorem Fed.arrive {c : Connection} (h : r.Fed key items told)
    (here : r.connections[key]? = some c) {r' : Relay} {t : Transport}
    (there : r'.connections[key]? = some { c with transport := t }) {more : List Inbound}
    (behind : t.inbound = c.transport.inbound ++ more) : r'.Fed key (items ++ more) told := by
  obtain ⟨admitted, recorded⟩ := h
  rw [here] at recorded
  obtain ⟨waits, ledger⟩ := recorded
  refine ⟨admitted, ?_⟩
  rw [there]
  exact ⟨by rw [waits, behind, List.append_assoc], ledger⟩

end Fed

end Relay

namespace ChatServer

/-- The images of the frames that arrive for a connection in a moment. A stream that is dropped ends
like one with a broken frame. -/
def Moment.arrived (key : Nat) (s : Moment) : List Inbound :=
  match s.action with
  | .request .. => []
  | .frames k frames =>
    if k = key ∧ (s.before.receive k frames).1 then frames.map Frame.inbound else []
  | .drop k =>
    if k = key ∧ (s.before.drop k).1 ∧ (s.before.relay.connections[k]?).isSome then
      [(Frame.broken .reset).inbound]
    else []
  | .relay a => (Relay.Moment.mk s.before.relay a).arrived key

/-- The images of the frames that arrive, but for the binary ones. -/
def Moment.images (key : Nat) (s : Moment) : List Inbound :=
  match s.action with
  | .request .. => []
  | .frames k frames =>
    if k = key ∧ (s.before.receive k frames).1 then (Frame.plain frames).map Frame.inbound else []
  | .drop k =>
    if k = key ∧ (s.before.drop k).1 ∧ (s.before.relay.connections[k]?).isSome then
      [(Frame.broken .reset).inbound]
    else []
  | .relay a => Inbound.plain ((Relay.Moment.mk s.before.relay a).arrived key)

def Moment.own (key : Nat) (s : Moment) : List Event :=
  match s.action with
  | .relay a => (Relay.Moment.mk s.before.relay a).own key
  | _ => []

def arrived (key : Nat) (moments : List Moment) : List Inbound :=
  moments.flatMap (Moment.arrived key)

def images (key : Nat) (moments : List Moment) : List Inbound :=
  moments.flatMap (Moment.images key)

def own (key : Nat) (moments : List Moment) : List Event := moments.flatMap (Moment.own key)

/-- What the task of a connection receives. Each of its steps that read is a call that looks at one
item and returns it, or is given up behind it. -/
def yielded (key : Nat) (moments : List Moment) : List Inbound :=
  (Inbound.receiveAll (List.replicate (itemsOf (own key moments)).length 1)
    (arrived key moments)).1

theorem Moment.images_eq (key : Nat) (s : Moment) :
    s.images key = Inbound.plain (s.arrived key) := by
  unfold Moment.images Moment.arrived
  cases s.action with
  | request peer request => rfl
  | frames k frames =>
    dsimp only
    split
    · exact (Frame.plain_inbound frames).symm
    · rfl
  | drop k =>
    dsimp only
    split <;> rfl
  | relay a => rfl

theorem images_eq (key : Nat) (moments : List Moment) :
    images key moments = Inbound.plain (arrived key moments) := by
  rw [images, arrived, Inbound.plain, List.filter_flatMap]
  exact List.flatMap_congr fun s _ => s.images_eq key

section Reading

variable {s : ChatServer} {key : Nat} {items : List Inbound} {told : List Event}

theorem receiveAll_here {r : Relay} {c : Connection} (here : r.connections[key]? = some c)
    (id : ConnectionId) (frames : List Frame) : ∃ t : Transport,
      (receiveAll r key id frames).connections[key]? = some { c with transport := t } ∧
        t.inbound = c.transport.inbound ++ frames.map Frame.inbound := by
  induction frames generalizing r c with
  | nil => exact ⟨c.transport, here, (List.append_nil _).symm⟩
  | cons frame rest ih =>
    have replied : (r.reply id frame).connections[key]? = some c := by
      rw [Relay.reply_connections, here]
    obtain ⟨t, there, more⟩ := ih (Relay.modifyTransport_here replied fun t => t.accept frame)
    refine ⟨t, by rw [receiveAll_cons, there], ?_⟩
    rw [more, Transport.accept_inbound, List.append_assoc]
    rfl

theorem receiveAll_elsewhere {k : Nat} (apart : key ≠ k) (r : Relay) (id : ConnectionId)
    (frames : List Frame) :
    (receiveAll r k id frames).connections[key]? = r.connections[key]? := by
  induction frames generalizing r with
  | nil => rfl
  | cons frame rest ih =>
    rw [receiveAll_cons, ih, Relay.modifyTransport_elsewhere apart, Relay.reply_connections]

theorem fed_frames (h : s.relay.Fed key items told) (k : Nat) (frames : List Frame) :
    (s.act (.frames k frames)).relay.Fed key
      (items ++ (Moment.mk s (.frames k frames)).arrived key) told := by
  simp only [ChatServer.act, Moment.arrived, receive]
  cases there : s.relay.connections[k]? with
  | none => simpa using h
  | some c =>
    cases listening : c.isListening with
    | false => simpa [listening] using h
    | true =>
      by_cases same : k = key
      · subst same
        obtain ⟨t, after, more⟩ := receiveAll_here there c.id frames
        simpa [listening] using h.arrive there after more
      · obtain ⟨admitted, recorded⟩ := h
        refine ⟨admitted, ?_⟩
        simpa [same, listening, receiveAll_elsewhere (Ne.symm same)] using recorded

theorem fed_drop (h : s.relay.Fed key items told) (k : Nat) :
    (s.act (.drop k)).relay.Fed key (items ++ (Moment.mk s (.drop k)).arrived key) told := by
  rw [act_drop]
  simp only [Moment.arrived, drop]
  split
  · simpa using h
  · cases there : s.relay.connections[k]? with
    | none =>
      rw [Relay.modifyTransport_absent there]
      simpa using h
    | some c =>
      by_cases same : k = key
      · subst same
        have last : c.transport.lose.inbound =
            c.transport.inbound ++ [(Frame.broken .reset).inbound] := rfl
        simpa using h.arrive there (Relay.modifyTransport_here there Transport.lose) last
      · obtain ⟨admitted, recorded⟩ := h
        refine ⟨admitted, ?_⟩
        simpa [same, Relay.modifyTransport_elsewhere (Ne.symm same)] using recorded

/-- Every action keeps what came for a connection and what was told of it together. -/
theorem fed_act (h : s.relay.Fed key items told) (a : Action) :
    (s.act a).relay.Fed key (items ++ (Moment.mk s a).arrived key)
      (told ++ (Moment.mk s a).own key) := by
  cases a with
  | relay a => exact h.act a
  | request peer request =>
    simp only [Moment.arrived, Moment.own, List.append_nil, act_request]
    split
    · exact h.upgrade peer
    · exact h
  | frames k frames =>
    have fed := fed_frames h k frames
    rwa [← List.append_nil told] at fed
  | drop k =>
    have fed := fed_drop h k
    rwa [← List.append_nil told] at fed

end Reading

/-- What the task of a connection gets to read of its client's frames. -/
structure Reads (server : ChatServer) (actions : List Action) (key : Nat) (c : Connection) :
    Prop where
  /-- It is the beginning of the images of the frames; those of the rest wait. -/
  images : images key (moments .stepwise server actions) =
    yielded key (moments .stepwise server actions) ++ Inbound.plain c.transport.inbound
  /-- It is what the task tells of, but for the binary frames. -/
  told : Inbound.plain (itemsOf (own key (moments .stepwise server actions))) =
    yielded key (moments .stepwise server actions)
  /-- Any calls that come so far receive the same, whenever they are given up. -/
  calls : ∀ calls, (Inbound.receiveAll calls (arrived key (moments .stepwise server actions))).2 =
    c.transport.inbound →
    (Inbound.receiveAll calls (arrived key (moments .stepwise server actions))).1 =
      yielded key (moments .stepwise server actions)
  /-- It ends with the first fault or the end of the stream. -/
  final : (yielded key (moments .stepwise server actions)).Pairwise fun item _ =>
    item.isEnd = false
  /-- A task that waits for its client has got everything. -/
  whole : (∀ b, (conducted .stepwise server actions).relay.ready key b = false) →
    (∃ deadline, c.phase = .handshake deadline) ∨ (∃ session, c.phase = .active session) →
      yielded key (moments .stepwise server actions) =
        ChatServer.images key (moments .stepwise server actions)

variable {config : RelayConfig} {server : ChatServer}

theorem conducted_fed (made : ofConfig config = .ok server) (actions : List Action) (key : Nat) :
    (conducted .stepwise server actions).relay.Fed key
      (arrived key (moments .stepwise server actions))
      (own key (moments .stepwise server actions)) := by
  induction actions using List.reverseRecOn with
  | nil =>
    refine ⟨False, ?_⟩
    change Relay.Recorded server.relay.connections[key]? [] [] False
    rw [relay_of_made made]
    exact ⟨rfl, rfl, not_false⟩
  | append_singleton actions a ih =>
    rw [conducted_append, moments_append, arrived, own, List.flatMap_append, List.flatMap_append,
      List.flatMap_singleton, List.flatMap_singleton]
    exact fed_act ih a

theorem conducted_reads (made : ofConfig config = .ok server) {actions : List Action} {key : Nat}
    {c : Connection}
    (here : (conducted .stepwise server actions).relay.connections[key]? = some c) :
    Reads server actions key c := by
  obtain ⟨admitted, recorded⟩ := conducted_fed made actions key
  rw [here] at recorded
  obtain ⟨waits, ledger⟩ := recorded
  have images : yielded key (moments .stepwise server actions) ++
      Inbound.plain c.transport.inbound = images key (moments .stepwise server actions) := by
    have all := Inbound.receiveAll_plain
      (List.replicate (itemsOf (own key (moments .stepwise server actions))).length 1)
      (arrived key (moments .stepwise server actions))
    rwa [Inbound.receiveAll_rest, waits, List.drop_left, ← waits, ← images_eq] at all
  have told : Inbound.plain (itemsOf (own key (moments .stepwise server actions))) =
      yielded key (moments .stepwise server actions) := by
    rw [images_eq, waits, Inbound.plain_append] at images
    exact (List.append_cancel_right images).symm
  refine ⟨images.symm, told, fun calls rest => ?_, told ▸ ledger.final.filter _,
    fun unready reading => ?_⟩
  · have plain := Inbound.receiveAll_plain calls (arrived key (moments .stepwise server actions))
    rw [rest, ← images_eq, ← images] at plain
    exact List.append_cancel_right plain
  · have unread : c.ready ((conducted .stepwise server actions).relay.surroundings key) .read =
        false := by simpa [Relay.ready, here] using unready .read
    have nothing : c.transport.inbound = [] := by
      rcases reading with ⟨deadline, phase⟩ | ⟨session, phase⟩ <;>
        simpa [Connection.ready, phase] using unread
    rw [← images, nothing]
    exact (List.append_nil _).symm

end ChatServer

end ChatRelay
