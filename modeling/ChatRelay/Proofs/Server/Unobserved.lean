import ChatRelay.Proofs.Server.Reading

/-!
# Nobody sees a binary frame

Two runs of the chat server that differ in nothing but binary frames, and in the steps that read
them, are the same to everybody: each is followed, at the same times, by the run in which there are
no binary frames. If the schedule decides when tasks move, it is enough that the clients send the
same but for binary frames.
-/

namespace ChatRelay

theorem Transport.accept_plain (t : Transport) (frame : Frame) :
    (t.accept frame).plain = if frame.isBinary then t.plain else t.plain.accept frame := by
  have skipped := frame.inbound_isBinary
  cases binary : frame.isBinary with
  | true =>
    cases frame with
    | binary size => simp [accept, arrive, plain, Inbound.plain, Frame.inbound, Inbound.isBinary]
    | _ => cases binary
  | false =>
    rw [binary] at skipped
    unfold accept
    split
    · simp [finish, arrive, plain, Inbound.plain, Inbound.isBinary]
    · simp [arrive, plain, Inbound.plain, skipped]

namespace Relay

variable {r : Relay} {a : Action}

/-- Nothing happens in the action, or a binary frame comes or is read. -/
def hides (r : Relay) (a : Action) : Bool :=
  r.skips a || match a with
    | .step key b => !r.ready key b
    | _ => false

theorem act_of_hides (hides : r.hides a = true) : (r.act a).plain = r.plain := by
  rcases Bool.or_eq_true_iff.mp hides with skips | idle
  · exact act_skips skips
  · cases a with
    | step key b => rw [act, if_neg (by simpa using idle)]
    | _ => cases idle

theorem act_of_shows (shows : r.hides a = false) : (r.act a).plain = r.plain.act a.plain := by
  obtain ⟨other, moves⟩ := Bool.or_eq_false_iff.mp shows
  refine act_plain other fun key b same => ?_
  subst same
  simpa using moves

theorem reply_plain (r : Relay) (id : ConnectionId) (frame : Frame) :
    (r.reply id frame).plain = r.plain.reply id frame := by
  unfold reply
  split
  · rename_i payload _
    have noted := Hub.note_retell faithful_plain r.hub (e := .connection id (.ponged payload)) rfl
    exact congrArg (fun hub => { r.plain with hub }) noted.symm
  · rfl

theorem upgrade_plain (r : Relay) (peer : String) :
    (r.upgrade peer).plain = r.plain.upgrade peer := by
  have requested : (r.act (.requestUpgrade peer)).plain = r.plain.act (.requestUpgrade peer) :=
    act_plain rfl fun _ _ same => by cases same
  have completed : ((r.act (.requestUpgrade peer)).act (.completeUpgrade peer {})).plain =
      (r.act (.requestUpgrade peer)).plain.act (.completeUpgrade peer {}) :=
    act_plain rfl fun _ _ same => by cases same
  have answer : (r.plain.requestUpgrade peer).1 = (r.requestUpgrade peer).1 := by
    rw [requestUpgrade_plain]
  unfold upgrade
  dsimp only
  rw [answer]
  split
  · rw [completed, requested]
  · exact requested

end Relay

namespace ChatServer

open Relay (Pace Rested)

def plain (s : ChatServer) : ChatServer := { s with relay := s.relay.plain }

/-- An action without the binary frames, if anything is left of it. -/
def Action.plain? : Action → Option Action
  | .frames key portion =>
    if Frame.plain portion = [] then none else some (.frames key (Frame.plain portion))
  | .relay (.arrive key item) =>
    if item.isBinary then none else some (.relay (.arrive key item))
  | .relay a => some (.relay a.plain)
  | a => some a

/-- What happens in a moment but for the binary frames. Nothing does if time passes, or if a step is
not ready or reads a binary frame. -/
def Moment.plain? (s : Moment) : Option Action :=
  match s.action with
  | .relay (.pass _) => none
  | .relay (.step key b) =>
    if s.before.relay.hides (.step key b) then none else some (.relay (.step key b))
  | a => a.plain?

/-- What happens in a run but for the binary frames, and when. -/
def essence (moments : List Moment) : List (Nat × Action) :=
  moments.filterMap fun s => s.plain?.map fun a => (s.before.relay.hub.now, a)

section Plain

variable {pace : Pace} {s follower : ChatServer} {a a' : Action}

theorem receiveAll_plain (r : Relay) (key : Nat) (id : ConnectionId) (frames : List Frame) :
    (receiveAll r key id frames).plain = receiveAll r.plain key id (Frame.plain frames) := by
  induction frames generalizing r with
  | nil => rfl
  | cons frame rest ih =>
    rw [receiveAll_cons, ih]
    cases binary : frame.isBinary with
    | true =>
      have left : Frame.plain (frame :: rest) = Frame.plain rest := by simp [Frame.plain, binary]
      have silent : r.reply id frame = r := by
        cases frame <;> first | rfl | cases binary
      rw [left, silent, Relay.modifyTransport_plain_eq]
      intro t
      rw [Transport.accept_plain, if_pos binary]
    | false =>
      have first : Frame.plain (frame :: rest) = frame :: Frame.plain rest := by
        simp [Frame.plain, binary]
      rw [first, receiveAll_cons, ← Relay.reply_plain]
      rw [Relay.modifyTransport_plain _ _ (g := fun t => t.accept frame)]
      intro t
      rw [Transport.accept_plain, if_neg (by simp [binary])]

theorem frames_plain (s : ChatServer) (key : Nat) (frames : List Frame) :
    (s.act (.frames key frames)).plain = s.plain.act (.frames key (Frame.plain frames)) := by
  simp only [ChatServer.act, receive, plain, Relay.plain_getElem?]
  cases s.relay.connections[key]? with
  | none => rfl
  | some c =>
    have listening : c.plain.isListening = c.isListening := rfl
    simp only [Option.map_some, listening]
    split
    · exact congrArg (fun relay => { s with relay }) (receiveAll_plain s.relay key c.id frames)
    · rfl

theorem drop_plain (s : ChatServer) (key : Nat) :
    (s.act (.drop key)).plain = s.plain.act (.drop key) := by
  have lost : s.plain.lost = s.lost := rfl
  rw [act_drop, act_drop, lost]
  split
  · rfl
  · have gone := Relay.modifyTransport_plain s.relay key (f := Transport.lose)
      (g := Transport.lose) fun t => by
        simp [Transport.lose, Transport.plain, Transport.arrive, Inbound.plain, Inbound.isBinary]
    exact congrArg (fun relay => { s with relay, lost := key :: s.lost }) gone

theorem request_plain (s : ChatServer) (peer : String) (request : Http.Request) :
    (s.act (.request peer request)).plain = s.plain.act (.request peer request) := by
  have reaches : s.plain.reaches request = s.reaches request := rfl
  rw [act_request, act_request, reaches]
  split
  · exact congrArg (fun relay => { s with relay }) (s.relay.upgrade_plain peer)
  · rfl

theorem plain?_timeless (shown : a.plain? = some a')
    (timeless : ∀ length, a ≠ .relay (.pass length)) : ∀ length, a' ≠ .relay (.pass length) := by
  cases a with
  | relay a =>
    cases a with
    | pass length => exact absurd rfl (timeless length)
    | arrive key item =>
      simp only [Action.plain?] at shown
      split at shown
      · cases shown
      · cases shown
        simp
    | _ =>
      cases shown
      simp [Relay.Action.plain]
  | frames key portion =>
    simp only [Action.plain?] at shown
    split at shown
    · cases shown
    · cases shown
      simp
  | _ =>
    cases shown
    simp

/-- But for the steps of tasks, an action does the same without the binary frames. -/
theorem act_plain (s : ChatServer) (moves : ∀ key b, a = .relay (.step key b) →
    s.relay.hides (.step key b) = false) :
    (s.act a).plain = (a.plain?.map s.plain.act).getD s.plain := by
  cases a with
  | request peer request => exact request_plain s peer request
  | drop key => exact drop_plain s key
  | frames key frames =>
    rw [frames_plain, Action.plain?]
    split
    · rename_i nothing
      rw [nothing]
      simp only [ChatServer.act, receive, Option.map_none, Option.getD_none]
      split
      · rfl
      · split <;> rfl
    · rfl
  | relay a =>
    cases hides : s.relay.hides a with
    | false =>
      have shown : (Action.relay a).plain? = some (.relay a.plain) := by
        cases a with
        | arrive key item =>
          have other : item.isBinary = false := by simpa [Relay.hides, Relay.skips] using hides
          simp [Action.plain?, other, Relay.Action.plain]
        | _ => rfl
      rw [shown]
      exact congrArg (fun relay => { s with relay }) (Relay.act_of_shows hides)
    | true =>
      have hidden : (Action.relay a).plain? = none := by
        cases a with
        | arrive key item =>
          have binary : item.isBinary = true := by simpa [Relay.hides, Relay.skips] using hides
          simp [Action.plain?, binary]
        | step key b =>
          rw [moves key b rfl] at hides
          cases hides
        | _ => cases hides
      rw [hidden]
      exact congrArg (fun relay => { s with relay }) (Relay.act_of_hides hides)

/-- What happens but for the binary frames does the same without them. -/
theorem act_shown (shown : (Moment.mk s a).plain? = some a') :
    (∀ length, a ≠ .relay (.pass length)) ∧ (∀ length, a' ≠ .relay (.pass length)) ∧
      (s.act a).plain = s.plain.act a' := by
  have timeless : ∀ length, a ≠ .relay (.pass length) := by
    rintro length rfl
    cases shown
  by_cases steps : ∃ key b, a = .relay (.step key b)
  · obtain ⟨key, b, rfl⟩ := steps
    simp only [Moment.plain?] at shown
    split at shown
    · cases shown
    · rename_i moves
      cases shown
      refine ⟨timeless, by simp, ?_⟩
      have moves : s.relay.hides (.step key b) = false := by simpa using moves
      refine act_plain s fun key' b' same => ?_
      cases same
      exact moves
  · have same : a.plain? = some a' := by
      rw [← shown]
      unfold Moment.plain?
      split <;> simp_all
    refine ⟨timeless, plain?_timeless same timeless, ?_⟩
    rw [act_plain s fun key b step => absurd ⟨key, b, step⟩ steps, same]
    rfl

/-- Binary frames that come or are read leave everything else as it is. -/
theorem act_hidden (timeless : ∀ length, a ≠ .relay (.pass length))
    (hidden : (Moment.mk s a).plain? = none) : (s.act a).plain = s.plain := by
  by_cases steps : ∃ key b, a = .relay (.step key b)
  · obtain ⟨key, b, rfl⟩ := steps
    have hides : s.relay.hides (.step key b) = true := by simpa [Moment.plain?] using hidden
    exact congrArg (fun relay => { s with relay }) (Relay.act_of_hides hides)
  · have same : a.plain? = none := by
      rw [← hidden]
      unfold Moment.plain?
      split <;> simp_all
    rw [act_plain s fun key b step => absurd ⟨key, b, step⟩ steps, same]
    rfl

theorem settle_plain {s : ChatServer} (sound : s.relay.Sound) : s.settle.plain = s.plain.settle :=
  congrArg (fun relay => { s with relay }) (Relay.settle_plain sound)

theorem settle_of_quiet {s : ChatServer} (quiet : s.relay.isQuiet = true) : s.settle = s :=
  congrArg (fun relay => { s with relay }) (Relay.settle_of_quiet quiet)

/-- A server on its way, and one to which only what is left without the binary frames happened. -/
structure Follows (pace : Pace) (s follower : ChatServer) : Prop where
  rested : Rested pace s.relay
  rested' : Rested pace follower.relay
  behind : follower.relay.hub.now ≤ s.relay.hub.now
  plain : s.plain = follower.wait pace s.relay.hub.now

theorem now_of_plain {s' : ChatServer} (same : s.plain = s'.plain) :
    s.relay.hub.now = s'.relay.hub.now :=
  (congrArg (·.relay.hub.now) same :)

/-- The server is as its follower will be. -/
theorem Follows.of_plain (rested : Rested pace s.relay) (rested' : Rested pace follower.relay)
    (same : s.plain = follower) : Follows pace s follower := by
  have now : s.relay.hub.now = follower.relay.hub.now := (congrArg (·.relay.hub.now) same :)
  refine ⟨rested, rested', Nat.le_of_eq now.symm, ?_⟩
  rw [same, now]
  exact congrArg (fun relay => { follower with relay }) (Relay.wait_self pace follower.relay).symm

/-- Time passes, and the follower waits longer. -/
theorem Follows.pass (h : Follows pace s follower) (length : Nat) :
    Follows pace (s.proceed pace (.relay (.pass length))) follower := by
  have passed : (s.relay.proceed pace (.pass length)).plain =
      s.relay.plain.proceed pace (.pass length) := by
    cases pace with
    | stepwise => rfl
    | scheduled => exact Relay.advance_plain h.rested.sound length
  have behind := h.behind
  have waited : s.relay.plain = follower.relay.wait pace s.relay.hub.now :=
    congrArg ChatServer.relay h.plain
  rw [waited, h.rested'.wait_pass behind] at passed
  have now : (s.relay.proceed pace (.pass length)).hub.now = s.relay.hub.now + length :=
    (congrArg (fun r : Relay => r.hub.now) passed).trans
      (h.rested'.wait_now (Nat.le_add_right_of_le behind))
  rw [proceed_pass]
  refine ⟨h.rested.proceed _, h.rested', ?_, ?_⟩
  · rw [now]
    exact Nat.le_add_right_of_le behind
  · have rest : follower.route = s.route ∧ follower.lost = s.lost :=
      ⟨(congrArg ChatServer.route h.plain).symm, (congrArg ChatServer.lost h.plain).symm⟩
    rw [now, wait, rest.1, rest.2, ← passed]
    rfl

/-- Nothing happens but for the binary frames, and the follower is left where it is. -/
theorem Follows.hidden (h : Follows pace s follower)
    (timeless : ∀ length, a ≠ .relay (.pass length))
    (hidden : (Moment.mk s a).plain? = none) : Follows pace (s.proceed pace a) follower := by
  have still := act_hidden timeless hidden
  have same : (s.proceed pace a).plain = s.plain := by
    cases pace with
    | stepwise => exact still
    | scheduled =>
      rw [proceed_scheduled s timeless, settle_plain (act_sound h.rested.sound a), still]
      exact settle_of_quiet (Relay.isQuiet_plain (h.rested.rest rfl))
  have now : (s.proceed pace a).relay.hub.now = s.relay.hub.now := now_of_plain same
  refine ⟨rested_proceed h.rested a, h.rested', ?_, ?_⟩
  · rw [now]
    exact h.behind
  · rw [same, now]
    exact h.plain

/-- What is left of an action happens to the follower at the same time. -/
theorem Follows.shown (h : Follows pace s follower) (shown : (Moment.mk s a).plain? = some a') :
    Follows pace (s.proceed pace a) (follower.follow pace (s.relay.hub.now, a')) := by
  obtain ⟨timeless, timeless', acted⟩ := act_shown shown
  have waited : Rested pace (follower.wait pace s.relay.hub.now).relay :=
    h.rested'.wait s.relay.hub.now
  refine .of_plain (rested_proceed h.rested a) (rested_proceed waited a') ?_
  rw [h.plain] at acted
  cases pace with
  | stepwise => exact acted
  | scheduled =>
    rw [proceed_scheduled s timeless, follow, proceed_scheduled _ timeless', ← acted]
    exact settle_plain (act_sound h.rested.sound a)

end Plain

theorem plain_of_made {config : RelayConfig} {server : ChatServer}
    (made : ofConfig config = .ok server) : server.plain = server := by
  have nothing : server.relay.plain = server.relay := by
    rw [relay_of_made made]
    simp [Relay.plain, Relay.ofConfig, Hub.plain, Hub.retell, Entry.plain]
  exact congrArg (fun relay => { server with relay }) nothing

/-- A run is followed by what is left of it without the binary frames. -/
theorem conducted_follows {config : RelayConfig} {server : ChatServer}
    (made : ofConfig config = .ok server) (pace : Pace) (actions : List Action) :
    Follows pace (conducted pace server actions)
      ((essence (moments pace server actions)).foldl (follow pace) server) := by
  induction actions using List.reverseRecOn with
  | nil =>
    have start : Rested pace server.relay := by
      rw [relay_of_made made]
      exact Relay.rested_start pace config
    exact .of_plain start start (plain_of_made made)
  | append_singleton actions a ih =>
    rw [moments_append, conducted_append, essence, List.filterMap_append, List.foldl_append]
    cases left : (Moment.mk (conducted pace server actions) a).plain? with
    | some a' =>
      simp only [List.filterMap_cons, left, Option.map_some, List.filterMap_nil, List.foldl_cons,
        List.foldl_nil]
      exact ih.shown left
    | none =>
      simp only [List.filterMap_cons, left, Option.map_none, List.filterMap_nil, List.foldl_nil]
      by_cases timed : ∃ length, a = .relay (.pass length)
      · obtain ⟨length, rfl⟩ := timed
        exact ih.pass length
      · exact ih.hidden (not_exists.mp timed) left

/-- The schedule leaves no step that could be asked for. -/
theorem proceed_step {s : ChatServer} (quiet : s.relay.isQuiet = true) (key : Nat) (b : Branch) :
    s.proceed .scheduled (.relay (.step key b)) = s := by
  have unready : s.relay.ready key b = false := Relay.isQuiet_iff.mp quiet key b
  have idle : s.act (.relay (.step key b)) = s := by simp [ChatServer.act, Relay.act, unready]
  rw [proceed_scheduled s (by simp), idle, settle_of_quiet quiet]

/-- If the schedule decides when tasks move, an action does the same without the binary frames. -/
theorem proceed_plain {s : ChatServer} (rested : Rested .scheduled s.relay) (a : Action) :
    (s.proceed .scheduled a).plain =
      (a.plain?.map (s.plain.proceed .scheduled)).getD s.plain := by
  have quiet := rested.rest rfl
  have quiet' := Relay.isQuiet_plain quiet
  by_cases timed : ∃ length, a = .relay (.pass length)
  · obtain ⟨length, rfl⟩ := timed
    exact congrArg (fun relay => { s with relay }) (Relay.advance_plain rested.sound length)
  have timeless := not_exists.mp timed
  by_cases steps : ∃ key b, a = .relay (.step key b)
  · obtain ⟨key, b, rfl⟩ := steps
    rw [proceed_step quiet]
    exact (proceed_step (s := s.plain) quiet' key b).symm
  · have acted := act_plain s fun key b step => absurd ⟨key, b, step⟩ steps
    rw [proceed_scheduled s timeless, settle_plain (act_sound rested.sound a), acted]
    cases left : a.plain? with
    | none => exact settle_of_quiet quiet'
    | some a' => exact (proceed_scheduled s.plain (plain?_timeless left timeless)).symm

/-- A run on which the schedule decides is, without the binary frames, the run in which nobody sends
any. -/
theorem conducted_plain {config : RelayConfig} {server : ChatServer}
    (made : ofConfig config = .ok server) (actions : List Action) :
    (conducted .scheduled server actions).plain =
      conducted .scheduled server (actions.filterMap Action.plain?) := by
  induction actions using List.reverseRecOn with
  | nil => exact plain_of_made made
  | append_singleton actions a ih =>
    rw [conducted_append, List.filterMap_append,
      proceed_plain (conducted_follows made .scheduled actions).rested, ih]
    cases left : a.plain? with
    | none => simp [left]
    | some a' =>
      rw [List.filterMap_cons_some left, List.filterMap_nil, conducted_append]
      rfl

/-- Nobody can tell two servers apart, except by what they have logged of binary frames. -/
structure Unobserved (s s' : ChatServer) : Prop where
  /-- Each task stands where it stands in the other, with the same deadlines and result. -/
  tasks : ∀ key, s.relay.task? key = s'.relay.task? key
  /-- All that was written, pinged, closed, registered and returned, and when. -/
  told : Entry.plain s.relay.hub.journal = Entry.plain s'.relay.hub.journal
  registry : s.relay.hub.registry = s'.relay.hub.registry
  queues : s.relay.hub.queues = s'.relay.hub.queues
  meters : s.relay.hub.meters = s'.relay.hub.meters
  slots : s.relay.slots = s'.relay.slots
  due : s.relay.nextDue? = s'.relay.nextDue?
  /-- Whatever may happen next makes no difference either. -/
  whole : s.plain = s'.plain

theorem unobserved_of_plain {s s' : ChatServer} (same : s.plain = s'.plain) : Unobserved s s' := by
  have relay : s.relay.plain = s'.relay.plain := congrArg ChatServer.relay same
  constructor
  case tasks =>
    intro key
    rw [← Relay.task?_plain s.relay, relay, Relay.task?_plain]
  case told => exact (congrArg (·.hub.journal) relay :)
  case registry => exact (congrArg (·.hub.registry) relay :)
  case queues => exact (congrArg (·.hub.queues) relay :)
  case meters => exact (congrArg (·.hub.meters) relay :)
  case slots => exact (congrArg (·.slots) relay :)
  case due => rw [← Relay.nextDue?_plain s.relay, relay, Relay.nextDue?_plain]
  case whole => exact same

/-- A task gets to read the images of its client's frames but for the binary ones. Two runs that
differ in binary frames, and in the steps that read them, are the same to everybody at all times;
and if the schedule decides when tasks move, so are any two in which the clients send the same but
for binary frames. -/
theorem binary_unobserved {config : RelayConfig} {server : ChatServer}
    (made : ofConfig config = .ok server) :
    (∀ (actions : List Action) (key : Nat) (c : Connection),
      (conducted .stepwise server actions).relay.connections[key]? = some c →
        Reads server actions key c) ∧
    (∀ (pace : Pace) (actions actions' : List Action),
      essence (moments pace server actions) = essence (moments pace server actions') →
      (conducted pace server actions).relay.hub.now =
        (conducted pace server actions').relay.hub.now →
      Unobserved (conducted pace server actions) (conducted pace server actions')) ∧
    ∀ actions actions' : List Action,
      actions.filterMap Action.plain? = actions'.filterMap Action.plain? →
      Unobserved (conducted .scheduled server actions) (conducted .scheduled server actions') := by
  refine ⟨fun actions key c here => conducted_reads made here, ?_, ?_⟩
  · intro pace actions actions' same clock
    apply unobserved_of_plain
    rw [(conducted_follows made pace actions).plain, (conducted_follows made pace actions').plain,
      same, clock]
  · intro actions actions' same
    apply unobserved_of_plain
    rw [conducted_plain made, conducted_plain made, same]

/-- A server under default settings. -/
def lobby : ChatServer where
  relay := .ofConfig {}
  route := [.literal "chat-ws".toList]

/-- A well-formed request for an upgrade. -/
def joining : Http.Request where
  target := "/chat-ws"
  headers := [("connection", "Upgrade"), ("upgrade", "websocket"), ("sec-websocket-version", "13"),
    ("sec-websocket-key", "AAAAAAAAAAAAAAAAAAAAAA==")]

/-- Alice says a line and goes. -/
def farewell : List Action :=
  [.request "a" joining, .relay (.step 0 .start), .frames 0 [.text "alice"],
    .relay (.step 0 .read), .frames 0 [.text "hi"], .frames 0 [.close 2, .text "late"],
    .relay (.step 0 .read), .relay (.step 0 .read)]

/-- She does so among binary frames. -/
def interrupted : List Action :=
  [.request "a" joining, .relay (.step 0 .start), .frames 0 [.binary 3, .text "alice", .binary 0],
    .relay (.step 0 .read), .relay (.step 0 .read), .relay (.step 0 .read),
    .frames 0 [.text "hi", .binary 9], .frames 0 [.close 2, .text "late"], .relay (.step 0 .read),
    .relay (.step 0 .read), .relay (.step 0 .read)]

/-- Alice says a line and falls silent, and Bob gives no name. Noise comes before the name, between
the lines, while they are silent, and while a ping to Alice hangs. -/
def noisy (noise : List Frame) : List Action :=
  [.request "a" joining, .request "b" joining,
    .frames 0 (noise ++ .ping "p" :: noise ++ .text "alice" :: noise ++ [.text "hi"]),
    .frames 1 noise, .relay (.pass 9000), .frames 1 noise, .relay (.setModes 0 .ok .hangs .ok),
    .relay (.pass 25000), .frames 0 noise, .relay (.setModes 0 .ok .ok .ok), .frames 0 noise,
    .relay (.pass 40000), .frames 0 noise, .relay (.pass 46000)]

theorem binary_unobserved_noisy :
    ofConfig {} = .ok lobby ∧
      (∃ c, (conducted .stepwise lobby interrupted).relay.connections[0]? = some c ∧
        yielded 0 (moments .stepwise lobby interrupted) =
          [.text "alice", .text "hi", .streamEnd] ∧ Reads lobby interrupted 0 c) ∧
      Unobserved (conducted .stepwise lobby interrupted) (conducted .stepwise lobby farewell) ∧
      let loud := conducted .scheduled lobby (noisy [.binary 3, .binary 0])
      loud.relay.task? 0 = some (⟨1⟩, .ended (.returned (some .idleTimeout))) ∧
        loud.relay.task? 1 = some (⟨2⟩, .ended (.returned (some .handshakeTimeout))) ∧
        Unobserved loud (conducted .scheduled lobby (noisy [])) := by
  have made : ofConfig {} = .ok lobby := rfl
  obtain ⟨reads, matched, sent⟩ := binary_unobserved made
  have alice : (conducted .stepwise lobby interrupted).relay.connections[0]? = some
      { id := ⟨1⟩, peer := "a", phase := .closing none false 10000, holdsSlot := true,
        transport :=
          { inbound := [.text "late"], isOpen := false, closing := .fails Defect.reset.fault } } :=
    by decide +kernel
  exact ⟨made, ⟨_, alice, by decide +kernel, reads _ _ _ alice⟩,
    matched _ _ _ (by decide +kernel) (by decide +kernel), by decide +kernel, by decide +kernel,
    sent _ _ (by decide +kernel)⟩

end ChatServer

end ChatRelay
