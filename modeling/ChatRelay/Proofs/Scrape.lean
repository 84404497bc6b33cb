import ChatRelay.Proofs.Broadcast.Counts
import ChatRelay.Proofs.Exposition
import ChatRelay.Proofs.Histogram

/-!
# What a scraper learns

After any sequence of updates and broadcasts a scraper reads the seven families in the order of
their names, with the gauge and the counters as they are. The histogram tells of all broadcasts how
many of them had at most so many recipients, and how many recipients there were together. All
numbers are exact up to `2 ^ 53`.
-/

namespace ChatRelay

def Meters.counter (m : Meters) : Counter → UInt64
  | .connections => m.connections
  | .handshakeTimeouts => m.handshakeTimeouts
  | .messages => m.messages
  | .deliveries => m.deliveries
  | .deliveryFailures => m.deliveryFailures

namespace Exposition

def counterGroup (name help : String) (n : Nat) : Group :=
  { name, help, kind := .counter, points := [{ name, value := n }] }

/-- For each bound the number of values that are at most the bound, and the number of all. -/
def bucketPoints (name : String) (values : List Nat) : List Point :=
  Histogram.bounds.map (fun bound =>
      { name := name ++ "_bucket", bound := some (toString bound),
        value := values.countP (· ≤ bound) })
    ++ [{ name := name ++ "_bucket", bound := some "+Inf", value := values.length }]

def histogramPoints (name : String) (values : List Nat) : List Point :=
  bucketPoints name values
    ++ [{ name := name ++ "_sum", value := values.sum },
      { name := name ++ "_count", value := values.length }]

/-- The seven families for a gauge, the counters and the numbers of recipients. -/
def report (connected : Int) (counter : Counter → Nat) (audiences : List Nat) : List Group :=
  [ { name := "parlor_broadcast_recipients"
      help := "Anzahl Empfaenger pro Broadcast"
      kind := .histogram
      points := histogramPoints "parlor_broadcast_recipients" audiences },
    { name := "parlor_connected_clients"
      help := "Anzahl aktuell angemeldeter Verbindungen"
      kind := .gauge
      points := [{ name := "parlor_connected_clients", value := connected }] },
    counterGroup "parlor_connections_total" "Gesamtanzahl akzeptierter Verbindungen"
      (counter .connections),
    counterGroup "parlor_deliveries_total" "Erfolgreich eingereihte Zustellungen"
      (counter .deliveries),
    counterGroup "parlor_delivery_failures_total"
      "Fehlgeschlagene Zustellungen (Queue voll oder geschlossen)" (counter .deliveryFailures),
    counterGroup "parlor_handshake_timeouts_total"
      "Verbindungen die den Handshake nicht rechtzeitig abgeschlossen haben"
      (counter .handshakeTimeouts),
    counterGroup "parlor_messages_total" "Gesamtanzahl gebroadcasteter Chat-Nachrichten"
      (counter .messages) ]

theorem report_sorted (connected : Int) (counter : Counter → Nat) (audiences : List Nat) :
    ((report connected counter audiences).map Group.name).Pairwise (· < ·) := by
  change ["parlor_broadcast_recipients", "parlor_connected_clients", "parlor_connections_total",
    "parlor_deliveries_total", "parlor_delivery_failures_total", "parlor_handshake_timeouts_total",
    "parlor_messages_total"].Pairwise (· < ·)
  decide

/-- The buckets never decrease, and the last one counts all values. -/
theorem bucketPoints_rising (name : String) (values : List Nat) :
    ((bucketPoints name values).map Point.value).Pairwise (· ≤ ·) := by
  have ascending : Histogram.bounds.Pairwise (· ≤ ·) := by decide
  rw [bucketPoints, List.map_append, List.map_map, List.pairwise_append]
  refine ⟨List.Pairwise.map _ ?_ ascending, by simp, ?_⟩
  · intro a b le
    exact Int.ofNat_le.mpr (List.countP_mono_left fun v _ below => by
      simp only [decide_eq_true_eq] at below ⊢
      exact Nat.le_trans below le)
  · intro z hz z' hz'
    obtain ⟨bound, -, rfl⟩ := List.mem_map.mp hz
    obtain rfl := List.mem_singleton.mp hz'
    exact Int.ofNat_le.mpr List.countP_le_length

theorem isPlain_append {a b : String} (first : IsPlain a) (second : IsPlain b) :
    IsPlain (a ++ b) := by
  intro mark here
  rw [String.toList_append, List.mem_append, not_or]
  exact ⟨first mark here, second mark here⟩

theorem isPlain_toString (n : Nat) : IsPlain (toString n) := by
  have marks : ∀ mark ∈ [' ', '\n', '"', '\x7b'], mark.isDigit = false := by
    simp [Char.isDigit]
  intro mark here digit
  have isDigit := toString_digits n mark digit
  rw [marks mark here] at isDigit
  cases isDigit

section Samples

variable {name : String} (plain : IsPlain name)

include plain

theorem tells_natural {bound : Option String} (plainBound : ∀ b, bound = some b → IsPlain b)
    {n : Nat} (small : n ≤ Nat.pow 2 53) :
    Sample.Tells { name, bound, value := .ofNat n } { name, bound, value := n } where
  name := rfl
  bound := rfl
  value := Binary64.text_ofNat small
  plain := plain
  plainBound := plainBound

theorem counterFamily_tells {help : String} (oneLine : '\n' ∉ help.toList) {n : UInt64}
    (small : n.toNat ≤ Nat.pow 2 53) :
    (counterFamily name help n).Tells (counterGroup name help n.toNat) where
  name := rfl
  help := rfl
  kind := rfl
  samples := .cons (tells_natural plain (by simp) small) .nil
  plain := plain
  oneLine := oneLine

theorem histogramSamples_tell {h : Histogram} {values : List Nat} (counts : h.Counts values)
    (few : values.length ≤ Nat.pow 2 53) (small : values.sum ≤ Nat.pow 2 53) :
    List.Forall₂ Sample.Tells (histogramSamples name h) (histogramPoints name values) := by
  have bucket := isPlain_append plain (show IsPlain "_bucket" by decide)
  have kept {n : Nat} (le : n ≤ values.length) : (UInt64.ofNat n).toNat = n :=
    UInt64.toNat_ofNat_of_lt' (Nat.lt_of_le_of_lt (Nat.le_trans le few) (by decide))
  rw [histogramSamples, histogramPoints, bucketPoints, counts.atMost, counts.count, counts.sum,
    kept (Nat.le_refl _), List.append_assoc, List.zipWith_map_right, List.zipWith_self]
  refine List.rel_append ?_ (.cons ?_ (.cons ?_ (.cons ?_ .nil)))
  · rw [List.forall₂_map_left_iff, List.forall₂_map_right_iff, List.forall₂_same]
    intro bound _
    have le : values.countP (· ≤ bound) ≤ values.length := List.countP_le_length
    rw [kept le]
    refine tells_natural bucket (fun b same => ?_) (Nat.le_trans le few)
    exact Option.some.inj same ▸ isPlain_toString bound
  · refine tells_natural bucket (fun b same => ?_) few
    exact Option.some.inj same ▸ (by decide)
  · exact tells_natural (isPlain_append plain (by decide)) (by simp) small
  · exact tells_natural (isPlain_append plain (by decide)) (by simp) few

end Samples

/-- What the meters hold is small enough to be told. -/
structure Small (m : Meters) (audiences : List Nat) : Prop where
  connected : m.connected.toInt.natAbs ≤ Nat.pow 2 53
  counter : ∀ c, (m.counter c).toNat ≤ Nat.pow 2 53
  broadcasts : audiences.length ≤ Nat.pow 2 53
  recipients : audiences.sum ≤ Nat.pow 2 53

theorem families_tell {m : Meters} {audiences : List Nat} (small : Small m audiences)
    (counts : m.recipients.Counts audiences) : List.Forall₂ Family.Tells (families m)
      (report m.connected.toInt (fun c => (m.counter c).toNat) audiences) := by
  have counter {name help : String} (c : Counter) (plain : IsPlain name)
      (oneLine : '\n' ∉ help.toList) :
      (counterFamily name help (m.counter c)).Tells (counterGroup name help (m.counter c).toNat) :=
    counterFamily_tells plain oneLine (small.counter c)
  have histogram : IsPlain "parlor_broadcast_recipients" := by decide
  have histogramHelp : '\n' ∉ "Anzahl Empfaenger pro Broadcast".toList := by decide
  have gauge : IsPlain "parlor_connected_clients" := by decide
  have gaugeHelp : '\n' ∉ "Anzahl aktuell angemeldeter Verbindungen".toList := by decide
  refine .cons ⟨rfl, rfl, rfl, ?_, histogram, histogramHelp⟩ <|
    .cons ⟨rfl, rfl, rfl, ?_, gauge, gaugeHelp⟩ <|
    .cons (counter .connections (by decide) (by decide)) <|
    .cons (counter .deliveries (by decide) (by decide)) <|
    .cons (counter .deliveryFailures (by decide) (by decide)) <|
    .cons (counter .handshakeTimeouts (by decide) (by decide)) <|
    .cons (counter .messages (by decide) (by decide)) .nil
  · exact histogramSamples_tell histogram counts small.broadcasts small.recipients
  · exact .cons ⟨rfl, rfl, Binary64.text_ofInt small.connected, gauge, by simp⟩ .nil

end Exposition

/-- What can happen to a hub: the meters are written, members come and go, texts go through the
queues, and messages are broadcast. -/
inductive Update where
  | set (n : Int64)
  | add (n : Int64)
  | increase (c : Counter) (amount : UInt64)
  | openQueue (capacity : Nat)
  | register (m : Member)
  | unregister (id : ConnectionId)
  | endRegistry
  | deliver (m : Member) (text : String)
  | take (key : QueueKey)
  | dropReader (key : QueueKey)
  | broadcast (message : Message)

namespace Hub

/-- The hub after an update; one that cannot be made changes nothing. -/
def update (h : Hub) : Update → Hub
  | .set n => { h with meters := h.meters.setConnected n }
  | .add n => { h with meters := h.meters.addConnected n }
  | .increase c amount => { h with meters := h.meters.increase c amount }
  | .openQueue capacity => (h.openQueue capacity).2
  | .register m => (h.register m).toOption.getD h
  | .unregister id => (h.unregister id).2
  | .endRegistry => h.endRegistry.2
  | .deliver m text => (h.deliver m text).toOption.getD h
  | .take key => (h.take? key).elim h Prod.snd
  | .dropReader key => h.dropReader key
  | .broadcast message => (h.broadcast message).1

/-- The number of recipients, if the update is a broadcast. -/
def audience (h : Hub) : Update → List Nat
  | .broadcast message => [(recipients h.registry.members message.sender).length]
  | _ => []

def audiences : Hub → List Update → List Nat
  | _, [] => []
  | h, u :: rest => h.audience u ++ (h.update u).audiences rest

theorem update_options (h : Hub) (u : Update) : (h.update u).options = h.options := by
  cases u with
  | set n => rfl
  | add n => rfl
  | increase c amount => rfl
  | openQueue capacity => rfl
  | register m =>
    cases done : h.register m with
    | error fault => simp [update, done, Except.toOption]
    | ok h' =>
      obtain ⟨registry, -, rfl⟩ := register_eq_ok_iff.mp done
      simp [update, done, Except.toOption]
  | unregister id => exact unregister_options h id
  | endRegistry => exact endRegistry_options h
  | deliver m text =>
    cases done : h.deliver m text with
    | error fault => simp [update, done, Except.toOption]
    | ok h' =>
      obtain ⟨q, rfl⟩ := eq_of_deliver_ok done
      simp [update, done, Except.toOption]
  | take key =>
    cases taken : h.take? key with
    | none => simp [update, taken]
    | some next =>
      obtain ⟨q, rest, -, -, same⟩ := take?_eq_some_iff.mp taken
      simp [update, taken, same]
  | dropReader key => exact dropReader_options h key
  | broadcast message => exact (broadcast_frame h message).1

/-- Only broadcasts are observed, each with the number of its recipients. -/
theorem update_recipients (h : Hub) (metered : h.options.broadcastMetered = true) (u : Update) :
    (h.update u).meters.recipients =
      (h.audience u).foldl (fun histogram n => histogram.observe (.ofNat n))
        h.meters.recipients := by
  have kept {m m' : Meters} (same : m'.counts = m.counts) : m'.recipients = m.recipients := by
    change m'.counts.recipients = m.counts.recipients
    rw [same]
  cases u with
  | set n => rfl
  | add n => rfl
  | increase c amount => cases c <;> rfl
  | openQueue capacity => rfl
  | register m =>
    cases done : h.register m with
    | error fault => simp [update, audience, done, Except.toOption]
    | ok h' =>
      simpa [update, audience, done, Except.toOption] using kept (register_counts done)
  | unregister id => exact kept (unregister_counts h id)
  | endRegistry => exact kept (endRegistry_counts h)
  | deliver m text =>
    cases done : h.deliver m text with
    | error fault => simp [update, audience, done, Except.toOption]
    | ok h' =>
      obtain ⟨q, rfl⟩ := eq_of_deliver_ok done
      simp [update, audience, done, Except.toOption]
  | take key =>
    cases taken : h.take? key with
    | none => simp [update, audience, taken]
    | some next => simp [update, audience, taken, take?_meters taken]
  | dropReader key => rfl
  | broadcast message =>
    have counted := congrArg Meters.recipients (broadcast_counts h message metered)
    rw [Meters.countBroadcast, broadcast_counted] at counted
    exact counted

/-- A histogram counts the audiences of all broadcasts, one after the other. -/
theorem updates_counted {h : Hub} (metered : h.options.broadcastMetered = true)
    {values : List Nat} (counts : h.meters.recipients.Counts values) (updates : List Update)
    (small : (values ++ h.audiences updates).sum ≤ Nat.pow 2 53) :
    (updates.foldl update h).meters.recipients.Counts (values ++ h.audiences updates) := by
  induction updates generalizing h values with
  | nil => simpa [audiences] using counts
  | cons u rest ih =>
    rw [audiences, ← List.append_assoc] at small ⊢
    have some : (values ++ h.audience u).sum ≤ Nat.pow 2 53 := by
      rw [List.sum_append] at small
      exact Nat.le_trans (Nat.le_add_right _ _) small
    refine ih ((congrArg HubOptions.broadcastMetered (update_options h u)).trans metered) ?_ small
    rw [update_recipients h metered u]
    exact counts.observeAll some

end Hub

namespace Exposition

/-- A scraper learns what the meters hold, and of all broadcasts so far how many recipients they
had. -/
structure Faithful (m : Meters) (audiences : List Nat) : Prop where
  read : read? (text m) =
    some (report m.connected.toInt (fun c => (m.counter c).toNat) audiences)
  sorted : ((report m.connected.toInt (fun c => (m.counter c).toNat) audiences).map
    Group.name).Pairwise (· < ·)
  rising : ((bucketPoints "parlor_broadcast_recipients" audiences).map Point.value).Pairwise (· ≤ ·)

/-- After any sequence of updates of a hub whose meters were new, what is exposed is faithful. -/
theorem updates_faithful {h : Hub} (fresh : h.meters = {})
    (metered : h.options.broadcastMetered = true) (updates : List Update)
    (small : Small (updates.foldl Hub.update h).meters (h.audiences updates)) :
    Faithful (updates.foldl Hub.update h).meters (h.audiences updates) where
  read := by
    have start : h.meters.recipients.Counts [] := by
      rw [fresh]
      exact Histogram.counts_nil
    exact read?_families (families_tell small
      (Hub.updates_counted metered start updates small.recipients))
  sorted := report_sorted _ _ _
  rising := bucketPoints_rising _ _

/-- Broadcasts to nobody, to two and to three members, of whom two have no room. The gauge and a
counter are written as far from zero as they can be told. -/
def atTheLimits : List Update :=
  [.broadcast ⟨⟨9⟩, "dave", "hello?"⟩, .openQueue 2, .register ⟨⟨1⟩, "alice", 0⟩, .openQueue 1,
    .register ⟨⟨2⟩, "bob", 1⟩, .openQueue 1, .register ⟨⟨3⟩, "carol", 2⟩,
    .broadcast ⟨⟨1⟩, "alice", "hi"⟩, .take 0, .broadcast ⟨⟨9⟩, "dave", "hello!"⟩, .unregister ⟨1⟩,
    .increase .connections 9007199254740991, .increase .connections 1, .set 5,
    .add (-9007199254740997)]

theorem updates_faithful_atTheLimits :
    let h : Hub := {}
    let after := atTheLimits.foldl Hub.update h
    h.meters = {} ∧ h.options.broadcastMetered = true ∧ h.audiences atTheLimits = [0, 2, 3] ∧
      after.meters.connected.toInt = -9007199254740992 ∧
      (after.meters.counter .connections).toNat = 9007199254740992 ∧
      (after.meters.counter .deliveryFailures).toNat = 2 ∧
      Small after.meters (h.audiences atTheLimits) ∧
      Faithful after.meters (h.audiences atTheLimits) := by
  intro h after
  have audiences : h.audiences atTheLimits = [0, 2, 3] := by decide +kernel
  have small : Small after.meters (h.audiences atTheLimits) := by
    refine ⟨by decide +kernel, ?_, by rw [audiences]; decide, by rw [audiences]; decide⟩
    intro c
    cases c <;> decide +kernel
  exact ⟨rfl, rfl, audiences, by decide +kernel, by decide +kernel, by decide +kernel, small,
    updates_faithful rfl rfl atTheLimits small⟩

end Exposition

end ChatRelay
