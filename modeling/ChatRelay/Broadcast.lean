import ChatRelay.Hub

/-!
# Broadcasts

A broadcast takes a snapshot of the registry and offers the text to every member but the sender.
A member that cannot take it is removed once the snapshot is dropped; the others do not notice.
-/

namespace ChatRelay

/-- The outcome of a broadcast; the failed ones in the order of their identities. -/
structure Report where
  delivered : Nat := 0
  failed : List ConnectionId := []
deriving DecidableEq

namespace Hub

def deliverTo (h : Hub) (sender : ConnectionId) (text : String) (report : Report) (m : Member) :
    Hub × Report :=
  match h.deliver m text with
  | .ok h => (h, { report with delivered := report.delivered + 1 })
  | .error fault =>
    (h.note (.deliveryFailed m.id m.name sender fault),
      { report with failed := report.failed ++ [m.id] })

def deliverAll (h : Hub) (sender : ConnectionId) (text : String) :
    Report → List Member → Hub × Report
  | report, [] => (h, report)
  | report, m :: rest =>
    let (h, report) := h.deliverTo sender text report m
    h.deliverAll sender text report rest

/-- Removes those that could not take the text. -/
def unregisterAll (h : Hub) (ids : List ConnectionId) : Hub :=
  ids.foldl (fun h id => (h.unregister id).2) h

/-- The members of a snapshot that a sender's message goes to. -/
def recipients (snapshot : List Member) (sender : ConnectionId) : List Member :=
  snapshot.filter fun m => m.id != sender

/-- Enters a finished broadcast into journal and meters. -/
def account (h : Hub) (message : Message) (report : Report) : Hub :=
  let h := h.note (.broadcast message report.delivered report.failed)
  if h.options.broadcastMetered then
    { h with meters := h.meters.countBroadcast report.delivered report.failed.length }
  else h

/-- Sends a message to everyone registered but its sender. -/
def broadcast (h : Hub) (message : Message) : Hub × Report :=
  let text := message.render h.options.showSender
  let snapshot := h.registry.members
  let (h, report) := h.deliverAll message.sender text {} (recipients snapshot message.sender)
  let h := h.unregisterAll report.failed
  (h.account message report, report)

end Hub

end ChatRelay
