import ChatRelay.Desk
import ChatRelay.Diagnostic
import ChatRelay.Main
import ChatRelay.Proofs.Broadcast.Contiguity
import ChatRelay.Proofs.Connection.Pending
import ChatRelay.Proofs.Desk
import ChatRelay.Proofs.Desk.Lifetime
import ChatRelay.Proofs.Desk.Rejection
import ChatRelay.Proofs.Desk.RollCall
import ChatRelay.Proofs.Relay.Abandonment
import ChatRelay.Proofs.Relay.Admission
import ChatRelay.Proofs.Relay.Confluence
import ChatRelay.Proofs.Relay.Delivery
import ChatRelay.Proofs.Relay.Handshake
import ChatRelay.Proofs.Relay.Identity
import ChatRelay.Proofs.Relay.Isolation
import ChatRelay.Proofs.Relay.Membership
import ChatRelay.Proofs.Relay.Overflow
import ChatRelay.Proofs.Relay.Patience
import ChatRelay.Proofs.Relay.Release
import ChatRelay.Proofs.Relay.Removal
import ChatRelay.Proofs.Relay.Results
import ChatRelay.Proofs.Relay.Shutdown
import ChatRelay.Proofs.Relay.Silence
import ChatRelay.Proofs.Relay.Stuck
import ChatRelay.Proofs.Scrape
import ChatRelay.Proofs.Server.Serving
import ChatRelay.Proofs.Server.Unobserved
import ChatRelay.Proofs.Settings.Meaning
import ChatRelay.Proofs.Settings.Written
import ChatRelay.Proofs.Signal
