import ChatRelay.Binary64.Shortest
import ChatRelay.Metrics

/-!
# Exposition of the meters

The text in which a scraper reads the meters: one family after the other in the order of their
names, each with a line of help, a line of its kind, and one line per sample. Every value is a
binary floating-point number there, also that of a counter.
-/

namespace ChatRelay.Exposition

inductive Kind where
  | gauge
  | counter
  | histogram
deriving DecidableEq

def Kind.text : Kind → String
  | .gauge => "gauge"
  | .counter => "counter"
  | .histogram => "histogram"

/-- A sample; `bound` is the upper bound of a bucket of a histogram. -/
structure Sample where
  name : String
  bound : Option String := none
  value : Binary64

structure Family where
  name : String
  help : String
  kind : Kind
  samples : List Sample

def Sample.line (s : Sample) : String :=
  let label := match s.bound with
    | some bound => "\x7ble=\"" ++ bound ++ "\"\x7d"
    | none => ""
  s.name ++ label ++ " " ++ s.value.text ++ "\n"

def Family.text (f : Family) : String :=
  "# HELP " ++ f.name ++ " " ++ f.help ++ "\n"
    ++ "# TYPE " ++ f.name ++ " " ++ f.kind.text ++ "\n"
    ++ String.join (f.samples.map Sample.line)

def counterFamily (name help : String) (n : UInt64) : Family :=
  { name, help, kind := .counter, samples := [{ name, value := .ofNat n.toNat }] }

/-- The buckets with running totals, the total over all values, their sum and their count. -/
def histogramSamples (name : String) (h : Histogram) : List Sample :=
  List.zipWith
      (fun bound n =>
        { name := name ++ "_bucket", bound := some (toString bound), value := .ofNat n.toNat })
      Histogram.bounds h.cumulative
    ++ [{ name := name ++ "_bucket", bound := some "+Inf", value := .ofNat h.count.toNat },
      { name := name ++ "_sum", value := h.sum },
      { name := name ++ "_count", value := .ofNat h.count.toNat }]

/-- The seven families in the order of their names. -/
def families (m : Meters) : List Family :=
  [ { name := "parlor_broadcast_recipients"
      help := "Anzahl Empfaenger pro Broadcast"
      kind := .histogram
      samples := histogramSamples "parlor_broadcast_recipients" m.recipients },
    { name := "parlor_connected_clients"
      help := "Anzahl aktuell angemeldeter Verbindungen"
      kind := .gauge
      samples := [{ name := "parlor_connected_clients", value := .ofInt m.connected.toInt }] },
    counterFamily "parlor_connections_total" "Gesamtanzahl akzeptierter Verbindungen"
      m.connections,
    counterFamily "parlor_deliveries_total" "Erfolgreich eingereihte Zustellungen" m.deliveries,
    counterFamily "parlor_delivery_failures_total"
      "Fehlgeschlagene Zustellungen (Queue voll oder geschlossen)" m.deliveryFailures,
    counterFamily "parlor_handshake_timeouts_total"
      "Verbindungen die den Handshake nicht rechtzeitig abgeschlossen haben" m.handshakeTimeouts,
    counterFamily "parlor_messages_total" "Gesamtanzahl gebroadcasteter Chat-Nachrichten"
      m.messages ]

def text (m : Meters) : String := String.join ((families m).map Family.text)

end ChatRelay.Exposition
