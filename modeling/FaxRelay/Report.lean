import FaxRelay.Data.Value
import FaxRelay.Gateway
import FaxRelay.Logging
import FaxRelay.Settings.Form

/-!
# Reports

What a relay shows of itself as plain data: its sessions and slots, a summary
of what it holds, its statistics, and the settings of its log. The life of an
engine is shown as lines: when it was attached, what it heard, and when it was
retired.
-/

set_option autoImplicit false

namespace FaxRelay

open FaxRelay.Data FaxRelay.Net FaxRelay.Signal

/-- A number as plain data. -/
def countValue (count : Nat) : Value := .integer count

/-- A value that may be absent as plain data. -/
def optionValue {α : Type} (toValue : α → Value) (value : Option α) : Value :=
  (value.map toValue).getD .nothing

/-- An endpoint as plain data. -/
def Net.Endpoint.toValue (address : Endpoint) : Value := .text address.text

/-- The number of a session as plain data. -/
def SessionId.toValue (id : SessionId) : Value := countValue id.value.toNat

/-- The fields of a session. -/
def Session.toFields (session : Session) : List (String × Value) := [
  ("id", session.id.toValue),
  ("call_id", optionValue (fun callId => .text callId.text) session.callId),
  ("index", countValue session.index),
  ("mode", .text session.role.word),
  ("dir", .text session.direction.word),
  ("state", .text session.stage.name),
  ("local", optionValue Endpoint.toValue session.localAddress),
  ("remote", optionValue Endpoint.toValue session.remote),
  ("port", optionValue (fun port => countValue port.toNat) session.port),
  ("peer", optionValue SessionId.toValue session.peer),
  ("bridge", .truth session.bridgeActive),
  ("failed", .truth session.bridgeFailed),
  ("token", optionValue SessionId.toValue session.token?),
  ("control", .truth session.isControl)]

/-- A session as plain data. -/
def Session.toValue (session : Session) : Value := .record session.toFields

/-- A descriptor as plain data: its token, whether it is closed, and whether it was reported. -/
def Descriptor.toValue (descriptor : Descriptor) : Value :=
  .list [optionValue SessionId.toValue descriptor.token, .truth descriptor.closed,
    .truth descriptor.readable]

/-- A slot as plain data. -/
def Slot.toValue (slot : Slot) : Value :=
  .record (slot.session.toFields ++ [("descriptor", slot.descriptor.toValue)])

/-- The slots of a table as plain data. -/
def Table.toValue (table : Table) : Value := .list (table.slots.map Slot.toValue)

/-- What an exchange holds, in numbers. -/
def Exchange.summary (exchange : Exchange) : Value :=
  .record [
    ("len", countValue exchange.table.size),
    ("remaining", countValue exchange.table.remaining),
    ("live", countValue exchange.table.liveSessions.length),
    ("media", countValue exchange.table.mediaCount),
    ("ids", countValue exchange.resources.ids.inUse),
    ("ports", countValue exchange.resources.ports.inUse),
    ("consistent", .truth exchange.table.isConsistent),
    ("empty", .truth (exchange.table.size = 0))]

/-- Statistics as plain data. -/
def Statistics.toValue (statistics : Statistics) : Value :=
  .record [
    ("active_sessions", countValue statistics.activeSessions),
    ("active_calls", countValue statistics.activeCalls),
    ("calls_established", countValue statistics.counters.established),
    ("calls_rejected", countValue statistics.counters.rejected),
    ("calls_released", countValue statistics.counters.released),
    ("parse_failures", countValue statistics.counters.parseFailures),
    ("media_errors", countValue statistics.counters.mediaErrors)]

/-- A started gateway as plain data. -/
def Gateway.toValue (gateway : Gateway) : Value :=
  let resources := gateway.exchange.resources
  .record [
    ("control", optionValue Endpoint.toValue gateway.controlAddress?),
    ("media_ip", .text resources.mediaIp.text),
    ("res_media_ip", .text resources.mediaIp.text),
    ("capacity", countValue gateway.exchange.table.capacity),
    ("max_sessions", countValue gateway.settings.maxSessions.toNat),
    ("bridge_interval", countValue resources.bridgeIntervalMs.toNat),
    ("engine", resources.engineSettings.toValue),
    ("s", gateway.exchange.summary)]

/-- The settings of a log as plain data. -/
def LogSettings.toValue (settings : LogSettings) : Value :=
  .record [
    ("level", .text settings.level.name),
    ("json", .truth settings.json),
    ("file_info", .truth settings.fileInfo),
    ("log_spans", .truth settings.spans),
    ("app_name", .text settings.appName)]

/-- All settings of a relay as plain data, with the two durations that follow from them. -/
def Settings.toValue (settings : Settings) : Value :=
  .record (settings.toFields ++ [
    ("poll_timeout", countValue settings.pollTimeoutMs.toNat),
    ("bridge_interval", countValue settings.bridgeIntervalMs.toNat)])

/-! ## The life of engines -/

/-- The leg that an engine was attached to. -/
def Resources.leg? (resources : Resources) (engine : Nat) : Option Media.Leg :=
  resources.engines[engine]?.bind Media.Engine.leg

/-- The line for an event in the life of an engine; the other events have none. -/
def Resources.line? (resources : Resources) : Event → Option String
  | .attached _ leg _ =>
    let remote := (leg.remote.map Endpoint.text).getD "-"
    some (s!"init {leg.tag} {leg.role.word} {leg.direction.word} " ++
      s!"local={leg.localAddress.text} remote={remote}")
  | .heard engine payload =>
    (resources.leg? engine).map fun leg => s!"rx {leg.tag} {payload.length}"
  | .retired engine => (resources.leg? engine).map fun leg => s!"destroy {leg.tag}"
  | _ => none

/-- The lines for what the journal holds, the oldest first. -/
def Resources.lines (resources : Resources) : List String :=
  resources.journal.reverse.filterMap resources.line?

end FaxRelay
