import FaxRelay.Data.Value
import FaxRelay.Settings.Basic

/-!
# Settings as plain data

Settings are written as a record of all their fields. Read, every field may be
left out and then keeps its default; fields that are not known are ignored.
Numbers have to fit the width of their field.
-/

set_option autoImplicit false

namespace FaxRelay

open FaxRelay.Data FaxRelay.Net

/-! ## Writing -/

/-- A number as plain data. -/
def numberValue (value : Nat) : Value := .integer value

/-- The parameters of packet fax as plain data. -/
def T38Settings.toValue (settings : T38Settings) : Value :=
  .record [
    ("max_bitrate", numberValue settings.maxBitrate.toNat),
    ("max_buffer", numberValue settings.maxBuffer.toNat),
    ("max_datagram", numberValue settings.maxDatagram.toNat),
    ("ecm", .truth settings.errorCorrection),
    ("v17", .truth settings.v17),
    ("redundancy_span", numberValue settings.redundancySpan.toNat),
    ("redundancy_entries", numberValue settings.redundancyEntries.toNat)]

/-- The settings of an engine as plain data. -/
def EngineSettings.toValue (settings : EngineSettings) : Value :=
  .record [
    ("frame_samples", numberValue settings.frameSamples.toNat),
    ("max_queued_frames", numberValue settings.maxQueuedFrames.toNat),
    ("t38", settings.t38.toValue)]

/-- The fields of the settings of a relay, in their order. -/
def Settings.toFields (settings : Settings) : List (String × Value) := [
  ("control_ip", .text settings.controlIp.text),
  ("control_port", numberValue settings.controlPort.toNat),
  ("media_ip", .text settings.mediaIp.text),
  ("interface", (settings.interface.map Value.text).getD .nothing),
  ("max_sessions", numberValue settings.maxSessions.toNat),
  ("id_pool_size", numberValue settings.idPoolSize.toNat),
  ("port_base", numberValue settings.portBase.toNat),
  ("port_count", numberValue settings.portCount.toNat),
  ("poll_timeout_ms", numberValue settings.pollTimeoutMs.toNat),
  ("bridge_interval_ms", numberValue settings.bridgeIntervalMs.toNat),
  ("buffer_size", numberValue settings.bufferSize.toNat),
  ("engine", settings.engine.toValue)]

/-! ## Reading -/

/-- Reads a number of 16 bits. -/
def word16? (value : Value) : Option UInt16 := (value.natBelow? UInt16.size).map UInt16.ofNat

/-- Reads a number of 32 bits. -/
def word32? (value : Value) : Option UInt32 := (value.natBelow? UInt32.size).map UInt32.ofNat

/-- Reads a number of 64 bits. -/
def word64? (value : Value) : Option UInt64 := (value.natBelow? UInt64.size).map UInt64.ofNat

/-- Reads an address. -/
def ipv4? (value : Value) : Option Ipv4 := value.text?.bind Ipv4.ofText?

/-- Reads the parameters of packet fax. -/
def T38Settings.ofValue? (convention : Convention) (value : Value) : Option T38Settings := do
  let defaults : T38Settings := {}
  let parts ← value.parts? convention
    ["max_bitrate", "max_buffer", "max_datagram", "ecm", "v17", "redundancy_span",
      "redundancy_entries"]
  let maxBitrate ← parts.orElse "max_bitrate" word32? defaults.maxBitrate
  let maxBuffer ← parts.orElse "max_buffer" word32? defaults.maxBuffer
  let maxDatagram ← parts.orElse "max_datagram" word32? defaults.maxDatagram
  let errorCorrection ← parts.orElse "ecm" Value.truth? defaults.errorCorrection
  let v17 ← parts.orElse "v17" Value.truth? defaults.v17
  let redundancySpan ← parts.orElse "redundancy_span" word32? defaults.redundancySpan
  let redundancyEntries ← parts.orElse "redundancy_entries" word32? defaults.redundancyEntries
  return {
    maxBitrate, maxBuffer, maxDatagram, errorCorrection, v17, redundancySpan,
    redundancyEntries }

/-- Reads the settings of an engine. -/
def EngineSettings.ofValue? (convention : Convention) (value : Value) : Option EngineSettings := do
  let defaults : EngineSettings := {}
  let parts ← value.parts? convention ["frame_samples", "max_queued_frames", "t38"]
  let frameSamples ← parts.orElse "frame_samples" word64? defaults.frameSamples
  let maxQueuedFrames ← parts.orElse "max_queued_frames" word64? defaults.maxQueuedFrames
  let t38 ← parts.orElse "t38" (T38Settings.ofValue? convention) defaults.t38
  return { frameSamples, maxQueuedFrames, t38 }

/-- Reads the settings of a relay. -/
def Settings.ofValue? (convention : Convention) (value : Value) : Option Settings := do
  let defaults : Settings := {}
  let parts ← value.parts? convention
    ["control_ip", "control_port", "media_ip", "interface", "max_sessions", "id_pool_size",
      "port_base", "port_count", "poll_timeout_ms", "bridge_interval_ms", "buffer_size", "engine"]
  let controlIp ← parts.orElse "control_ip" ipv4? defaults.controlIp
  let controlPort ← parts.orElse "control_port" word16? defaults.controlPort
  let mediaIp ← parts.orElse "media_ip" ipv4? defaults.mediaIp
  let interface ← parts.orElse "interface" (Value.optional? Value.text?) defaults.interface
  let maxSessions ← parts.orElse "max_sessions" word64? defaults.maxSessions
  let idPoolSize ← parts.orElse "id_pool_size" word32? defaults.idPoolSize
  let portBase ← parts.orElse "port_base" word16? defaults.portBase
  let portCount ← parts.orElse "port_count" word16? defaults.portCount
  let pollTimeoutMs ← parts.orElse "poll_timeout_ms" word64? defaults.pollTimeoutMs
  let bridgeIntervalMs ← parts.orElse "bridge_interval_ms" word64? defaults.bridgeIntervalMs
  let bufferSize ← parts.orElse "buffer_size" word64? defaults.bufferSize
  let engine ← parts.orElse "engine" (EngineSettings.ofValue? convention) defaults.engine
  return {
    controlIp, controlPort, mediaIp, interface, maxSessions, idPoolSize, portBase, portCount,
    pollTimeoutMs, bridgeIntervalMs, bufferSize, engine }

end FaxRelay
