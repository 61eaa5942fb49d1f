import FaxRelay.Fault
import FaxRelay.Signal.Datagram

/-!
# Settings

What a relay is started with: where it listens, where its media sockets are,
how many sessions, numbers and ports it has, how long it waits, and how its
engines cut and queue audio. Sizes are 64-bit words, and a product of two sizes
has to be a word, too: forming one that is none is a fault of its own.

`Settings.validate` bounds the sizes one by one: the table has room for the
control session and one call, no range is empty or beyond its words, and the
buffer holds a message. The first violation in the order of the checks is
reported.
-/

set_option autoImplicit false

namespace FaxRelay

open FaxRelay.Net

/-- Parameters for engines that speak the fax protocol over packets (`T38Config`). -/
structure T38Settings where
  maxBitrate : UInt32 := 9600
  maxBuffer : UInt32 := 72
  maxDatagram : UInt32 := 316
  errorCorrection : Bool := true
  v17 : Bool := true
  redundancySpan : UInt32 := 3
  redundancyEntries : UInt32 := 3
  deriving DecidableEq, Repr, Inhabited

/-- Parameters that every engine receives (`EngineConfig`): the samples of a frame, and how many
frames of received audio are kept. -/
structure EngineSettings where
  frameSamples : UInt64 := 160
  maxQueuedFrames : UInt64 := 50
  t38 : T38Settings := {}
  deriving DecidableEq, Repr, Inhabited

/-- The settings of a relay (`GatewayConfig`). -/
structure Settings where
  controlIp : Ipv4 := Ipv4.unspecified
  controlPort : UInt16 := 23232
  mediaIp : Ipv4 := Ipv4.loopback
  interface : Option String := none
  maxSessions : UInt64 := 80
  idPoolSize : UInt32 := 1024
  portBase : UInt16 := 37000
  portCount : UInt16 := 200
  pollTimeoutMs : UInt64 := 40
  bridgeIntervalMs : UInt64 := 2
  bufferSize : UInt64 := 2048
  engine : EngineSettings := {}
  deriving DecidableEq, Repr, Inhabited

/-- The endpoint at which the relay takes signaling. -/
def Settings.controlAddress (settings : Settings) : Endpoint :=
  ⟨settings.controlIp, settings.controlPort⟩

/-! ## Sizes that are multiplied -/

/-- Whether the product of two words exceeds a word. -/
def overflows (left right : UInt64) : Bool := UInt64.size ≤ left.toNat * right.toNat

/-- Whether the samples that an engine may keep are more than a word can count. -/
def EngineSettings.queueOverflows (settings : EngineSettings) : Bool :=
  overflows settings.frameSamples settings.maxQueuedFrames

/-! ## Validity -/

/-- What is wrong with the settings of an engine. A frame has to fit one datagram; to see whether it
does, its samples are doubled. -/
def EngineSettings.fault? (settings : EngineSettings) : Option Fault :=
  if settings.frameSamples = 0 then
    some (.settings (.frameSize settings.frameSamples.toNat))
  else if overflows settings.frameSamples 2 then some .overflow
  else if 65507 < settings.frameSamples * 2 then
    some (.settings (.frameSize settings.frameSamples.toNat))
  else if settings.maxQueuedFrames = 0 then some (.settings .noQueue)
  else none

/-- What is wrong with the settings of a relay. -/
def Settings.fault? (settings : Settings) : Option Fault :=
  if settings.maxSessions < 3 then some (.settings (.tooFewSessions settings.maxSessions.toNat))
  else if settings.idPoolSize = 0 then some (.settings .noSessionIds)
  else if UInt32.size ≤ settings.idPoolSize.toNat * 2 then some (.settings .tooManySessionIds)
  else if settings.portCount = 0 then some (.settings .noPorts)
  else if 65535 < settings.portBase.toNat + settings.portCount.toNat - 1 then
    some (.settings (.portsBeyondRange settings.portBase.toNat settings.portCount.toNat))
  else if settings.portBase = 0 then some (.settings .portZero)
  else if settings.bufferSize.toNat < Signal.maxMessageLength then
    some (.settings (.smallBuffer Signal.maxMessageLength))
  else settings.engine.fault?

/-- The fault of settings that are not valid. -/
def reported (fault? : Option Fault) : Except Fault Unit :=
  match fault? with
  | some fault => .error fault
  | none => .ok ()

/-- Accepts the settings of an engine, or reports what is wrong with them. -/
def EngineSettings.validate (settings : EngineSettings) : Except Fault Unit :=
  reported settings.fault?

/-- Accepts the settings of a relay, or reports what is wrong with them. -/
def Settings.validate (settings : Settings) : Except Fault Unit := reported settings.fault?

end FaxRelay
