import FaxRelay.Media.Audio
import FaxRelay.Settings.Basic

/-!
# Passthrough engines

Each media leg has an engine. It takes the audio out of the datagrams that
arrive on the leg and keeps it, the newest samples only, until the far leg asks
for a frame; and it turns a frame from the far leg into a datagram to the leg's
remote endpoint. An engine has to be attached to its leg before it can send;
retired, it forgets the leg's socket and the audio, but not how much it dropped.
-/

set_option autoImplicit false

namespace FaxRelay.Media

open FaxRelay.Net FaxRelay.Signal

/-- What an engine learns about the leg it is attached to (`LegInfo`). -/
structure Leg where
  id : SessionId
  callId : CallId
  role : Role
  direction : Direction
  localAddress : Endpoint
  remote : Option Endpoint
  deriving DecidableEq

/-- The tag under which a leg is traced (`log_tag`): its number and its call. -/
def Leg.tag (leg : Leg) : String := s!"{leg.id.text}-{leg.callId.text}"

/-- The way out of a leg (`MediaSender`): its socket, and the remote endpoint once that is known. -/
structure Outlet where
  source : Endpoint
  remote : Option Endpoint
  deriving DecidableEq, Repr

/-- A datagram on its way. -/
structure Transmission where
  source : Endpoint
  destination : Endpoint
  payload : Payload
  deriving DecidableEq, Repr

/-- A passthrough engine (`AudioPassthroughEngine`): how it cuts and bounds its queue, the received
samples that wait, how many were dropped, and the leg it is attached to with the way out. The count
of dropped samples stands for a 64-bit counter, which no run fills. -/
structure Engine where
  frameSamples : UInt64
  maxQueued : UInt64
  queue : Frame
  dropped : Nat
  leg : Option Leg
  outlet : Option Outlet
  deriving DecidableEq

namespace Engine

/-- A fresh engine, whose queue is bounded by a product of words. -/
def blank (settings : EngineSettings) : Engine where
  frameSamples := settings.frameSamples
  maxQueued := settings.frameSamples * settings.maxQueuedFrames
  queue := []
  dropped := 0
  leg := none
  outlet := none

/-- Makes an engine (`new`). There is none when the bound of its queue exceeds a word. -/
def ofSettings (settings : EngineSettings) : Except Fault Engine :=
  if settings.queueOverflows then .error .overflow else .ok (blank settings)

/-- Attaches an engine to its leg (`init`). -/
def attach (engine : Engine) (leg : Leg) : Engine :=
  { engine with leg := some leg, outlet := some ⟨leg.localAddress, leg.remote⟩ }

/-- Tells an engine the remote endpoint of its leg, which the program shares between the two. -/
def aim (engine : Engine) (remote : Option Endpoint) : Engine :=
  { engine with outlet := engine.outlet.map fun outlet => { outlet with remote := remote } }

/-- Retires an engine (`destroy`). -/
def retire (engine : Engine) : Engine := { engine with outlet := none, queue := [] }

/-- By how many samples a queue exceeds the bound. -/
def excess (engine : Engine) (queue : Frame) : Nat := queue.length - engine.maxQueued.toNat

/-- Takes the audio out of a datagram (`receive_network_bytes`); the oldest samples give way when
the queue is full. -/
def hear (engine : Engine) (payload : Payload) : Engine :=
  let queue := engine.queue ++ decodeAudio payload
  { engine with
    queue := queue.drop (engine.excess queue)
    dropped := engine.dropped + engine.excess queue }

/-- Hands out the oldest samples that wait, at most one frame of them (`produce_audio_frame`). -/
def produce (engine : Engine) : Frame × Engine :=
  (engine.queue.take engine.frameSamples.toNat,
    { engine with queue := engine.queue.drop engine.frameSamples.toNat })

/-- The datagram that carries a frame to the remote endpoint, as `receive_audio_frame` would send
it; none while that endpoint is unknown. -/
def transmission (engine : Engine) (frame : Frame) : Except Fault (Option Transmission) :=
  match engine.outlet with
  | none => .error (.engine .unattached)
  | some outlet =>
    .ok (outlet.remote.map fun destination => ⟨outlet.source, destination, encodeAudio frame⟩)

end Engine

end FaxRelay.Media
