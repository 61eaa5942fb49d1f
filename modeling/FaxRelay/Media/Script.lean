import FaxRelay.Media.Bridge

/-!
# Scripted sides

A side of a call that produces a given sequence of frames and gives a given
sequence of answers, and remembers what it was given. When its frames are used
up it produces empty ones; when its answers are used up it accepts.
-/

set_option autoImplicit false

namespace FaxRelay.Media

/-- A scripted side: the frames and answers still to come, and what it took so far with the
answer to it, the oldest first. -/
structure Script where
  frames : List Frame
  answers : List (Except Fault Unit)
  received : List (Frame × Except Fault Unit)

namespace Script

/-- A side at the start of its script. -/
def ofLists (frames : List Frame) (answers : List (Except Fault Unit)) : Script :=
  ⟨frames, answers, []⟩

/-- Produces the next frame. -/
def produce (script : Script) : Frame × Script :=
  (script.frames.headD [], { script with frames := script.frames.drop 1 })

/-- Takes a frame with the next answer. -/
def take (script : Script) (frame : Frame) : Except Fault Unit × Script :=
  let answer := script.answers.headD (.ok ())
  (answer,
    { script with
      answers := script.answers.drop 1
      received := script.received ++ [(frame, answer)] })

end Script

/-- Two scripted sides facing each other. -/
structure ScriptPair where
  inbound : Script
  outbound : Script

namespace ScriptPair

/-- The script of a direction. -/
def side (pair : ScriptPair) : Direction → Script
  | .inbound => pair.inbound
  | .outbound => pair.outbound

/-- The pair with another script for a direction. -/
def setSide (pair : ScriptPair) (direction : Direction) (script : Script) : ScriptPair :=
  match direction with
  | .inbound => { pair with inbound := script }
  | .outbound => { pair with outbound := script }

/-- Scripted sides for a bridge. -/
def sides : Sides ScriptPair where
  produce direction pair :=
    let (frame, script) := (pair.side direction).produce
    (frame, pair.setSide direction script)
  take direction frame pair :=
    let (answer, script) := (pair.side direction).take frame
    (answer, pair.setSide direction script)

/-- The passes that use up the frames of both sides. -/
def length (pair : ScriptPair) : Nat := max pair.inbound.frames.length pair.outbound.frames.length

/-- Runs a bridge until the frames of both sides are used up or it fails. -/
def play (pair : ScriptPair) : Progress × ScriptPair :=
  passes sides pair.length Progress.fresh pair

end ScriptPair

end FaxRelay.Media
