import FaxRelay.Proofs.Signal.RoundTrip
import Mathlib.Control.Monad.Basic

/-!
# Canonical lines

A message can be read from many datagrams: blanks, line ends, zeros in front of a
port and words for a complaint may vary. One of these datagrams is canonical: it
is written just as it is read (`IsCanonical`).

The rule which destinations go with a mode stands twice, where a setup is read
and where it is written. The two agree (`FaxMode.allows_iff`), so of what was read
only a setup in an unknown mode cannot be written, and everything else has exactly
one canonical line (`Message.canonical_of_ofDatagram`).
-/

set_option autoImplicit false

namespace FaxRelay.Signal

open FaxRelay.Net FaxRelay.Signal.Grammar

/-- A datagram that is written just as it is read. -/
def IsCanonical (datagram : Payload) : Prop :=
  ∃ message, Message.ofDatagram datagram = .ok message ∧ message.toDatagram = .ok datagram

/-- A setup in a mode that has no name. -/
def Message.LacksMode : Message → Prop
  | .setup request => request.mode = .unknown
  | _ => False

/-- Destinations go with a mode as they do in a request that can be written. -/
theorem FaxMode.allows_iff {mode : FaxMode} {destination : Option Endpoint} :
    mode.allows destination = true ↔
      (mode = .gatewayToGateway → destination ≠ none) ∧
        (mode = .gatewayToTerminal → destination = none) := by
  cases mode <;> cases destination <;> simp [FaxMode.allows]

namespace Grammar

/-- A word for a mode goes with destinations that the mode allows. -/
theorem Mode.allows {word : List Char} {mode : FaxMode} {destination : Option Endpoint}
    (names : Mode word mode destination) : mode.allows destination = true := by
  cases names with
  | gatewayToGateway => rfl
  | gatewayToTerminal => rfl
  | other => rfl

/-- The request that a line denotes has a destination that its mode allows. -/
theorem Line.allows {line : List Char} {request : Setup} (denotes : Line line (.setup request)) :
    request.mode.allows request.destination = true := by
  obtain ⟨_, _, carries, _⟩ := denotes
  cases carries with
  | setup _ names _ _ _ => exact names.allows

end Grammar

/-- Of the requests whose mode allows their destination, those in a mode with a name can be
written. -/
theorem Setup.sendable_iff {request : Setup}
    (allowed : request.mode.allows request.destination = true) :
    request.Sendable ↔ request.mode ≠ .unknown := by
  obtain ⟨reaches, direct⟩ := FaxMode.allows_iff.mp allowed
  exact ⟨Setup.Sendable.known, fun known => ⟨known, reaches, direct⟩⟩

namespace Message

variable {datagram : Payload} {message : Message}

/-- A request that was read has a destination that its mode allows. -/
theorem allows_of_ofDatagram {request : Setup}
    (read : Message.ofDatagram datagram = .ok (.setup request)) :
    request.mode.allows request.destination = true := by
  obtain ⟨_, _, _, denotes⟩ := Message.line_of_ofDatagram read
  exact denotes.allows

/-- Of what was read, everything can be written but a setup in an unknown mode. -/
theorem sendable_iff_of_ofDatagram (read : Message.ofDatagram datagram = .ok message) :
    message.Sendable ↔ ¬ message.LacksMode := by
  cases message with
  | setup request => exact Setup.sendable_iff (allows_of_ofDatagram read)
  | ok => exact iff_of_true trivial not_false
  | error => exact iff_of_true trivial not_false
  | release => exact iff_of_true trivial not_false

/-- The line of a message that can be written is read as the message. -/
theorem ofDatagram_line (sendable : message.Sendable) :
    Message.ofDatagram ((message.chars ++ ['\r', '\n']).map Char.toUInt8) = .ok message :=
  Message.ofDatagram_of_line (line_chars sendable) (length_line message)

/-- A setup in an unknown mode is refused for its mode, whatever its destination. -/
theorem LacksMode.toDatagram_eq (lacks : message.LacksMode) :
    message.toDatagram = .error .unknownMode := by
  cases message with
  | setup request =>
    obtain ⟨callId, mode, source, destination⟩ := request
    cases show mode = .unknown from lacks
    rfl
  | ok => cases lacks
  | error => cases lacks
  | release => cases lacks

/-- **What was read can be written, unless it is a setup in an unknown mode.** A message that was
read from any datagram is refused by the writer exactly if it is such a setup, and for this reason
only. Otherwise it is written as its line, which is read as the message again and is the only
canonical datagram of which this is true. And no request that was read breaks the rules for
destinations. -/
theorem canonical_of_ofDatagram (read : Message.ofDatagram datagram = .ok message) :
    (∀ fault, message.toDatagram = .error fault ↔ message.LacksMode ∧ fault = .unknownMode) ∧
      (¬ message.LacksMode → ∃ line, message.toDatagram = .ok line ∧
        line = (message.chars ++ ['\r', '\n']).map Char.toUInt8 ∧
        Message.ofDatagram line = .ok message ∧ IsCanonical line ∧
        ∀ other, IsCanonical other → Message.ofDatagram other = .ok message → other = line) ∧
      ∀ request, message = .setup request →
        (request.mode = .gatewayToGateway → request.destination ≠ none) ∧
          (request.mode = .gatewayToTerminal → request.destination = none) := by
  have rules : ∀ request, message = .setup request →
      (request.mode = .gatewayToGateway → request.destination ≠ none) ∧
        (request.mode = .gatewayToTerminal → request.destination = none) := by
    rintro request rfl
    exact FaxMode.allows_iff.mp (allows_of_ofDatagram read)
  by_cases lacks : message.LacksMode
  · have refused := lacks.toDatagram_eq
    refine ⟨fun fault => ?_, fun known => absurd lacks known, rules⟩
    rw [refused, Except.error.injEq, eq_comm]
    exact (and_iff_right lacks).symm
  · have sendable := (sendable_iff_of_ofDatagram read).mpr lacks
    have written := Message.toDatagram_of_sendable sendable
    have again := ofDatagram_line sendable
    refine ⟨fun fault => iff_of_false ?_ fun both => lacks both.1, fun _ => ?_, rules⟩
    · rw [written]
      exact nofun
    · refine ⟨_, written, rfl, again, ⟨message, again, written⟩, ?_⟩
      rintro other ⟨message', read', written'⟩ same
      cases read'.symm.trans same
      exact Except.ok.inj (written'.symm.trans written)

/-- A request with a tab, blanks at the end, a bare line feed and a zero in front of its port is
written without them. -/
theorem canonical_of_ofDatagram_untidy :
    let message : Message := .setup (.toTerminal .placeholder ⟨.loopback, 5060⟩)
    let datagram := "SETUP\t0  GT 127.0.0.1:05060 \n".toList.map Char.toUInt8
    let line := "SETUP 0 GT 127.0.0.1:5060\r\n".toList.map Char.toUInt8
    Message.ofDatagram datagram = .ok message ∧ message.toDatagram = .ok line ∧
      Message.ofDatagram line = .ok message ∧ IsCanonical line ∧ ¬ IsCanonical datagram := by
  intro message datagram line
  have read : Message.ofDatagram datagram = .ok message := by decide +kernel
  obtain ⟨line', written, same, again, canonical, only⟩ :=
    (canonical_of_ofDatagram read).2.1 (by simp [message, LacksMode, Setup.toTerminal])
  obtain rfl : line' = line := same.trans (by decide)
  exact ⟨read, written, again, canonical,
    fun tidy => absurd (only datagram tidy read) (by decide)⟩

end Message

end FaxRelay.Signal
