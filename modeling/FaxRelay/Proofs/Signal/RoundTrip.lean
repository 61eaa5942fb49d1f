import FaxRelay.Proofs.Signal.Reading

/-!
# What is written is read back

Every message has a datagram, except a setup that leaves its mode open or whose
destination does not fit its mode. The datagram is short, whatever the message
says, and it is read as the message again (`Message.toDatagram_round_trip`).

The writer and the reader meet at the grammar: the line of a message that has
one denotes the message. What that takes is that each part is written in the
strict form of the grammar; the one part where this needs an argument is an
octet, whose shortest decimal form has no superfluous zero.
-/

set_option autoImplicit false

namespace FaxRelay.Text

/-- The decimal form of a number that is not zero does not begin with a zero. -/
theorem head?_decimal {value : Nat} (positive : 0 < value) : (decimal value).head? ≠ some '0' := by
  induction value using Nat.strongRecOn with
  | ind value ih =>
    rw [decimal]
    by_cases small : value < 10
    · rw [Nat.toDigits_of_lt_base small]
      have leading : ∀ digit : Fin 10, 0 < digit.val → digit.val.digitChar ≠ '0' := by decide
      simpa using leading ⟨value, small⟩ positive
    · have shorter : value / 10 < value := Nat.div_lt_self positive (by decide)
      have front : 0 < value / 10 := by omega
      have leading := ih (value / 10) shorter front
      rw [decimal, List.head?_eq_some_head Nat.toDigits_ne_nil] at leading
      rwa [Nat.toDigits_of_base_le (by decide) (Nat.not_lt.mp small), List.head?_append,
        List.head?_eq_some_head Nat.toDigits_ne_nil, Option.some_or]

end FaxRelay.Text

namespace FaxRelay.Signal

open FaxRelay.Net FaxRelay.Text FaxRelay.Signal.Grammar

/-! ## Which messages have a written form -/

/-- A request that can be written: its mode is known, and there is a destination exactly if the
far side is a gateway. -/
structure Setup.Sendable (request : Setup) : Prop where
  known : request.mode ≠ .unknown
  reaches : request.mode = .gatewayToGateway → request.destination ≠ none
  direct : request.mode = .gatewayToTerminal → request.destination = none

/-- A message that can be written. -/
def Message.Sendable : Message → Prop
  | .setup request => request.Sendable
  | _ => True

theorem Message.writeFault?_eq_none_iff {message : Message} :
    message.writeFault? = none ↔ message.Sendable := by
  cases message with
  | setup request =>
    obtain ⟨callId, mode, source, destination⟩ := request
    constructor
    · intro unfaulted
      have sendable : Setup.Sendable ⟨callId, mode, source, destination⟩ := by
        cases mode <;> cases destination <;>
          first | cases unfaulted; done | exact ⟨by simp, by simp, by simp⟩
      exact sendable
    · rintro ⟨known, reaches, direct⟩
      cases mode with
      | gatewayToGateway =>
        cases destination with
        | none => exact absurd rfl (reaches rfl)
        | some destination => rfl
      | gatewayToTerminal =>
        obtain rfl : destination = none := direct rfl
        rfl
      | unknown => exact absurd rfl known
  | ok callId address => exact iff_of_true rfl trivial
  | error callId complaint => exact iff_of_true rfl trivial
  | release callId => exact iff_of_true rfl trivial

/-- Whether a message has a written form does not depend on its length. -/
theorem Message.writeFault?_ne_tooLong (message : Message) (kind : Kind) (size : Nat) :
    message.writeFault? ≠ some (.tooLong kind size) := by
  cases message with
  | setup request =>
    obtain ⟨callId, mode, source, destination⟩ := request
    cases mode <;> cases destination <;> simp [Message.writeFault?]
  | _ => simp [Message.writeFault?]

namespace Grammar

/-! ## Addresses as they are written -/

theorem digits_decimal (value : Nat) : Digits (decimal value) value :=
  digits_iff.mpr ⟨Nat.toDigits_ne_nil, fun _ => isDigit_of_mem_decimal, digitsValue_decimal value⟩

theorem octet_octetChars (octet : UInt8) : Octet (octetChars octet) octet := by
  refine ⟨digits_decimal octet.toNat, fun leads => ?_⟩
  rcases Nat.eq_zero_or_pos octet.toNat with zero | positive
  · rw [octetChars, zero]
    rfl
  · exact absurd leads (head?_decimal positive)

theorem dotted_chars (ip : Ipv4) : Dotted ip.chars ip := by
  have dotted : Dotted _ ip := .mk (octet_octetChars ip.first) (octet_octetChars ip.second)
    (octet_octetChars ip.third) (octet_octetChars ip.fourth)
  simpa [Ipv4.chars] using dotted

/-- The written form of an endpoint is an address of it. -/
theorem address_chars (endpoint : Endpoint) : Address endpoint.chars endpoint :=
  .mk (dotted_chars endpoint.ip) (digits_decimal endpoint.port.toNat)

theorem length_octetChars (octet : UInt8) : (octetChars octet).length ≤ 3 :=
  (Nat.length_toDigits_le_iff (by decide) (by decide)).mpr
    (Nat.lt_of_lt_of_le octet.toNat_lt (by decide))

/-- The written form of an endpoint has at most 21 characters. -/
theorem length_chars (endpoint : Endpoint) : endpoint.chars.length ≤ 21 := by
  have first := length_octetChars endpoint.ip.first
  have second := length_octetChars endpoint.ip.second
  have third := length_octetChars endpoint.ip.third
  have fourth := length_octetChars endpoint.ip.fourth
  have port : (decimal endpoint.port.toNat).length ≤ 5 :=
    (Nat.length_toDigits_le_iff (by decide) (by decide)).mpr
      (Nat.lt_of_lt_of_le endpoint.port.toNat_lt (by decide))
  simp only [Endpoint.chars, Ipv4.chars, List.length_append, List.length_cons]
  omega

/-! ## Lines as they are written -/

theorem separator_space : Separator [' '] := ⟨by simp, by simp [Blanks]⟩

/-- The text of a call identifier identifies it. -/
theorem identifies_text (callId : CallId) : Identifies callId.text.toList callId := by
  have wellFormed := callId.wellFormed
  have isWord : Word callId.text.toList := by
    refine word_iff.mpr ⟨fun empty => ?_, List.all_eq_true.mp wellFormed.graphic⟩
    exact wellFormed.nonempty (String.toList_eq_nil_iff.mp empty)
  refine (identifies_iff isWord).mpr ?_
  rw [String.ofList_toList, CallId.ofText_text]

/-- The words of the payload of a message, written out. -/
theorem carries_payloadWords {message : Message} (sendable : message.Sendable) :
    Carries message.callId message.kind
      (message.payloadWords.flatMap fun word => ' ' :: word) message := by
  cases message with
  | setup request =>
    obtain ⟨callId, mode, source, destination⟩ := request
    obtain ⟨known, reaches, direct⟩ := sendable
    have names : Mode mode.word.toList mode destination := by
      cases mode with
      | gatewayToGateway =>
        cases destination with
        | none => exact absurd rfl (reaches rfl)
        | some destination => exact .gatewayToGateway destination
      | gatewayToTerminal =>
        obtain rfl : destination = none := direct rfl
        exact .gatewayToTerminal
      | unknown => exact absurd rfl known
    have leads : Destination ((destination.map Endpoint.chars).toList.flatMap
        fun word => ' ' :: word) destination := by
      cases destination with
      | none => exact .absent
      | some destination =>
        simpa using Destination.present separator_space (address_chars destination)
    have carries : Carries callId .setup _ _ :=
      .setup separator_space names separator_space (address_chars source) leads
    simpa [Message.payloadWords, Message.kind, Message.callId] using carries
  | ok callId address =>
    have carries : Carries callId .ok _ _ := .ok separator_space (address_chars address)
    simpa [Message.payloadWords, Message.kind, Message.callId] using carries
  | error callId complaint =>
    have names : Complains complaint.word.toList complaint := by
      cases complaint with
      | internal => exact .internal
      | unknown =>
        have isWord : Word Complaint.unknown.word.toList :=
          ⟨by simp [Complaint.word], by simp [Complaint.word]⟩
        exact .other isWord (by decide) (by decide)
      | invalidMessage => exact .invalidMessage
    have carries : Carries callId .error _ _ := .error separator_space names
    simpa [Message.payloadWords, Message.kind, Message.callId] using carries
  | release callId => exact .release

/-- The line of a message that can be written denotes the message. -/
theorem line_chars {message : Message} (sendable : message.Sendable) :
    Line (message.chars ++ ['\r', '\n']) message := by
  have noBlanks : Blanks [] := by simp [Blanks]
  have ends : Tail ['\r', '\n'] := .mk noBlanks .both
  have line := Line.mk separator_space (identifies_text message.callId)
    (carries_payloadWords sendable) ends
  simpa [Message.chars] using line

theorem length_payload (message : Message) :
    (message.payloadWords.flatMap fun word => ' ' :: word).length ≤ 47 := by
  cases message with
  | setup request =>
    have word : request.mode.word.toList.length = 2 := by cases request.mode <;> rfl
    have near := length_chars request.source
    have far : ((request.destination.map Endpoint.chars).toList.flatMap
        fun word => ' ' :: word).length ≤ 22 := by
      cases request.destination with
      | none => exact Nat.zero_le _
      | some destination =>
        have length := length_chars destination
        simp only [Option.map_some, Option.toList_some, List.flatMap_cons, List.flatMap_nil,
          List.append_nil, List.length_cons]
        omega
    simp only [Message.payloadWords, List.cons_append, List.nil_append, List.flatMap_cons,
      List.length_append, List.length_cons]
    omega
  | ok callId address =>
    have near := length_chars address
    simp only [Message.payloadWords, List.flatMap_cons, List.flatMap_nil, List.append_nil,
      List.length_cons]
    omega
  | error callId complaint => cases complaint <;> simp [Message.payloadWords, Complaint.word]
  | release callId => exact Nat.zero_le _

/-- The line of a message is short, whatever the message says. -/
theorem length_line (message : Message) :
    (message.chars ++ ['\r', '\n']).length ≤ maxMessageLength := by
  have kind : message.kind.word.toList.length ≤ 7 := by cases message.kind <;> decide
  have callId := (identifies_text message.callId).short
  have payload := length_payload message
  simp only [Message.chars, List.length_append, List.length_cons, List.length_nil,
    maxMessageLength]
  omega

end Grammar

/-! ## The round trip -/

/-- The datagram of a message that can be written consists of the characters of its line. -/
theorem Message.toDatagram_of_sendable {message : Message} (sendable : message.Sendable) :
    message.toDatagram = .ok ((message.chars ++ ['\r', '\n']).map Char.toUInt8) := by
  have bytes := textBytes_of_ascii (line_chars sendable).ascii
  have short : ¬ maxMessageLength < (textBytes (message.chars ++ ['\r', '\n'])).length := by
    rw [bytes, List.length_map]
    exact Nat.not_lt.mpr (length_line message)
  rw [Message.toDatagram, Message.writeFault?_eq_none_iff.mpr sendable]
  simp only [if_neg short]
  rw [bytes]

/-- A message that cannot be written has a fault that says why. -/
theorem Message.toDatagram_of_not_sendable {message : Message} (sendable : ¬ message.Sendable) :
    ∃ fault, message.writeFault? = some fault ∧ message.toDatagram = .error fault := by
  rw [← Message.writeFault?_eq_none_iff] at sendable
  obtain ⟨fault, found⟩ := Option.ne_none_iff_exists'.mp sendable
  refine ⟨fault, found, ?_⟩
  rw [Message.toDatagram, found]

/-- A message has a datagram exactly if it can be written; the datagram then keeps within the
limit and is read as the message. No message is refused for its length. -/
theorem Message.toDatagram_round_trip (message : Message) :
    ((∃ datagram, message.toDatagram = .ok datagram) ↔ message.Sendable) ∧
      (∀ datagram, message.toDatagram = .ok datagram →
        datagram.length ≤ 256 ∧ Message.ofDatagram datagram = .ok message) ∧
      ∀ kind size, message.toDatagram ≠ .error (.tooLong kind size) := by
  by_cases sendable : message.Sendable
  · have written := Message.toDatagram_of_sendable sendable
    have short := length_line message
    rw [written]
    refine ⟨iff_of_true ⟨_, rfl⟩ sendable, ?_, by simp⟩
    intro datagram same
    obtain rfl := Except.ok.inj same
    exact ⟨by rwa [List.length_map], Message.ofDatagram_of_line (line_chars sendable) short⟩
  · obtain ⟨fault, found, unwritten⟩ := Message.toDatagram_of_not_sendable sendable
    rw [unwritten]
    refine ⟨iff_of_false (by simp) sendable, by simp, ?_⟩
    rintro kind size same
    obtain rfl := Except.error.inj same
    exact Message.writeFault?_ne_tooLong message kind size found

/-- A request for a call to another gateway is read back. -/
theorem Message.round_trip_toGateway :
    let request : Setup := .toGateway .placeholder ⟨.loopback, 5000⟩ ⟨.unspecified, 65535⟩
    let datagram := "SETUP 0 GG 127.0.0.1:5000 0.0.0.0:65535\r\n".toList.map Char.toUInt8
    (Message.setup request).toDatagram = .ok datagram ∧
      Message.ofDatagram datagram = .ok (.setup request) := by
  intro request datagram
  have sendable : (Message.setup request).Sendable := ⟨by decide, by decide, by decide⟩
  have written : (Message.setup request).toDatagram = .ok datagram := by
    rw [Message.toDatagram_of_sendable sendable]
    exact congrArg Except.ok (by decide)
  exact ⟨written, ((Message.toDatagram_round_trip (.setup request)).2.1 datagram written).2⟩

end FaxRelay.Signal
