import FaxRelay.Signal.Datagram

/-!
# The grammar of a line

What a line of signaling looks like and which message it denotes, said without
reference to how it is read. A line is made of words with separators between
them; blanks may follow the last word, and then comes the end of the line.

The relations go from the parts of a line to the whole: octets and ports,
addresses, the words of a payload, the payload of each type of message, and the
line. Each relates a text to what it denotes, and none of them says where in a
longer text its own text ends.

All of a line is ASCII (`Line.ascii`), so each of its characters is one byte of
a datagram.
-/

set_option autoImplicit false

namespace FaxRelay.Signal.Grammar

open FaxRelay.Net FaxRelay.Text

/-! ## Separators and words -/

/-- Any number of spaces and tabs. -/
def Blanks (text : List Char) : Prop := ∀ character ∈ text, character = ' ' ∨ character = '\t'

/-- What stands between two words: at least one space or tab. -/
structure Separator (text : List Char) : Prop where
  nonempty : text ≠ []
  blanks : Blanks text

/-- A word: at least one character, all of them from the exclamation mark to the tilde. -/
structure Word (text : List Char) : Prop where
  nonempty : text ≠ []
  visible : ∀ character ∈ text, 0x21 ≤ character.toNat ∧ character.toNat ≤ 0x7E

/-- The ends of a line: nothing, a line feed, or a carriage return and a line feed. -/
inductive Ending : List Char → Prop where
  | bare : Ending []
  | lineFeed : Ending ['\n']
  | both : Ending ['\r', '\n']

/-- What may follow the last word of a line. -/
inductive Tail : List Char → Prop where
  | mk {trail ending : List Char} (blanks : Blanks trail) (ends : Ending ending) :
      Tail (trail ++ ending)

/-! ## Addresses -/

/-- A run of decimal digits that denotes a number. -/
structure Digits (text : List Char) (value : Nat) : Prop where
  nonempty : text ≠ []
  decimal : ∀ character ∈ text, '0' ≤ character ∧ character ≤ '9'
  value_eq : digitsValue text = value

/-- The digits of an octet: no zero stands in front of another digit. -/
structure Octet (text : List Char) (octet : UInt8) : Prop where
  digits : Digits text octet.toNat
  canonical : text.head? = some '0' → text = ['0']

/-- Four octets with dots between them. -/
inductive Dotted : List Char → Ipv4 → Prop where
  | mk {first second third fourth : List Char} {ip : Ipv4} (one : Octet first ip.first)
      (two : Octet second ip.second) (three : Octet third ip.third)
      (four : Octet fourth ip.fourth) :
      Dotted (first ++ '.' :: (second ++ '.' :: (third ++ '.' :: fourth))) ip

/-- A dotted address, a colon and a port, in front of which any number of zeros may stand. -/
inductive Address : List Char → Endpoint → Prop where
  | mk {dotted digits : List Char} {endpoint : Endpoint} (ip : Dotted dotted endpoint.ip)
      (port : Digits digits endpoint.port.toNat) : Address (dotted ++ ':' :: digits) endpoint

/-! ## Payloads -/

/-- A word for a mode, the mode that it names, and the destinations that go with it. -/
inductive Mode : List Char → FaxMode → Option Endpoint → Prop where
  | gatewayToGateway (destination : Endpoint) :
      Mode ['G', 'G'] .gatewayToGateway (some destination)
  | gatewayToTerminal : Mode ['G', 'T'] .gatewayToTerminal none
  | other {word : List Char} (isWord : Word word) (noGateway : word ≠ ['G', 'G'])
      (noTerminal : word ≠ ['G', 'T']) (destination : Option Endpoint) :
      Mode word .unknown destination

/-- What stands for a destination: nothing, or an address behind a separator. -/
inductive Destination : List Char → Option Endpoint → Prop where
  | absent : Destination [] none
  | present {separator address : List Char} {endpoint : Endpoint}
      (separates : Separator separator) (denotes : Address address endpoint) :
      Destination (separator ++ address) (some endpoint)

/-- A word for a complaint. -/
inductive Complains : List Char → Complaint → Prop where
  | internal : Complains "INTERNAL_ERR".toList .internal
  | invalidMessage : Complains "INVALID_MESSAGE".toList .invalidMessage
  | other {word : List Char} (isWord : Word word) (noInternal : word ≠ "INTERNAL_ERR".toList)
      (noInvalid : word ≠ "INVALID_MESSAGE".toList) : Complains word .unknown

/-- What follows the call identifier of a message of each type, and the message. -/
inductive Carries (callId : CallId) : Kind → List Char → Message → Prop where
  | setup {gap word space address place : List Char} {mode : FaxMode} {source : Endpoint}
      {destination : Option Endpoint} (gapSeparates : Separator gap)
      (names : Mode word mode destination) (spaceSeparates : Separator space)
      (denotes : Address address source) (leads : Destination place destination) :
      Carries callId .setup (gap ++ (word ++ (space ++ (address ++ place))))
        (.setup ⟨callId, mode, source, destination⟩)
  | ok {gap address : List Char} {endpoint : Endpoint} (separates : Separator gap)
      (denotes : Address address endpoint) :
      Carries callId .ok (gap ++ address) (.ok callId endpoint)
  | error {gap word : List Char} {complaint : Complaint} (separates : Separator gap)
      (names : Complains word complaint) :
      Carries callId .error (gap ++ word) (.error callId complaint)
  | release : Carries callId .release [] (.release callId)

/-! ## Lines -/

/-- A word of at most 31 characters is a call identifier. -/
structure Identifies (word : List Char) (callId : CallId) : Prop where
  isWord : Word word
  short : word.length ≤ 31
  text_eq : callId.text = String.ofList word

/-- A line of signaling and the message that it denotes: the word for the type, the call
identifier, the payload, and the end of the line. -/
inductive Line : List Char → Message → Prop where
  | mk {kind : Kind} {callId : CallId} {message : Message}
      {gap word payload tail : List Char} (separates : Separator gap)
      (identifies : Identifies word callId) (carries : Carries callId kind payload message)
      (ends : Tail tail) :
      Line (kind.word.toList ++ (gap ++ (word ++ (payload ++ tail)))) message

/-! ## Everything is ASCII -/

/-- A text in ASCII. -/
def Ascii (text : List Char) : Prop := ∀ character ∈ text, character.toNat < 128

@[simp] theorem ascii_nil : Ascii [] := by
  intro character member
  cases member

@[simp] theorem ascii_cons {character : Char} {text : List Char} :
    Ascii (character :: text) ↔ character.toNat < 128 ∧ Ascii text := by
  simp [Ascii]

@[simp] theorem ascii_append {front back : List Char} :
    Ascii (front ++ back) ↔ Ascii front ∧ Ascii back := by
  simp only [Ascii, List.mem_append]
  constructor
  · intro all
    exact ⟨fun character member => all character (.inl member),
      fun character member => all character (.inr member)⟩
  · rintro ⟨first, second⟩ character (member | member)
    · exact first character member
    · exact second character member

theorem Blanks.ascii {text : List Char} (blanks : Blanks text) : Ascii text := by
  intro character member
  rcases blanks character member with rfl | rfl <;> decide

theorem Separator.ascii {text : List Char} (separator : Separator text) : Ascii text :=
  separator.blanks.ascii

theorem Word.ascii {text : List Char} (word : Word text) : Ascii text := by
  intro character member
  have bounds := word.visible character member
  omega

theorem Ending.ascii {text : List Char} (ending : Ending text) : Ascii text := by
  cases ending <;> simp

theorem Tail.ascii {text : List Char} (tail : Tail text) : Ascii text := by
  obtain ⟨blanks, ends⟩ := tail
  simp [blanks.ascii, ends.ascii]

theorem Digits.ascii {text : List Char} {value : Nat} (digits : Digits text value) :
    Ascii text := by
  intro character member
  have upper : character.toNat ≤ '9'.toNat := (digits.decimal character member).2
  exact Nat.lt_of_le_of_lt upper (by decide)

theorem Dotted.ascii {text : List Char} {ip : Ipv4} (dotted : Dotted text ip) : Ascii text := by
  obtain ⟨one, two, three, four⟩ := dotted
  simp [one.digits.ascii, two.digits.ascii, three.digits.ascii, four.digits.ascii]

theorem Address.ascii {text : List Char} {endpoint : Endpoint} (address : Address text endpoint) :
    Ascii text := by
  obtain ⟨ip, port⟩ := address
  simp [ip.ascii, port.ascii]

/-- A word for a mode is a word. -/
theorem Mode.word {text : List Char} {mode : FaxMode} {destination : Option Endpoint}
    (names : Mode text mode destination) : Word text := by
  cases names with
  | gatewayToGateway => exact ⟨by simp, by simp⟩
  | gatewayToTerminal => exact ⟨by simp, by simp⟩
  | other isWord => exact isWord

/-- A word for a complaint is a word. -/
theorem Complains.word {text : List Char} {complaint : Complaint}
    (names : Complains text complaint) : Word text := by
  cases names with
  | internal => exact ⟨by simp, by simp⟩
  | invalidMessage => exact ⟨by simp, by simp⟩
  | other isWord => exact isWord

/-- The word for a type is a word. -/
theorem word_kind (kind : Kind) : Word kind.word.toList := by
  cases kind <;> exact ⟨by simp [Kind.word], by simp [Kind.word]⟩

theorem Destination.ascii {text : List Char} {destination : Option Endpoint}
    (leads : Destination text destination) : Ascii text := by
  cases leads with
  | absent => exact ascii_nil
  | present separates denotes => simp [separates.ascii, denotes.ascii]

theorem Carries.ascii {callId : CallId} {kind : Kind} {text : List Char} {message : Message}
    (carries : Carries callId kind text message) : Ascii text := by
  cases carries with
  | setup gap names space denotes leads =>
    simp [gap.ascii, names.word.ascii, space.ascii, denotes.ascii, leads.ascii]
  | ok separates denotes => simp [separates.ascii, denotes.ascii]
  | error separates names => simp [separates.ascii, names.word.ascii]
  | release => exact ascii_nil

/-- A line of signaling is ASCII. -/
theorem Line.ascii {text : List Char} {message : Message} (line : Line text message) :
    Ascii text := by
  obtain ⟨separates, identifies, carries, ends⟩ := line
  simp [(word_kind _).ascii, separates.ascii, identifies.isWord.ascii, carries.ascii, ends.ascii]

end FaxRelay.Signal.Grammar
