import FaxRelay.Proofs.Signal.Encoding
import FaxRelay.Proofs.Signal.Readers

/-!
# The reader and the grammar

A datagram is read as a message exactly when it is a line of signaling that
denotes the message (`Message.ofDatagram_eq_ok_iff`). The readers of payloads
come first, one for each type; only that of a setup has something to decide,
since its destination may be absent. A reader that finds no destination leaves
the text as it was, and nothing of an end of line can be mistaken for one.
-/

set_option autoImplicit false

namespace FaxRelay.Signal.Grammar

open FaxRelay.Net FaxRelay.Text

/-! ## Words for modes and complaints -/

theorem ofList_eq_iff {word : List Char} {text : String} :
    String.ofList word = text ↔ word = text.toList := by
  rw [← String.toList_inj, String.toList_ofList]

/-- The mode of a word, together with a destination that goes with it. -/
theorem mode_iff {word : List Char} (isWord : Word word) {mode : FaxMode}
    {destination : Option Endpoint} :
    Mode word mode destination ↔
      FaxMode.ofWord (String.ofList word) = mode ∧ mode.allows destination = true := by
  constructor
  · rintro (_ | _ | ⟨_, noGateway, noTerminal⟩)
    · exact ⟨rfl, rfl⟩
    · exact ⟨rfl, rfl⟩
    · refine ⟨?_, rfl⟩
      unfold FaxMode.ofWord
      split
      · next same => exact absurd (ofList_eq_iff.mp same) noGateway
      · next same => exact absurd (ofList_eq_iff.mp same) noTerminal
      · rfl
  · rintro ⟨rfl, allowed⟩
    unfold FaxMode.ofWord at allowed ⊢
    split at allowed
    · next same =>
      obtain rfl := ofList_eq_iff.mp same
      cases destination with
      | none => cases allowed
      | some destination => exact .gatewayToGateway destination
    · next same =>
      obtain rfl := ofList_eq_iff.mp same
      cases destination with
      | none => exact .gatewayToTerminal
      | some destination => cases allowed
    · next noGateway noTerminal =>
      exact .other isWord (fun same => noGateway (ofList_eq_iff.mpr same))
        (fun same => noTerminal (ofList_eq_iff.mpr same)) destination

/-- The complaint of a word. -/
theorem complains_iff {word : List Char} (isWord : Word word) {complaint : Complaint} :
    Complains word complaint ↔ Complaint.ofWord (String.ofList word) = complaint := by
  constructor
  · rintro (_ | _ | ⟨_, noInternal, noInvalid⟩)
    · rfl
    · rfl
    · unfold Complaint.ofWord
      split
      · next same => exact absurd (ofList_eq_iff.mp same) noInternal
      · next same => exact absurd (ofList_eq_iff.mp same) noInvalid
      · rfl
  · rintro rfl
    unfold Complaint.ofWord
    split
    · next same =>
      obtain rfl := ofList_eq_iff.mp same
      exact .internal
    · next same =>
      obtain rfl := ofList_eq_iff.mp same
      exact .invalidMessage
    · next noInternal noInvalid =>
      exact .other isWord (fun same => noInternal (ofList_eq_iff.mpr same))
        (fun same => noInvalid (ofList_eq_iff.mpr same))

/-- The type that a word names. -/
theorem ofWord?_eq_some_iff {word : List Char} {kind : Kind} :
    Kind.ofWord? (String.ofList word) = some kind ↔ word = kind.word.toList := by
  rw [← ofList_eq_iff]
  constructor
  · intro named
    unfold Kind.ofWord? at named
    split at named <;> first | cases named; assumption | cases named
  · intro same
    rw [same, Kind.ofWord?_word]

/-! ## Payloads -/

/-- No character of an end of line is a digit. -/
theorem Tail.isDigit_of_mem {tail : List Char} (ends : Tail tail) {character : Char}
    (member : character ∈ tail) : character.isDigit = false := by
  obtain @⟨trail, ending, blanks, ends⟩ := ends
  rcases List.mem_append.mp member with member | member
  · exact isDigit_of_isBlank (blanks_iff.mp blanks character member)
  · cases ends with
    | bare => cases member
    | lineFeed => rw [List.mem_singleton.mp member]; rfl
    | both =>
      rcases List.mem_cons.mp member with rfl | member
      · rfl
      · rw [List.mem_singleton.mp member]; rfl

/-- An address begins with a digit. -/
theorem Address.exists_isDigit {address : List Char} {endpoint : Endpoint}
    (denotes : Address address endpoint) :
    ∃ character ∈ address, character.isDigit = true := by
  obtain ⟨@⟨first, _, _, _, _, isFirst, _, _, _⟩, _⟩ := denotes
  obtain ⟨character, member⟩ := List.exists_mem_of_ne_nil first isFirst.digits.nonempty
  exact ⟨character, by simp [member], isFirst.digits.isDigit character member⟩

/-- No address can be read at the end of a line. -/
theorem Tail.takeSpacedEndpoint? {tail : List Char} (ends : Tail tail) :
    takeSpacedEndpoint? tail = none := by
  cases read : Signal.takeSpacedEndpoint? tail with
  | none => rfl
  | some result =>
    obtain ⟨endpoint, rest⟩ := result
    obtain ⟨separator, address, rfl, _, denotes, _⟩ := takeSpacedEndpoint?_eq_some_iff.mp read
    obtain ⟨character, member, digit⟩ := denotes.exists_isDigit
    rw [ends.isDigit_of_mem (by simp [member])] at digit
    cases digit

/-- What begins with a separator, or is nothing and stands before an end of line, is taken by
no reader of words or digits. -/
theorem Destination.stops_isDigit {place tail : List Char} {destination : Option Endpoint}
    (leads : Destination place destination) (ends : Tail tail) :
    Stops Char.isDigit (place ++ tail) := by
  cases leads with
  | absent => exact ends.stops_isDigit
  | present separates _ =>
    rw [List.append_assoc]
    exact separates.stops (fun _ => isDigit_of_isBlank) _

/-- The reader of destinations, at the end of a line. -/
theorem takeDestination_eq_iff {text rest : List Char} {destination : Option Endpoint}
    (ends : Tail rest) :
    takeDestination text = (destination, rest) ↔
      ∃ place, text = place ++ rest ∧ Destination place destination := by
  constructor
  · intro taken
    unfold takeDestination at taken
    split at taken
    · next read =>
      obtain ⟨rfl, rfl⟩ := Prod.mk.inj taken
      obtain ⟨separator, address, rfl, separates, denotes, _⟩ :=
        takeSpacedEndpoint?_eq_some_iff.mp read
      exact ⟨separator ++ address, by simp, .present separates denotes⟩
    · obtain ⟨rfl, rfl⟩ := Prod.mk.inj taken
      exact ⟨[], rfl, .absent⟩
  · rintro ⟨_, rfl, (_ | @⟨separator, address, endpoint, separates, denotes⟩)⟩
    · rw [List.nil_append, takeDestination, ends.takeSpacedEndpoint?]
    · have read := takeSpacedEndpoint?_eq_some_iff.mpr
        ⟨separator, address, rfl, separates, denotes, ends.stops_isDigit⟩
      rw [List.append_assoc, takeDestination, read]

/-- The reader of the payload of a setup. -/
theorem setupPayload?_eq_some_iff {callId : CallId} {text : List Char} {message : Message} :
    setupPayload? callId text = some message ↔
      ∃ payload tail, text = payload ++ tail ∧ Carries callId .setup payload message ∧
        Tail tail := by
  constructor
  · intro read
    obtain ⟨⟨word, text₁⟩, readWord, afterWord⟩ := Option.bind_eq_some_iff.mp read
    obtain ⟨⟨source, text₂⟩, readSource, afterSource⟩ := Option.bind_eq_some_iff.mp afterWord
    obtain ⟨gap, rfl, gapSeparates, isWord, _⟩ := takeSpacedWord?_eq_some_iff.mp readWord
    obtain ⟨space, address, rfl, spaceSeparates, denotes, _⟩ :=
      takeSpacedEndpoint?_eq_some_iff.mp readSource
    simp only at afterSource
    generalize taken : takeDestination text₂ = result at afterSource
    obtain ⟨destination, tail⟩ := result
    split at afterSource
    · next accepted =>
      obtain ⟨atEnd, allowed⟩ := Bool.and_eq_true_iff.mp accepted
      have ends := atLineEnd_iff.mp atEnd
      obtain ⟨place, rfl, leads⟩ := (takeDestination_eq_iff ends).mp taken
      obtain rfl := Option.some.inj afterSource
      exact ⟨_, tail, by simp,
        .setup gapSeparates ((mode_iff isWord).mpr ⟨rfl, allowed⟩) spaceSeparates denotes leads,
        ends⟩
    · cases afterSource
  · rintro ⟨_, tail, rfl, carries, ends⟩
    cases carries with
    | @setup gap word space address place mode source destination gapSeparates names
        spaceSeparates denotes leads =>
      simp only [List.append_assoc]
      obtain ⟨rfl, allowed⟩ := (mode_iff names.word).mp names
      refine Option.bind_eq_some_iff.mpr ⟨_, takeSpacedWord?_eq_some_iff.mpr ⟨gap, rfl,
        gapSeparates, names.word, spaceSeparates.stops (fun _ => isGraphic_of_isBlank) _⟩, ?_⟩
      refine Option.bind_eq_some_iff.mpr ⟨_, takeSpacedEndpoint?_eq_some_iff.mpr ⟨space, address,
        rfl, spaceSeparates, denotes, leads.stops_isDigit ends⟩, ?_⟩
      simp only [(takeDestination_eq_iff ends).mpr ⟨place, rfl, leads⟩]
      exact if_pos (Bool.and_eq_true_iff.mpr ⟨atLineEnd_iff.mpr ends, allowed⟩)

/-- The reader of the payload of an acceptance. -/
theorem okPayload?_eq_some_iff {callId : CallId} {text : List Char} {message : Message} :
    okPayload? callId text = some message ↔
      ∃ payload tail, text = payload ++ tail ∧ Carries callId .ok payload message ∧
        Tail tail := by
  constructor
  · intro read
    obtain ⟨⟨endpoint, tail⟩, readAddress, afterAddress⟩ := Option.bind_eq_some_iff.mp read
    obtain ⟨gap, address, rfl, separates, denotes, _⟩ :=
      takeSpacedEndpoint?_eq_some_iff.mp readAddress
    simp only at afterAddress
    split at afterAddress
    · next atEnd =>
      obtain rfl := Option.some.inj afterAddress
      exact ⟨gap ++ address, tail, by simp, .ok separates denotes, atLineEnd_iff.mp atEnd⟩
    · cases afterAddress
  · rintro ⟨_, tail, rfl, carries, ends⟩
    cases carries with
    | @ok gap address endpoint separates denotes =>
      rw [List.append_assoc]
      refine Option.bind_eq_some_iff.mpr ⟨_, takeSpacedEndpoint?_eq_some_iff.mpr ⟨gap, address,
        rfl, separates, denotes, ends.stops_isDigit⟩, ?_⟩
      exact if_pos (atLineEnd_iff.mpr ends)

/-- The reader of the payload of an error. -/
theorem errorPayload?_eq_some_iff {callId : CallId} {text : List Char} {message : Message} :
    errorPayload? callId text = some message ↔
      ∃ payload tail, text = payload ++ tail ∧ Carries callId .error payload message ∧
        Tail tail := by
  constructor
  · intro read
    obtain ⟨⟨word, tail⟩, readWord, afterWord⟩ := Option.bind_eq_some_iff.mp read
    obtain ⟨gap, rfl, separates, isWord, _⟩ := takeSpacedWord?_eq_some_iff.mp readWord
    simp only at afterWord
    split at afterWord
    · next atEnd =>
      obtain rfl := Option.some.inj afterWord
      exact ⟨gap ++ word, tail, by simp, .error separates ((complains_iff isWord).mpr rfl),
        atLineEnd_iff.mp atEnd⟩
    · cases afterWord
  · rintro ⟨_, tail, rfl, carries, ends⟩
    cases carries with
    | @error gap word complaint separates names =>
      obtain rfl := (complains_iff names.word).mp names
      rw [List.append_assoc]
      refine Option.bind_eq_some_iff.mpr ⟨_, takeSpacedWord?_eq_some_iff.mpr ⟨gap, rfl, separates,
        names.word, ends.stops_isGraphic⟩, ?_⟩
      exact if_pos (atLineEnd_iff.mpr ends)

/-- The reader of the payload of a release. -/
theorem releasePayload?_eq_some_iff {callId : CallId} {text : List Char} {message : Message} :
    releasePayload? callId text = some message ↔
      ∃ payload tail, text = payload ++ tail ∧ Carries callId .release payload message ∧
        Tail tail := by
  rw [releasePayload?]
  constructor
  · intro read
    split at read
    · next atEnd =>
      obtain rfl := Option.some.inj read
      exact ⟨[], text, rfl, .release, atLineEnd_iff.mp atEnd⟩
    · cases read
  · rintro ⟨_, tail, rfl, ⟨⟩, ends⟩
    exact if_pos (atLineEnd_iff.mpr ends)

/-- The reader of what follows a call identifier. -/
theorem payload?_eq_some_iff {kind : Kind} {callId : CallId} {text : List Char}
    {message : Message} :
    payload? kind callId text = some message ↔
      ∃ payload tail, text = payload ++ tail ∧ Carries callId kind payload message ∧
        Tail tail := by
  cases kind with
  | setup => exact setupPayload?_eq_some_iff
  | ok => exact okPayload?_eq_some_iff
  | error => exact errorPayload?_eq_some_iff
  | release => exact releasePayload?_eq_some_iff

/-- What follows a call identifier is not taken for a part of it. -/
theorem Carries.stops_isGraphic {callId : CallId} {kind : Kind} {payload tail : List Char}
    {message : Message} (carries : Carries callId kind payload message) (ends : Tail tail) :
    Stops isGraphic (payload ++ tail) := by
  have apart : ∀ character, isBlank character = true → isGraphic character = false :=
    fun _ => isGraphic_of_isBlank
  cases carries with
  | setup gapSeparates => rw [List.append_assoc]; exact gapSeparates.stops apart _
  | ok separates => rw [List.append_assoc]; exact separates.stops apart _
  | error separates => rw [List.append_assoc]; exact separates.stops apart _
  | release => exact ends.stops_isGraphic

/-! ## Lines -/

/-- The reader of a type and a call identifier. -/
theorem takeHeader?_eq_some_iff {line kind callId rest : List Char} :
    takeHeader? line = some ((kind, callId), rest) ↔
      ∃ gap, line = kind ++ (gap ++ (callId ++ rest)) ∧ Word kind ∧ Separator gap ∧
        Word callId ∧ Stops isGraphic rest := by
  constructor
  · intro read
    obtain ⟨⟨first, rest₁⟩, readKind, afterKind⟩ := Option.bind_eq_some_iff.mp read
    obtain ⟨⟨second, rest₂⟩, readCallId, afterCallId⟩ := Option.bind_eq_some_iff.mp afterKind
    obtain ⟨⟨rfl, rfl⟩, rfl⟩ : (first = kind ∧ second = callId) ∧ rest₂ = rest := by
      simpa using afterCallId
    obtain ⟨rfl, isKind, _⟩ := takeWord?_eq_some_iff.mp readKind
    obtain ⟨gap, rfl, separates, isCallId, stops⟩ := takeSpacedWord?_eq_some_iff.mp readCallId
    exact ⟨gap, rfl, isKind, separates, isCallId, stops⟩
  · rintro ⟨gap, rfl, isKind, separates, isCallId, stops⟩
    refine Option.bind_eq_some_iff.mpr ⟨_, takeWord?_eq_some_iff.mpr ⟨rfl, isKind,
      separates.stops (fun _ => isGraphic_of_isBlank) _⟩, ?_⟩
    exact Option.bind_eq_some_iff.mpr ⟨_, takeSpacedWord?_eq_some_iff.mpr ⟨gap, rfl, separates,
      isCallId, stops⟩, rfl⟩

/-- The check of a call identifier. -/
theorem identifies_iff {word : List Char} (isWord : Word word) {callId : CallId} :
    Identifies word callId ↔ CallId.ofText (String.ofList word) = .ok callId := by
  have size := utf8ByteSize_of_ascii isWord.ascii
  constructor
  · intro identifies
    rw [← identifies.text_eq, CallId.ofText_text]
  · intro accepted
    have same := CallId.text_of_ofText accepted
    have short := callId.wellFormed.short
    rw [same, size] at short
    exact ⟨isWord, short, same⟩

/-- A line is read as the message that it denotes, and as no other. -/
theorem ofLine_eq_ok_iff {line : List Char} {message : Message} :
    Message.ofLine line = .ok message ↔ Line line message := by
  constructor
  · intro read
    unfold Message.ofLine at read
    split at read
    · cases read
    next header =>
    split at read
    · cases read
    next named =>
    split at read
    · cases read
    next accepted =>
    split at read
    · cases read
    next carried =>
    obtain rfl := Except.ok.inj read
    obtain ⟨gap, rfl, _, separates, isCallId, _⟩ := takeHeader?_eq_some_iff.mp header
    obtain rfl := ofWord?_eq_some_iff.mp named
    obtain ⟨payload, tail, rfl, carries, ends⟩ := payload?_eq_some_iff.mp carried
    exact .mk separates ((identifies_iff isCallId).mpr accepted) carries ends
  · rintro @⟨kind, callId, _, gap, word, payload, tail, separates, identifies, carries, ends⟩
    have header := takeHeader?_eq_some_iff.mpr ⟨gap, rfl, word_kind kind, separates,
      identifies.isWord, carries.stops_isGraphic ends⟩
    have carried := payload?_eq_some_iff.mpr ⟨payload, tail, rfl, carries, ends⟩
    simp only [Message.ofLine, header, ofWord?_eq_some_iff.mpr rfl,
      (identifies_iff identifies.isWord).mp identifies, carried]

/-- A line of signaling denotes one message. -/
theorem Line.message_unique {line : List Char} {first second : Message}
    (one : Line line first) (other : Line line second) : first = second := by
  have read := ofLine_eq_ok_iff.mpr one
  rw [ofLine_eq_ok_iff.mpr other] at read
  exact (Except.ok.inj read).symm

instance (line : List Char) (message : Message) : Decidable (Line line message) :=
  decidable_of_iff ((Message.ofLine line).toOption = some message) <| by
    rw [← ofLine_eq_ok_iff]
    cases Message.ofLine line <;> simp [Except.toOption]

example : Line "OK \t0 127.0.0.1:00080 \t\n".toList (.ok .placeholder ⟨.loopback, 80⟩) := by
  decide

/-- A line of signaling has at least one character. -/
theorem Line.length_pos {line : List Char} {message : Message} (denotes : Line line message) :
    1 ≤ line.length := by
  obtain @⟨kind, _, _, _, _, _, _, _, _, _, _⟩ := denotes
  have word := List.length_pos_iff.mpr (word_kind kind).nonempty
  rw [List.length_append]
  omega

end FaxRelay.Signal.Grammar

/-! ## Datagrams -/

namespace FaxRelay.Signal

open FaxRelay.Net FaxRelay.Signal.Grammar

/-- A line that is short enough is read, byte for byte, as the message that it denotes. -/
theorem Message.ofDatagram_of_line {line : List Char} {message : Message}
    (denotes : Line line message) (short : line.length ≤ maxMessageLength) :
    Message.ofDatagram (line.map Char.toUInt8) = .ok message := by
  have nonempty : ¬ (line.map Char.toUInt8).isEmpty := by
    rw [List.isEmpty_iff_length_eq_zero, List.length_map]
    exact Nat.ne_of_gt denotes.length_pos
  have fits : ¬ maxMessageLength < (line.map Char.toUInt8).length := by
    rw [List.length_map]
    exact Nat.not_lt.mpr short
  have text : datagramText? (line.map Char.toUInt8) = some line :=
    datagramText?_eq_some_iff.mpr (textBytes_of_ascii denotes.ascii).symm
  rw [Message.ofDatagram, if_neg nonempty, if_neg fits]
  simp only [text]
  exact ofLine_eq_ok_iff.mpr denotes

/-- A datagram that is read as a message is the bytes of a line that denotes it. -/
theorem Message.line_of_ofDatagram {datagram : Payload} {message : Message}
    (read : Message.ofDatagram datagram = .ok message) :
    datagram.length ≤ maxMessageLength ∧
      ∃ line, datagram = line.map Char.toUInt8 ∧ Line line message := by
  unfold Message.ofDatagram at read
  split at read
  · cases read
  split at read
  · cases read
  next fits =>
  split at read
  · cases read
  next line text =>
  have denotes := ofLine_eq_ok_iff.mp read
  refine ⟨Nat.not_lt.mp fits, line, ?_, denotes⟩
  rw [datagramText?_eq_some_iff.mp text, textBytes_of_ascii denotes.ascii]

/-- A datagram is read as a message exactly when it has between 1 and 256 bytes and is, byte for
byte, a line of signaling that denotes the message. -/
theorem Message.ofDatagram_eq_ok_iff (datagram : Payload) (message : Message) :
    Message.ofDatagram datagram = .ok message ↔
      1 ≤ datagram.length ∧ datagram.length ≤ 256 ∧
        ∃ line, datagram = line.map Char.toUInt8 ∧ Line line message := by
  constructor
  · intro read
    obtain ⟨short, line, rfl, denotes⟩ := Message.line_of_ofDatagram read
    have nonempty := denotes.length_pos
    exact ⟨by rwa [List.length_map], short, line, rfl, denotes⟩
  · rintro ⟨_, short, line, rfl, denotes⟩
    rw [List.length_map] at short
    exact Message.ofDatagram_of_line denotes short

end FaxRelay.Signal
