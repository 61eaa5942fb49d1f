import FaxRelay.Proofs.Signal.Reading

/-!
# The call that a datagram names

A peer whose request is malformed is still told to which call the complaint
belongs, if the request says so. It does when the datagram is a text of at most
256 bytes that begins with the word for a type, blanks, and a word of at most 31
bytes (`NamesCall`). All of this is a matter of bytes. A byte of a longer
character is neither visible nor a blank, so the runs of bytes at the start of a
datagram are those of its characters (`runs_textBytes`).

A fault names a call exactly when the datagram does, and it is the same call
(`Message.call_recovered`). Neither the payload nor the end of the line has a
say in it. Of what is read as a message the datagram names type and call.
-/

set_option autoImplicit false

namespace FaxRelay.Signal

open FaxRelay.Net FaxRelay.Signal.Grammar

/-! ## The start of a datagram -/

/-- The bytes of the visible characters of ASCII. -/
def isVisible (byte : UInt8) : Bool := 0x21 ≤ byte && byte ≤ 0x7E

/-- The bytes of a space and of a tab. -/
def isSpacing (byte : UInt8) : Bool := byte = 0x20 || byte = 0x09

/-- The longest run of visible bytes at the start of a datagram. -/
def firstToken (datagram : Payload) : Payload := datagram.takeWhile isVisible

/-- The longest run of spaces and tabs behind the first token. -/
def tokenGap (datagram : Payload) : Payload :=
  (datagram.dropWhile isVisible).takeWhile isSpacing

/-- The longest run of visible bytes behind the gap. -/
def secondToken (datagram : Payload) : Payload :=
  ((datagram.dropWhile isVisible).dropWhile isSpacing).takeWhile isVisible

/-- The bytes of a call identifier. -/
def CallId.bytes (callId : CallId) : Payload := textBytes callId.text.toList

/-- A datagram that begins with the word for a type, at least one blank, and a name of 1 to 31
bytes. -/
structure NamesCall (datagram : Payload) (kind : Kind) (name : Payload) : Prop where
  kind_eq : firstToken datagram = textBytes kind.word.toList
  spaced : tokenGap datagram ≠ []
  name_eq : secondToken datagram = name
  nonempty : 1 ≤ name.length
  short : name.length ≤ 31

/-- A message that tells of a datagram that cannot be read. It is not the one about a message that
cannot be written, nor the one about a rejected call identifier. -/
structure TellsOfReading (message : String) : Prop where
  form : ∃ reason : String, message = s!"Parse error: {reason}"
  not_writing : ∀ fault : WriteFault, message ≠ fault.message
  not_rejecting : ∀ fault : CallId.Fault, message ≠ fault.message

/-! ## Runs of bytes and runs of characters -/

/-- A class of bytes and a class of characters that are given by the same codes, all of them below
128. -/
structure Codes (insideByte : UInt8 → Bool) (inside : Char → Bool) (range : Nat → Prop) : Prop where
  byte_iff : ∀ byte, insideByte byte = true ↔ range byte.toNat
  char_iff : ∀ character, inside character = true ↔ range character.toNat
  ascii : ∀ code, range code → code < 128

theorem codes_visible : Codes isVisible isGraphic fun code => 0x21 ≤ code ∧ code ≤ 0x7E where
  byte_iff byte := by
    rw [isVisible, Bool.and_eq_true, decide_eq_true_iff, decide_eq_true_iff,
      UInt8.le_iff_toNat_le, UInt8.le_iff_toNat_le]
    rfl
  char_iff _ := isGraphic_iff
  ascii code bounds := by omega

theorem codes_spacing : Codes isSpacing isBlank fun code => code = 0x20 ∨ code = 0x09 where
  byte_iff byte := by
    rw [isSpacing, Bool.or_eq_true, decide_eq_true_iff, decide_eq_true_iff, ← UInt8.toNat_inj,
      ← UInt8.toNat_inj]
    rfl
  char_iff character := by
    rw [isBlank_iff, ← Char.toNat_inj, ← Char.toNat_inj]
    rfl
  ascii code either := by omega

section Codes

variable {insideByte : UInt8 → Bool} {inside : Char → Bool} {range : Nat → Prop}
variable (codes : Codes insideByte inside range)
include codes

theorem Codes.toUInt8 {character : Char} (small : character.toNat < 128) :
    insideByte character.toUInt8 = inside character := by
  have code : character.toUInt8.toNat = character.toNat :=
    Nat.mod_eq_of_lt (Nat.lt_trans small (by decide))
  rw [Bool.eq_iff_iff, codes.byte_iff, codes.char_iff, code]

theorem Codes.beyond {byte : UInt8} (large : 128 ≤ byte.toNat) : insideByte byte = false := by
  refine Bool.eq_false_iff.mpr fun isInside => ?_
  have small := codes.ascii _ ((codes.byte_iff byte).mp isInside)
  omega

theorem Codes.outside {character : Char} (large : ¬ character.toNat < 128) :
    inside character = false := by
  refine Bool.eq_false_iff.mpr fun isInside => ?_
  exact large (codes.ascii _ ((codes.char_iff character).mp isInside))

end Codes

theorem textBytes_cons (character : Char) (text : List Char) :
    textBytes (character :: text) = String.utf8EncodeChar character ++ textBytes text := by
  rw [textBytes_eq_flatMap, textBytes_eq_flatMap, List.flatMap_cons]

theorem textBytes_inj {first second : List Char} (same : textBytes first = textBytes second) :
    first = second := by
  have read : datagramText? (textBytes second) = some first :=
    datagramText?_eq_some_iff.mpr same.symm
  rw [datagramText?_eq_some_iff.mpr rfl] at read
  exact (Option.some.inj read).symm

/-- The code of a character that is not ASCII begins with a byte that is not ASCII either. -/
theorem utf8EncodeChar_of_not_ascii {character : Char} (large : ¬ character.toNat < 128) :
    ∃ first others, String.utf8EncodeChar character = first :: others ∧ 128 ≤ first.toNat := by
  have beyond : ¬ character.val.toNat ≤ 127 := fun small => large (Nat.lt_succ_of_le small)
  simp only [String.utf8EncodeChar, if_neg beyond]
  split
  · refine ⟨_, _, rfl, ?_⟩
    rw [UInt8.toNat_ofNat']
    omega
  split
  · refine ⟨_, _, rfl, ?_⟩
    rw [UInt8.toNat_ofNat']
    omega
  · refine ⟨_, _, rfl, ?_⟩
    rw [UInt8.toNat_ofNat']
    omega

/-- The longest run of bytes of a class at the start of a text is the code of the longest run of
characters. -/
theorem runs_textBytes {insideByte : UInt8 → Bool} {inside : Char → Bool} {range : Nat → Prop}
    (codes : Codes insideByte inside range) (text : List Char) :
    (textBytes text).takeWhile insideByte = textBytes (text.takeWhile inside) ∧
      (textBytes text).dropWhile insideByte = textBytes (text.dropWhile inside) := by
  induction text with
  | nil => exact ⟨rfl, rfl⟩
  | cons character text ih =>
    by_cases small : character.toNat < 128
    · have single := codes.toUInt8 small
      cases isInside : inside character with
      | true =>
        rw [isInside] at single
        simp [textBytes_cons, utf8EncodeChar_of_ascii small, single, isInside, ih]
      | false =>
        rw [isInside] at single
        simp [utf8EncodeChar_of_ascii small, single, isInside, textBytes_eq_flatMap]
    · obtain ⟨first, others, bytes, large⟩ := utf8EncodeChar_of_not_ascii small
      simp [bytes, codes.beyond large, codes.outside small, textBytes_eq_flatMap]

/-! ## What is read at the start of a line -/

/-- The runs at the start of a line that a reader of type and call identifier takes. -/
theorem takeHeader?_iff_runs {line kind callId : List Char} (isKind : kind ≠ [])
    (isCallId : callId ≠ []) :
    (∃ rest, takeHeader? line = some ((kind, callId), rest)) ↔
      line.takeWhile isGraphic = kind ∧ (line.dropWhile isGraphic).takeWhile isBlank ≠ [] ∧
        ((line.dropWhile isGraphic).dropWhile isBlank).takeWhile isGraphic = callId := by
  constructor
  · rintro ⟨rest, read⟩
    obtain ⟨gap, rfl, word, separates, word', stops⟩ := takeHeader?_eq_some_iff.mp read
    obtain ⟨first, behind⟩ := takeWhile_dropWhile_iff.mpr
      ⟨rfl, (word_iff.mp word).2, separates.stops (fun _ => isGraphic_of_isBlank) _⟩
    obtain ⟨between, behindGap⟩ := takeWhile_dropWhile_iff.mpr
      ⟨rfl, blanks_iff.mp separates.blanks, word'.stops_isBlank rest⟩
    obtain ⟨second, _⟩ := takeWhile_dropWhile_iff.mpr ⟨rfl, (word_iff.mp word').2, stops⟩
    rw [first, behind, between, behindGap, second]
    exact ⟨rfl, separates.nonempty, rfl⟩
  · rintro ⟨first, spaced, second⟩
    obtain ⟨split, graphic, _⟩ := takeWhile_dropWhile_iff.mp
      (⟨first, rfl⟩ : line.takeWhile isGraphic = kind ∧ _)
    obtain ⟨split', blank, _⟩ := takeWhile_dropWhile_iff.mp
      (⟨rfl, rfl⟩ : (line.dropWhile isGraphic).takeWhile isBlank = _ ∧ _)
    obtain ⟨split'', graphic', stops⟩ := takeWhile_dropWhile_iff.mp
      (⟨second, rfl⟩ : ((line.dropWhile isGraphic).dropWhile isBlank).takeWhile isGraphic =
        callId ∧ _)
    refine ⟨_, takeHeader?_eq_some_iff.mpr ⟨_, ?_, word_iff.mpr ⟨isKind, graphic⟩,
      ⟨spaced, blanks_iff.mpr blank⟩, word_iff.mpr ⟨isCallId, graphic'⟩, stops⟩⟩
    rw [← split'', ← split', ← split]

theorem firstToken_textBytes (line : List Char) :
    firstToken (textBytes line) = textBytes (line.takeWhile isGraphic) :=
  (runs_textBytes codes_visible line).1

theorem tokenGap_textBytes (line : List Char) :
    tokenGap (textBytes line) = textBytes ((line.dropWhile isGraphic).takeWhile isBlank) := by
  rw [tokenGap, (runs_textBytes codes_visible line).2, (runs_textBytes codes_spacing _).1]

theorem secondToken_textBytes (line : List Char) :
    secondToken (textBytes line) =
      textBytes (((line.dropWhile isGraphic).dropWhile isBlank).takeWhile isGraphic) := by
  rw [secondToken, (runs_textBytes codes_visible line).2, (runs_textBytes codes_spacing _).2,
    (runs_textBytes codes_visible _).1]

theorem length_textBytes_of_graphic {word : List Char}
    (graphic : ∀ character ∈ word, isGraphic character = true) :
    (textBytes word).length = word.length := by
  have ascii : Ascii word := by
    intro character member
    have bounds := isGraphic_iff.mp (graphic character member)
    omega
  rw [textBytes_of_ascii ascii, List.length_map]

/-- A word of at most 31 characters is a call identifier. -/
theorem Grammar.Word.exists_callId {word : List Char} (isWord : Word word)
    (short : word.length ≤ 31) : ∃ callId : CallId, callId.text.toList = word := by
  refine ⟨⟨String.ofList word, ?_, ?_, ?_⟩, String.toList_ofList⟩
  · intro empty
    exact isWord.nonempty (ofList_eq_iff.mp empty)
  · rw [utf8ByteSize_of_ascii isWord.ascii]
    exact short
  · rw [String.toList_ofList, List.all_eq_true]
    exact (word_iff.mp isWord).2

/-- A call identifier is a word of at most 31 characters. -/
theorem CallId.word (callId : CallId) : Word callId.text.toList := by
  refine word_iff.mpr ⟨fun empty => callId.wellFormed.nonempty ?_, ?_⟩
  · rw [← String.toList_inj, empty]
    rfl
  · exact List.all_eq_true.mp callId.wellFormed.graphic

theorem CallId.length_bytes_le (callId : CallId) : callId.bytes.length ≤ 31 := by
  have short := callId.wellFormed.short
  rw [← String.ofList_toList (s := callId.text)] at short
  exact short

/-- A text names a call when type and call identifier can be read from it. -/
theorem namesCall_textBytes_iff {line : List Char} {kind : Kind} {name : Payload} :
    NamesCall (textBytes line) kind name ↔
      ∃ callId : CallId, callId.bytes = name ∧
        ∃ rest, takeHeader? line = some ((kind.word.toList, callId.text.toList), rest) := by
  constructor
  · rintro ⟨isKind, spaced, rfl, nonempty, short⟩
    rw [firstToken_textBytes] at isKind
    rw [tokenGap_textBytes] at spaced
    rw [secondToken_textBytes] at nonempty short
    generalize second : ((line.dropWhile isGraphic).dropWhile isBlank).takeWhile isGraphic =
      word at nonempty short
    have graphic : ∀ character ∈ word, isGraphic character = true := by
      rw [← second]
      exact List.all_eq_true.mp List.all_takeWhile
    rw [length_textBytes_of_graphic graphic] at nonempty short
    have isWord : Word word := word_iff.mpr ⟨List.ne_nil_of_length_pos nonempty, graphic⟩
    obtain ⟨callId, rfl⟩ := isWord.exists_callId short
    refine ⟨callId, ?_, ?_⟩
    · rw [secondToken_textBytes, second, CallId.bytes]
    · refine (takeHeader?_iff_runs (word_kind kind).nonempty isWord.nonempty).mpr
        ⟨textBytes_inj isKind, ?_, second⟩
      intro none
      rw [none] at spaced
      exact spaced rfl
  · rintro ⟨callId, rfl, read⟩
    have isWord := callId.word
    obtain ⟨first, spaced, second⟩ :=
      (takeHeader?_iff_runs (word_kind kind).nonempty isWord.nonempty).mp read
    refine ⟨?_, ?_, ?_, ?_, callId.length_bytes_le⟩
    · rw [firstToken_textBytes, first]
    · rw [tokenGap_textBytes]
      exact fun none => spaced (textBytes_inj none)
    · rw [secondToken_textBytes, second, CallId.bytes]
    · rw [CallId.bytes, length_textBytes_of_graphic (word_iff.mp isWord).2]
      exact List.length_pos_iff.mpr isWord.nonempty

/-! ## The call that is recovered -/

/-- The call identifier that can be read from a datagram, whatever follows it: the second word of a
text that is short enough and begins with a type of message. -/
def callIdOf? (datagram : Payload) : Option CallId :=
  if datagram.isEmpty ∨ maxMessageLength < datagram.length then none
  else do
    let line ← datagramText? datagram
    let ((kind, callId), _) ← takeHeader? line
    let _ ← Kind.ofWord? (String.ofList kind)
    (CallId.ofText (String.ofList callId)).toOption

theorem Grammar.Carries.callId_eq {callId : CallId} {kind : Kind} {payload : List Char}
    {message : Message} (carries : Carries callId kind payload message) :
    message.callId = callId := by
  cases carries <;> rfl

theorem Grammar.Carries.kind_eq {callId : CallId} {kind : Kind} {payload : List Char}
    {message : Message} (carries : Carries callId kind payload message) :
    message.kind = kind := by
  cases carries <;> rfl

/-- What a message names is what is read from its datagram; and a fault names what is read, as far
as it can be. -/
theorem callIdOf?_eq (datagram : Payload) :
    callIdOf? datagram =
      match Message.ofDatagram datagram with
      | .ok message => some message.callId
      | .error fault => fault.callId? := by
  by_cases empty : datagram.isEmpty = true
  · rw [callIdOf?, if_pos (.inl empty), Message.ofDatagram, if_pos empty]
    rfl
  by_cases long : maxMessageLength < datagram.length
  · rw [callIdOf?, if_pos (.inr long), Message.ofDatagram, if_neg empty, if_pos long]
    rfl
  rw [callIdOf?, if_neg (not_or.mpr ⟨empty, long⟩), Message.ofDatagram, if_neg empty, if_neg long]
  cases datagramText? datagram with
  | none => rfl
  | some line =>
    rw [Option.bind_eq_bind, Option.bind_some]
    dsimp only [Message.ofLine]
    cases takeHeader? line with
    | none => rfl
    | some header =>
      obtain ⟨⟨kindWord, callIdWord⟩, rest⟩ := header
      dsimp only [Option.bind_eq_bind, Option.bind_some]
      cases Kind.ofWord? (String.ofList kindWord) with
      | none => rfl
      | some kind =>
        cases CallId.ofText (String.ofList callIdWord) with
        | error fault => simp [Except.toOption, ReadFault.callId?]
        | ok callId =>
          cases carried : payload? kind callId rest with
          | none => simp [carried, Except.toOption, ReadFault.callId?]
          | some message =>
            obtain ⟨_, _, _, carries, _⟩ := payload?_eq_some_iff.mp carried
            simp [carried, Except.toOption, carries.callId_eq]

/-- A line of signaling names the call of its message. -/
theorem Grammar.Line.namesCall {line : List Char} {message : Message}
    (denotes : Line line message) :
    NamesCall (textBytes line) message.kind message.callId.bytes := by
  obtain @⟨kind, callId, _, gap, word, payload, tail, separates, identifies, carries, ends⟩ :=
    denotes
  rw [carries.kind_eq, carries.callId_eq]
  refine namesCall_textBytes_iff.mpr ⟨callId, rfl, payload ++ tail, ?_⟩
  rw [identifies.text_eq, String.toList_ofList]
  exact takeHeader?_eq_some_iff.mpr ⟨gap, rfl, word_kind kind, separates, identifies.isWord,
    carries.stops_isGraphic ends⟩

theorem isValidUTF8_iff {datagram : Payload} :
    (⟨datagram.toArray⟩ : ByteArray).IsValidUTF8 ↔ ∃ text, datagram = textBytes text := by
  constructor
  · rintro ⟨text, same⟩
    refine ⟨text, ?_⟩
    have bytes : datagram = (text.flatMap String.utf8EncodeChar).toByteArray.data.toList :=
      congrArg (fun array => array.data.toList) same
    rw [bytes, List.toList_data_toByteArray, textBytes_eq_flatMap]
  · rintro ⟨text, rfl⟩
    exact (String.ofList text).isValidUTF8

/-- A call identifier is recovered from a text of at most 256 bytes that names it. -/
theorem map_bytes_callIdOf?_eq_some_iff {datagram name : Payload} :
    (callIdOf? datagram).map CallId.bytes = some name ↔
      1 ≤ datagram.length ∧ datagram.length ≤ 256 ∧
        (⟨datagram.toArray⟩ : ByteArray).IsValidUTF8 ∧ ∃ kind, NamesCall datagram kind name := by
  rw [Option.map_eq_some_iff]
  constructor
  · rintro ⟨callId, recovered, rfl⟩
    unfold callIdOf? at recovered
    split at recovered
    · cases recovered
    next within =>
    obtain ⟨line, text, recovered⟩ := Option.bind_eq_some_iff.mp recovered
    obtain ⟨⟨⟨kindWord, callIdWord⟩, rest⟩, header, recovered⟩ :=
      Option.bind_eq_some_iff.mp recovered
    obtain ⟨kind, named, accepted⟩ := Option.bind_eq_some_iff.mp recovered
    obtain rfl := datagramText?_eq_some_iff.mp text
    obtain rfl := ofWord?_eq_some_iff.mp named
    have callId_eq : callId.text = String.ofList callIdWord := by
      cases answer : CallId.ofText (String.ofList callIdWord) with
      | error fault => rw [answer] at accepted; cases accepted
      | ok other =>
        rw [answer] at accepted
        obtain rfl := Option.some.inj accepted
        exact CallId.text_of_ofText answer
    obtain ⟨nonempty, short⟩ := not_or.mp within
    refine ⟨List.length_pos_iff.mpr (by simpa using nonempty), Nat.not_lt.mp short,
      isValidUTF8_iff.mpr ⟨line, rfl⟩, kind, namesCall_textBytes_iff.mpr ⟨callId, rfl, rest, ?_⟩⟩
    rw [callId_eq, String.toList_ofList]
    exact header
  · rintro ⟨nonempty, short, valid, kind, names⟩
    obtain ⟨line, rfl⟩ := isValidUTF8_iff.mp valid
    obtain ⟨callId, rfl, rest, header⟩ := namesCall_textBytes_iff.mp names
    refine ⟨callId, ?_, rfl⟩
    have within : ¬ ((textBytes line).isEmpty ∨ maxMessageLength < (textBytes line).length) := by
      rw [List.isEmpty_iff_length_eq_zero]
      exact not_or.mpr ⟨Nat.ne_of_gt nonempty, Nat.not_lt.mpr short⟩
    rw [callIdOf?, if_neg within, datagramText?_eq_some_iff.mpr rfl]
    simp [header, Except.toOption]

/-- The first letter of a message tells what went wrong. -/
theorem tellsOfReading_message (fault : ReadFault) : TellsOfReading fault.message := by
  have reading : fault.message.toList.head? = some 'P' := by
    show ("Parse error: " ++ fault.reason).toList.head? = some 'P'
    rw [String.toList_append]
    rfl
  refine ⟨⟨fault.reason, rfl⟩, ?_, ?_⟩
  · intro other same
    have writing : other.message.toList.head? = some 'E' := by
      show ("Encoding error: " ++ other.reason).toList.head? = some 'E'
      rw [String.toList_append]
      rfl
    rw [same, writing] at reading
    cases reading
  · intro other same
    have rejecting : other.message.toList.head? = some 'I' := by
      show ("Invalid call-id " ++ Text.quote other.value ++ ": " ++ other.defect.text).toList.head?
        = some 'I'
      rw [String.append_assoc, String.append_assoc, String.toList_append]
      rfl
    rw [same, rejecting] at reading
    cases reading

/-- **The call of a datagram that is no message is recovered exactly when the datagram names one:**
the fault is one of reading, and it carries the call identifier that stands behind the word for a
type in a text of 1 to 256 bytes. What is read as a message has the type and the call identifier
that its datagram names. -/
theorem Message.call_recovered (datagram : Payload) :
    match Message.ofDatagram datagram with
    | .ok message => NamesCall datagram message.kind message.callId.bytes
    | .error fault =>
      TellsOfReading fault.message ∧ ∀ name : Payload,
        fault.callId?.map CallId.bytes = some name ↔
          1 ≤ datagram.length ∧ datagram.length ≤ 256 ∧
            (⟨datagram.toArray⟩ : ByteArray).IsValidUTF8 ∧
            ∃ kind, NamesCall datagram kind name := by
  have recovered := callIdOf?_eq datagram
  cases read : Message.ofDatagram datagram with
  | error fault =>
    rw [read] at recovered
    dsimp only at recovered ⊢
    refine ⟨tellsOfReading_message fault, fun name => ?_⟩
    rw [← recovered]
    exact map_bytes_callIdOf?_eq_some_iff
  | ok message =>
    obtain ⟨_, line, rfl, denotes⟩ := Message.line_of_ofDatagram read
    rw [← textBytes_of_ascii denotes.ascii]
    exact denotes.namesCall

end FaxRelay.Signal
