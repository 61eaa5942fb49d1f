import FaxRelay.Proofs.Signal.Grammar

/-!
# Texts and their bytes

A datagram is read as a text exactly when it is the encoding of that text, and a
text in ASCII is encoded with one byte for each character. So for a line of
signaling, which is ASCII throughout, bytes and characters may be counted and
compared interchangeably.
-/

set_option autoImplicit false

namespace FaxRelay.Signal

open FaxRelay.Net FaxRelay.Signal.Grammar

/-- The bytes of a text are those of its characters in turn. -/
theorem textBytes_eq_flatMap (text : List Char) :
    textBytes text = text.flatMap String.utf8EncodeChar := by
  rw [textBytes, String.toUTF8_eq_toByteArray, String.toByteArray_ofList, List.utf8Encode,
    List.toList_data_toByteArray]

/-- A character of ASCII is one byte. -/
theorem utf8EncodeChar_of_ascii {character : Char} (ascii : character.toNat < 128) :
    String.utf8EncodeChar character = [character.toUInt8] := by
  have small : character.val.toNat ≤ (127 : UInt32).toNat := Nat.le_of_lt_succ ascii
  have single : character.utf8Size = 1 :=
    Char.utf8Size_eq_one_iff.mpr (UInt32.le_iff_toNat_le.mpr small)
  rw [String.utf8EncodeChar_eq_singleton single, Char.toUInt8_val]

/-- The bytes of a text in ASCII are the codes of its characters. -/
theorem textBytes_of_ascii {text : List Char} (ascii : Ascii text) :
    textBytes text = text.map Char.toUInt8 := by
  rw [textBytes_eq_flatMap]
  induction text with
  | nil => rfl
  | cons character text ih =>
    obtain ⟨small, ascii⟩ := ascii_cons.mp ascii
    rw [List.flatMap_cons, List.map_cons, utf8EncodeChar_of_ascii small, ih ascii,
      List.singleton_append]

/-- A text in ASCII has as many bytes as characters. -/
theorem utf8ByteSize_of_ascii {text : List Char} (ascii : Ascii text) :
    (String.ofList text).utf8ByteSize = text.length := by
  have bytes := congrArg List.length (textBytes_of_ascii ascii)
  rw [List.length_map] at bytes
  exact bytes

/-- A datagram is read as the text whose bytes it consists of. -/
theorem datagramText?_eq_some_iff {datagram : Payload} {text : List Char} :
    datagramText? datagram = some text ↔ datagram = textBytes text := by
  rw [datagramText?, String.fromUTF8?, textBytes, String.toUTF8_eq_toByteArray]
  constructor
  · intro read
    split at read
    · obtain rfl := Option.some.inj read
      rw [String.ofList_toList]
      rfl
    · cases read
  · rintro rfl
    rw [Array.toArray_toList, dif_pos (String.ofList text).isValidUTF8, Option.map_some]
    exact congrArg some String.toList_ofList

end FaxRelay.Signal
