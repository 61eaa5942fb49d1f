import FaxRelay.Net.Fabric

/-!
# Audio in datagrams

Audio is a sequence of signed 16-bit samples. In a datagram each sample takes
two bytes, the high one first. An odd byte at the end of a datagram carries no
sample and is ignored, so what was encoded is always decoded to itself.
-/

set_option autoImplicit false

namespace FaxRelay.Media

open FaxRelay.Net

/-- One amplitude of the sound. -/
abbrev Sample := Int16

/-- A block of samples that is moved at once. -/
abbrev Frame := List Sample

/-- The sample that a pair of bytes denotes. -/
def sampleOfBytes (high low : UInt8) : Sample :=
  (UInt16.ofNat (high.toNat * 256 + low.toNat)).toInt16

/-- The bytes of a sample. -/
def bytesOfSample (sample : Sample) : Payload :=
  [UInt8.ofNat (sample.toUInt16.toNat / 256), UInt8.ofNat (sample.toUInt16.toNat % 256)]

/-- The samples of a datagram. -/
def decodeAudio : Payload → Frame
  | high :: low :: rest => sampleOfBytes high low :: decodeAudio rest
  | _ => []

/-- The datagram of a frame. -/
def encodeAudio (frame : Frame) : Payload := frame.flatMap bytesOfSample

/-! ## What was encoded is decoded to itself -/

theorem sampleOfBytes_bytesOfSample (sample : Sample) :
    sampleOfBytes (UInt8.ofNat (sample.toUInt16.toNat / 256))
      (UInt8.ofNat (sample.toUInt16.toNat % 256)) = sample := by
  have small : sample.toUInt16.toNat < 65536 := sample.toUInt16.toNat_lt
  have high : (UInt8.ofNat (sample.toUInt16.toNat / 256)).toNat = sample.toUInt16.toNat / 256 :=
    UInt8.toNat_ofNat_of_lt (by show _ < 256; omega)
  have low : (UInt8.ofNat (sample.toUInt16.toNat % 256)).toNat = sample.toUInt16.toNat % 256 :=
    UInt8.toNat_ofNat_of_lt (by show _ < 256; omega)
  have whole : sample.toUInt16.toNat / 256 * 256 + sample.toUInt16.toNat % 256 =
      sample.toUInt16.toNat := by omega
  rw [sampleOfBytes, high, low, whole, UInt16.ofNat_toNat, Int16.toInt16_toUInt16]

theorem decodeAudio_encodeAudio (frame : Frame) : decodeAudio (encodeAudio frame) = frame := by
  induction frame with
  | nil => rfl
  | cons sample frame ih =>
    rw [encodeAudio, List.flatMap_cons, bytesOfSample, List.cons_append, List.cons_append,
      List.nil_append, decodeAudio, sampleOfBytes_bytesOfSample]
    exact congrArg _ ih

theorem length_encodeAudio (frame : Frame) : (encodeAudio frame).length = 2 * frame.length := by
  induction frame with
  | nil => rfl
  | cons sample frame ih =>
    rw [encodeAudio, List.flatMap_cons, List.length_append, List.length_cons]
    rw [encodeAudio] at ih
    simp only [bytesOfSample, List.length_cons, List.length_nil, ih]
    omega

end FaxRelay.Media
