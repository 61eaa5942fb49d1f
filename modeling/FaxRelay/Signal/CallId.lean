import FaxRelay.Text.Quoted

/-!
# Call identifiers

The peer that asks for a call names it with a token of its own choosing. The
token ties the two media legs of the call together and is echoed in every reply
about it. Nothing is escaped on the wire, so it consists of visible ASCII
characters only; it is not empty and has at most 31 of them.
-/

set_option autoImplicit false

namespace FaxRelay.Signal

/-- The visible characters of ASCII: everything from the exclamation mark to the tilde. -/
def isGraphic (character : Char) : Bool := '!' ≤ character && character ≤ '~'

/-- The greatest number of bytes in a call identifier. -/
def maxCallIdLength : Nat := 31

/-- What a call identifier looks like. -/
structure CallId.WellFormed (text : String) : Prop where
  nonempty : text ≠ ""
  short : text.utf8ByteSize ≤ maxCallIdLength
  graphic : text.toList.all isGraphic = true

/-- A call identifier. -/
structure CallId where
  text : String
  wellFormed : CallId.WellFormed text
  deriving DecidableEq

/-- Why a text is no call identifier. -/
inductive CallId.Defect where
  | empty
  | tooLong
  | notGraphic
  deriving DecidableEq, Repr

/-- A text that was offered as a call identifier, and what is wrong with it. -/
structure CallId.Fault where
  value : String
  defect : CallId.Defect
  deriving DecidableEq, Repr

namespace CallId

/-- The words for a defect. -/
def Defect.text : Defect → String
  | .empty => "empty"
  | .tooLong => s!"longer than {maxCallIdLength} bytes"
  | .notGraphic => "contains whitespace or non-printable characters"

/-- The message about a rejected call identifier. -/
def Fault.message (fault : Fault) : String :=
  s!"Invalid call-id {Text.quote fault.value}: {fault.defect.text}"

/-- Accepts a text as a call identifier. Emptiness is noticed before length, and length before
the characters. -/
def ofText (text : String) : Except Fault CallId :=
  if isEmpty : text = "" then .error ⟨text, .empty⟩
  else if isShort : text.utf8ByteSize ≤ maxCallIdLength then
    if isGraphic : text.toList.all isGraphic = true then
      .ok ⟨text, ⟨isEmpty, isShort, isGraphic⟩⟩
    else .error ⟨text, .notGraphic⟩
  else .error ⟨text, .tooLong⟩

/-- The identifier that stands in a reply when none could be read. -/
def placeholder : CallId := ⟨"0", ⟨by decide, by decide, by decide⟩⟩

/-- A call identifier is accepted as itself. -/
@[simp] theorem ofText_text (call : CallId) : ofText call.text = .ok call := by
  obtain ⟨text, nonempty, short, graphic⟩ := call
  simp [ofText, nonempty, short, graphic]

/-- An accepted text is the text of the identifier. -/
theorem text_of_ofText {text : String} {call : CallId} (accepted : ofText text = .ok call) :
    call.text = text := by
  unfold ofText at accepted
  split at accepted
  · cases accepted
  · split at accepted
    · split at accepted
      · cases accepted
        rfl
      · cases accepted
    · cases accepted

end CallId

end FaxRelay.Signal
