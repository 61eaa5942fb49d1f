import FaxRelay.Proofs.Signal.Grammar

/-!
# What the readers accept

Each reader of a part of a line takes from the front of a text exactly what the
grammar describes and hands back the rest. Since a reader takes as much as it
can, the rest does not begin with a character that the reader would have taken
as well (`Stops`). With this, what a reader accepts is an equivalence: it serves
in one direction to read a derivation off an accepted text, and in the other to
show that a text with a derivation is accepted.
-/

set_option autoImplicit false

namespace FaxRelay.Signal.Grammar

open FaxRelay.Net FaxRelay.Text

/-! ## Taking the longest run -/

/-- A text that does not begin with a character of a class. -/
def Stops (inside : Char → Bool) (text : List Char) : Prop :=
  ∀ character, text.head? = some character → inside character = false

section Stops

variable {inside : Char → Bool}

theorem stops_nil : Stops inside [] := by
  intro character isHead
  cases isHead

theorem stops_cons {character : Char} {text : List Char} :
    Stops inside (character :: text) ↔ inside character = false := by
  simp [Stops]

theorem stops_append {front back : List Char} (nonempty : front ≠ []) :
    Stops inside (front ++ back) ↔ Stops inside front := by
  cases front with
  | nil => exact absurd rfl nonempty
  | cons character front => rw [List.cons_append, stops_cons, stops_cons]

/-- The longest run at the front of a text, and what follows it. -/
theorem takeWhile_dropWhile_iff {text run rest : List Char} :
    text.takeWhile inside = run ∧ text.dropWhile inside = rest ↔
      text = run ++ rest ∧ (∀ character ∈ run, inside character = true) ∧ Stops inside rest := by
  constructor
  · rintro ⟨rfl, rfl⟩
    refine ⟨List.takeWhile_append_dropWhile.symm, fun character member => ?_,
      fun character isHead => ?_⟩
    · exact List.all_eq_true.mp List.all_takeWhile character member
    · have stops := List.head?_dropWhile_not inside text
      rw [isHead] at stops
      simpa using stops
  · rintro ⟨rfl, all, stops⟩
    have nothing : rest.takeWhile inside = [] ∧ rest.dropWhile inside = rest := by
      cases rest with
      | nil => exact ⟨rfl, rfl⟩
      | cons character rest => simp [stops_cons.mp stops]
    rw [List.takeWhile_append_of_pos all, List.dropWhile_append_of_pos all, nothing.1, nothing.2,
      List.append_nil]
    exact ⟨rfl, rfl⟩

end Stops

/-! ## Words and separators -/

theorem isGraphic_iff {character : Char} :
    isGraphic character = true ↔ 0x21 ≤ character.toNat ∧ character.toNat ≤ 0x7E := by
  rw [isGraphic, Bool.and_eq_true, decide_eq_true_iff, decide_eq_true_iff]
  rfl

theorem isBlank_iff {character : Char} :
    isBlank character = true ↔ character = ' ' ∨ character = '\t' := by
  simp [isBlank]

theorem word_iff {text : List Char} :
    Word text ↔ text ≠ [] ∧ ∀ character ∈ text, isGraphic character = true := by
  simp only [isGraphic_iff]
  exact ⟨fun word => ⟨word.nonempty, word.visible⟩, fun ⟨nonempty, visible⟩ => ⟨nonempty, visible⟩⟩

theorem blanks_iff {text : List Char} :
    Blanks text ↔ ∀ character ∈ text, isBlank character = true := by
  simp only [isBlank_iff]
  rfl

/-- No visible character is a blank. -/
theorem isGraphic_of_isBlank {character : Char} (blank : isBlank character = true) :
    isGraphic character = false := by
  rcases isBlank_iff.mp blank with rfl | rfl <;> rfl

theorem isBlank_of_isGraphic {character : Char} (graphic : isGraphic character = true) :
    isBlank character = false := by
  cases blank : isBlank character with
  | false => rfl
  | true => rw [isGraphic_of_isBlank blank] at graphic; cases graphic

/-- No digit is a blank. -/
theorem isDigit_of_isBlank {character : Char} (blank : isBlank character = true) :
    character.isDigit = false := by
  rcases isBlank_iff.mp blank with rfl | rfl <;> rfl

theorem Word.stops_isBlank {word : List Char} (isWord : Word word) (rest : List Char) :
    Stops isBlank (word ++ rest) := by
  rw [stops_append isWord.nonempty]
  intro character isHead
  exact isBlank_of_isGraphic ((word_iff.mp isWord).2 character (List.mem_of_mem_head? isHead))

theorem Separator.stops {separator : List Char} (separates : Separator separator)
    {inside : Char → Bool} (apart : ∀ character, isBlank character = true →
      inside character = false) (rest : List Char) : Stops inside (separator ++ rest) := by
  rw [stops_append separates.nonempty]
  intro character isHead
  exact apart character (blanks_iff.mp separates.blanks character (List.mem_of_mem_head? isHead))

/-- The reader of words. -/
theorem takeWord?_eq_some_iff {text word rest : List Char} :
    takeWord? text = some (word, rest) ↔
      text = word ++ rest ∧ Word word ∧ Stops isGraphic rest := by
  have run : text.takeWhile isGraphic = word ∧ text.dropWhile isGraphic = rest ↔ _ :=
    takeWhile_dropWhile_iff
  rw [word_iff]
  constructor
  · intro read
    simp only [takeWord?] at read
    split at read
    · cases read
    next nonempty =>
    obtain ⟨same, same'⟩ := Prod.mk.inj (Option.some.inj read)
    obtain ⟨whole, all, stops⟩ := run.mp ⟨same, same'⟩
    refine ⟨whole, ⟨?_, all⟩, stops⟩
    rintro rfl
    exact nonempty (by simp [same])
  · rintro ⟨whole, ⟨nonempty, all⟩, stops⟩
    obtain ⟨same, same'⟩ := run.mpr ⟨whole, all, stops⟩
    simp [takeWord?, same, same', nonempty]

/-- The reader of separators. -/
theorem dropBlanks?_eq_some_iff {text rest : List Char} :
    dropBlanks? text = some rest ↔
      ∃ separator, text = separator ++ rest ∧ Separator separator ∧ Stops isBlank rest := by
  constructor
  · intro read
    cases text with
    | nil => cases read
    | cons first text =>
      rw [dropBlanks?] at read
      split at read
      · next blank =>
        obtain ⟨whole, all, stops⟩ := takeWhile_dropWhile_iff.mp ⟨rfl, Option.some.inj read⟩
        refine ⟨first :: text.takeWhile isBlank, ?_, ⟨by simp, ?_⟩, stops⟩
        · rw [List.cons_append, ← whole]
        · rw [blanks_iff]
          intro character member
          rcases List.mem_cons.mp member with rfl | member
          · exact blank
          · exact all character member
      · cases read
  · rintro ⟨separator, rfl, ⟨nonempty, blanks⟩, stops⟩
    rw [blanks_iff] at blanks
    cases separator with
    | nil => exact absurd rfl nonempty
    | cons first separator =>
      have later : ∀ character ∈ separator, isBlank character = true :=
        fun character member => blanks character (List.mem_cons_of_mem _ member)
      rw [List.cons_append, dropBlanks?, if_pos (blanks first List.mem_cons_self),
        (takeWhile_dropWhile_iff.mpr ⟨rfl, later, stops⟩).2]

/-- The reader of words behind separators. -/
theorem takeSpacedWord?_eq_some_iff {text word rest : List Char} :
    takeSpacedWord? text = some (word, rest) ↔
      ∃ separator, text = separator ++ (word ++ rest) ∧ Separator separator ∧ Word word ∧
        Stops isGraphic rest := by
  rw [takeSpacedWord?, Option.bind_eq_some_iff]
  constructor
  · rintro ⟨middle, dropped, read⟩
    obtain ⟨separator, rfl, separates, _⟩ := dropBlanks?_eq_some_iff.mp dropped
    obtain ⟨rfl, isWord, stops⟩ := takeWord?_eq_some_iff.mp read
    exact ⟨separator, rfl, separates, isWord, stops⟩
  · rintro ⟨separator, rfl, separates, isWord, stops⟩
    exact ⟨word ++ rest,
      dropBlanks?_eq_some_iff.mpr ⟨separator, rfl, separates, isWord.stops_isBlank rest⟩,
      takeWord?_eq_some_iff.mpr ⟨rfl, isWord, stops⟩⟩

/-! ## Addresses -/

theorem isDigit_iff {character : Char} :
    character.isDigit = true ↔ '0' ≤ character ∧ character ≤ '9' := by
  rw [Char.isDigit, Bool.and_eq_true, decide_eq_true_iff, decide_eq_true_iff]
  rfl

theorem digits_iff {text : List Char} {value : Nat} :
    Digits text value ↔
      text ≠ [] ∧ (∀ character ∈ text, character.isDigit = true) ∧ digitsValue text = value := by
  simp only [isDigit_iff]
  exact ⟨fun digits => ⟨digits.nonempty, digits.decimal, digits.value_eq⟩,
    fun ⟨nonempty, decimal, value_eq⟩ => ⟨nonempty, decimal, value_eq⟩⟩

theorem Digits.isDigit {text : List Char} {value : Nat} (digits : Digits text value) :
    ∀ character ∈ text, character.isDigit = true := (digits_iff.mp digits).2.1

/-- A run of digits below a limit. -/
theorem natBelow?_eq_some_iff {limit value : Nat} {text : List Char} :
    natBelow? limit text = some value ↔ Digits text value ∧ value < limit := by
  rw [digits_iff, natBelow?]
  constructor
  · intro read
    split at read
    · next accepted =>
      cases read
      exact ⟨⟨accepted.1, List.all_eq_true.mp accepted.2.1, rfl⟩, accepted.2.2⟩
    · cases read
  · rintro ⟨⟨nonempty, all, rfl⟩, below⟩
    rw [if_pos ⟨nonempty, List.all_eq_true.mpr all, below⟩]

theorem octet?_eq_some_iff {text : List Char} {octet : UInt8} :
    octet? text = some octet ↔ Octet text octet := by
  have bound : octet.toNat < 256 := octet.toNat_lt
  constructor
  · intro read
    rw [octet?] at read
    split at read
    · cases read
    next canonical =>
    obtain ⟨value, accepted, rfl⟩ := Option.map_eq_some_iff.mp read
    obtain ⟨digits, below⟩ := natBelow?_eq_some_iff.mp accepted
    rw [← UInt8.toNat_ofNat_of_lt' below] at digits
    exact ⟨digits, fun leads => Decidable.byContradiction fun other => canonical ⟨leads, other⟩⟩
  · rintro ⟨digits, canonical⟩
    have accepted := natBelow?_eq_some_iff.mpr ⟨digits, bound⟩
    rw [octet?, if_neg (fun other => other.2 (canonical other.1)), accepted, Option.map_some,
      UInt8.ofNat_toNat]

theorem port?_eq_some_iff {text : List Char} {port : UInt16} :
    port? text = some port ↔ Digits text port.toNat := by
  have bound : port.toNat < 65536 := port.toNat_lt
  rw [port?, Option.map_eq_some_iff]
  constructor
  · rintro ⟨value, accepted, rfl⟩
    obtain ⟨digits, below⟩ := natBelow?_eq_some_iff.mp accepted
    rwa [UInt16.toNat_ofNat_of_lt' below]
  · intro digits
    exact ⟨port.toNat, natBelow?_eq_some_iff.mpr ⟨digits, bound⟩, UInt16.ofNat_toNat⟩

theorem dropChar?_eq_some_iff {character : Char} {text rest : List Char} :
    dropChar? character text = some rest ↔ text = character :: rest := by
  cases text with
  | nil => simp [dropChar?]
  | cons first text =>
    rw [dropChar?, List.cons.injEq]
    split
    · next same => simp [same]
    · next differs => simp [differs]

theorem splitDigits_eq_iff {text run rest : List Char} :
    splitDigits text = (run, rest) ↔
      text = run ++ rest ∧ (∀ character ∈ run, character.isDigit = true) ∧
        Stops Char.isDigit rest := by
  rw [splitDigits, Prod.mk.injEq]
  exact takeWhile_dropWhile_iff

/-- The two parts of a text are all of it, and the second does not begin with a digit. -/
theorem splitDigits_spec (text : List Char) :
    text = (splitDigits text).1 ++ (splitDigits text).2 ∧
      Stops Char.isDigit (splitDigits text).2 := by
  obtain ⟨whole, _, stops⟩ := splitDigits_eq_iff.mp (rfl : splitDigits text = (_, _))
  exact ⟨whole, stops⟩

/-- The reader of octets. -/
theorem takeOctet?_eq_some_iff {text rest : List Char} {octet : UInt8} :
    takeOctet? text = some (octet, rest) ↔
      ∃ run, text = run ++ rest ∧ Octet run octet ∧ Stops Char.isDigit rest := by
  rw [takeOctet?, Option.map_eq_some_iff]
  constructor
  · rintro ⟨value, read, same⟩
    obtain ⟨rfl, rfl⟩ := Prod.mk.inj same
    obtain ⟨whole, stops⟩ := splitDigits_spec text
    exact ⟨(splitDigits text).1, whole, octet?_eq_some_iff.mp read, stops⟩
  · rintro ⟨run, whole, isOctet, stops⟩
    have split := splitDigits_eq_iff.mpr ⟨whole, isOctet.digits.isDigit, stops⟩
    exact ⟨octet, by rw [split]; exact octet?_eq_some_iff.mpr isOctet, by rw [split]⟩

/-- The reader of octets behind dots. -/
theorem takeDotOctet?_eq_some_iff {text rest : List Char} {octet : UInt8} :
    takeDotOctet? text = some (octet, rest) ↔
      ∃ run, text = '.' :: (run ++ rest) ∧ Octet run octet ∧ Stops Char.isDigit rest := by
  simp only [takeDotOctet?, Option.bind_eq_some_iff, dropChar?_eq_some_iff,
    takeOctet?_eq_some_iff]
  constructor
  · rintro ⟨_, rfl, run, rfl, isOctet, stops⟩
    exact ⟨run, rfl, isOctet, stops⟩
  · rintro ⟨run, rfl, isOctet, stops⟩
    exact ⟨run ++ rest, rfl, run, rfl, isOctet, stops⟩

theorem stops_dot (text : List Char) : Stops Char.isDigit ('.' :: text) := stops_cons.mpr rfl

theorem stops_colon (text : List Char) : Stops Char.isDigit (':' :: text) := stops_cons.mpr rfl

/-- The reader of dotted addresses. -/
theorem take?_ipv4_eq_some_iff {text rest : List Char} {ip : Ipv4} :
    Ipv4.take? text = some (ip, rest) ↔
      ∃ dotted, text = dotted ++ rest ∧ Dotted dotted ip ∧ Stops Char.isDigit rest := by
  constructor
  · intro read
    obtain ⟨⟨first, text₁⟩, one, read⟩ := Option.bind_eq_some_iff.mp read
    obtain ⟨⟨second, text₂⟩, two, read⟩ := Option.bind_eq_some_iff.mp read
    obtain ⟨⟨third, text₃⟩, three, read⟩ := Option.bind_eq_some_iff.mp read
    obtain ⟨⟨fourth, text₄⟩, four, read⟩ := Option.bind_eq_some_iff.mp read
    obtain ⟨rfl, rfl⟩ := Prod.mk.inj (Option.some.inj read)
    obtain ⟨run₁, rfl, isFirst, _⟩ := takeOctet?_eq_some_iff.mp one
    obtain ⟨run₂, rfl, isSecond, _⟩ := takeDotOctet?_eq_some_iff.mp two
    obtain ⟨run₃, rfl, isThird, _⟩ := takeDotOctet?_eq_some_iff.mp three
    obtain ⟨run₄, rfl, isFourth, stops⟩ := takeDotOctet?_eq_some_iff.mp four
    exact ⟨_, by simp, .mk isFirst isSecond isThird isFourth, stops⟩
  · rintro ⟨_, rfl, @⟨run₁, run₂, run₃, run₄, _, isFirst, isSecond, isThird, isFourth⟩, stops⟩
    simp only [List.append_assoc, List.cons_append]
    refine Option.bind_eq_some_iff.mpr
      ⟨_, takeOctet?_eq_some_iff.mpr ⟨run₁, rfl, isFirst, stops_dot _⟩, ?_⟩
    refine Option.bind_eq_some_iff.mpr
      ⟨_, takeDotOctet?_eq_some_iff.mpr ⟨run₂, rfl, isSecond, stops_dot _⟩, ?_⟩
    refine Option.bind_eq_some_iff.mpr
      ⟨_, takeDotOctet?_eq_some_iff.mpr ⟨run₃, rfl, isThird, stops_dot _⟩, ?_⟩
    exact Option.bind_eq_some_iff.mpr
      ⟨_, takeDotOctet?_eq_some_iff.mpr ⟨run₄, rfl, isFourth, stops⟩, rfl⟩

/-- The reader of addresses. -/
theorem take?_endpoint_eq_some_iff {text rest : List Char} {endpoint : Endpoint} :
    Endpoint.take? text = some (endpoint, rest) ↔
      ∃ address, text = address ++ rest ∧ Address address endpoint ∧
        Stops Char.isDigit rest := by
  constructor
  · intro read
    obtain ⟨⟨ip, text₁⟩, isIp, read⟩ := Option.bind_eq_some_iff.mp read
    obtain ⟨text₂, isColon, read⟩ := Option.bind_eq_some_iff.mp read
    obtain ⟨port, isPort, read⟩ := Option.bind_eq_some_iff.mp read
    obtain ⟨rfl, rfl⟩ := Prod.mk.inj (Option.some.inj read)
    obtain ⟨dotted, rfl, isDotted, _⟩ := take?_ipv4_eq_some_iff.mp isIp
    obtain rfl := dropChar?_eq_some_iff.mp isColon
    obtain ⟨whole, stops⟩ := splitDigits_spec text₂
    refine ⟨dotted ++ ':' :: (splitDigits text₂).1, ?_,
      .mk isDotted (port?_eq_some_iff.mp isPort), stops⟩
    rw [List.append_assoc, List.cons_append, ← whole]
  · rintro ⟨_, rfl, @⟨dotted, digits, _, isDotted, isPort⟩, stops⟩
    rw [List.append_assoc, List.cons_append]
    have ip := take?_ipv4_eq_some_iff.mpr
      ⟨dotted, rfl, isDotted, stops_colon (digits ++ rest)⟩
    have colon := dropChar?_eq_some_iff.mpr (rfl : ':' :: (digits ++ rest) = _)
    have split := splitDigits_eq_iff.mpr ⟨rfl, isPort.isDigit, stops⟩
    simp only [Endpoint.take?, ip, colon, split, port?_eq_some_iff.mpr isPort,
      Option.bind_eq_bind, Option.bind_some, Option.pure_def]

theorem Octet.stops_isBlank {run : List Char} {octet : UInt8} (isOctet : Octet run octet)
    (rest : List Char) : Stops isBlank (run ++ rest) := by
  rw [stops_append isOctet.digits.nonempty]
  intro character isHead
  have digit := isOctet.digits.isDigit character (List.mem_of_mem_head? isHead)
  cases blank : isBlank character with
  | false => rfl
  | true => rw [isDigit_of_isBlank blank] at digit; cases digit

theorem Address.stops_isBlank {address : List Char} {endpoint : Endpoint}
    (denotes : Address address endpoint) (rest : List Char) :
    Stops isBlank (address ++ rest) := by
  obtain ⟨⟨isFirst, _, _, _⟩, _⟩ := denotes
  simp only [List.append_assoc]
  exact isFirst.stops_isBlank _

/-- The reader of addresses behind separators. -/
theorem takeSpacedEndpoint?_eq_some_iff {text rest : List Char} {endpoint : Endpoint} :
    takeSpacedEndpoint? text = some (endpoint, rest) ↔
      ∃ separator address, text = separator ++ (address ++ rest) ∧ Separator separator ∧
        Address address endpoint ∧ Stops Char.isDigit rest := by
  rw [takeSpacedEndpoint?, Option.bind_eq_some_iff]
  constructor
  · rintro ⟨middle, dropped, read⟩
    obtain ⟨separator, rfl, separates, _⟩ := dropBlanks?_eq_some_iff.mp dropped
    obtain ⟨address, rfl, denotes, stops⟩ := take?_endpoint_eq_some_iff.mp read
    exact ⟨separator, address, rfl, separates, denotes, stops⟩
  · rintro ⟨separator, address, rfl, separates, denotes, stops⟩
    exact ⟨address ++ rest,
      dropBlanks?_eq_some_iff.mpr ⟨separator, rfl, separates, denotes.stops_isBlank rest⟩,
      take?_endpoint_eq_some_iff.mpr ⟨address, rfl, denotes, stops⟩⟩

/-! ## The end of a line -/

theorem isLineEnd_iff {text : List Char} : isLineEnd text = true ↔ Ending text := by
  constructor
  · intro ends
    unfold isLineEnd at ends
    split at ends
    · exact .bare
    · exact .lineFeed
    · exact .both
    · cases ends
  · rintro (_ | _ | _) <;> rfl

theorem Ending.stops_isBlank {ending : List Char} (ends : Ending ending) :
    Stops isBlank ending := by
  cases ends with
  | bare => exact stops_nil
  | lineFeed => exact stops_cons.mpr rfl
  | both => exact stops_cons.mpr rfl

/-- The reader of the end of a line. -/
theorem atLineEnd_iff {text : List Char} : atLineEnd text = true ↔ Tail text := by
  rw [atLineEnd, isLineEnd_iff]
  constructor
  · intro ends
    obtain ⟨whole, all, _⟩ := takeWhile_dropWhile_iff.mp
      (⟨rfl, rfl⟩ : text.takeWhile isBlank = _ ∧ text.dropWhile isBlank = _)
    rw [whole]
    exact .mk (blanks_iff.mpr all) ends
  · rintro @⟨trail, ending, blanks, ends⟩
    have split := takeWhile_dropWhile_iff.mpr ⟨rfl, blanks_iff.mp blanks, ends.stops_isBlank⟩
    rw [split.2]
    exact ends

/-- What may follow the last word of a line is taken by no reader of words or digits. -/
theorem Tail.stops {tail : List Char} (ends : Tail tail) {inside : Char → Bool}
    (apart : ∀ character, isBlank character = true → inside character = false)
    (noFeed : inside '\n' = false) (noReturn : inside '\r' = false) : Stops inside tail := by
  obtain @⟨trail, ending, blanks, ends⟩ := ends
  cases trail with
  | nil =>
    cases ends with
    | bare => exact stops_nil
    | lineFeed => exact stops_cons.mpr noFeed
    | both => exact stops_cons.mpr noReturn
  | cons first trail =>
    exact stops_cons.mpr (apart first (blanks_iff.mp blanks first List.mem_cons_self))

theorem Tail.stops_isGraphic {tail : List Char} (ends : Tail tail) : Stops isGraphic tail :=
  ends.stops (fun _ => isGraphic_of_isBlank) rfl rfl

theorem Tail.stops_isDigit {tail : List Char} (ends : Tail tail) : Stops Char.isDigit tail :=
  ends.stops (fun _ => isDigit_of_isBlank) rfl rfl

end FaxRelay.Signal.Grammar
