import Intake.Proofs.Text.Ascii

/-
  This file says at which bytes of a text an ASCII character
  stands.

  No byte of another character has the code of an ASCII
  character, so these are the places of the character in the
  text, counted in the bytes of what comes before it.

  Key definitions include:
    * `Text.byteSize`
    * `Text.MarkAt`

  The main statements are:
    * `Text.utf8ByteSize_eq_byteSize`
    * `Text.getElem?_toUTF8_eq_some_iff`
-/

namespace Intake

namespace Text

------------------------------------------------------------
-- Sizes
------------------------------------------------------------

/- The number of bytes of a text. -/
def byteSize : List Char → Nat
  | [] => 0
  | c :: rest => c.utf8Size + byteSize rest

theorem byteSize_append
    (first second : List Char) :
    byteSize (first ++ second) = byteSize first + byteSize second := by
  induction first with
  | nil => exact (Nat.zero_add _).symm
  | cons c rest ih =>
      rw [List.cons_append, byteSize, ih, byteSize, Nat.add_assoc]

/- A text has the bytes of its characters. -/
theorem length_flatMap_utf8EncodeChar
    (text : List Char) :
    (text.flatMap String.utf8EncodeChar).length = byteSize text := by
  induction text with
  | nil => rfl
  | cons c rest ih =>
      rw [List.flatMap_cons, List.length_append,
        String.length_utf8EncodeChar, ih, byteSize]

/- A character has at least one byte. -/
theorem length_le_byteSize
    (text : List Char) :
    text.length ≤ byteSize text := by
  induction text with
  | nil => exact Nat.le_refl 0
  | cons c rest ih =>
      have hSome := c.utf8Size_pos
      rw [byteSize, List.length_cons]
      omega

/- An ASCII character has one byte. -/
theorem utf8Size_of_ascii
    {c : Char}
    (hAscii : c.toNat < 128) :
    c.utf8Size = 1 := by
  rw [← String.length_utf8EncodeChar, utf8EncodeChar_of_ascii hAscii]
  rfl

/- ASCII characters have one byte each. -/
theorem byteSize_of_ascii
    {text : List Char}
    (hAscii : ∀ c ∈ text, c.toNat < 128) :
    byteSize text = text.length := by
  induction text with
  | nil => rfl
  | cons c rest ih =>
      rcases List.forall_mem_cons.mp hAscii with ⟨hHead, hRest⟩
      rw [byteSize, ih hRest, utf8Size_of_ascii hHead,
        List.length_cons, Nat.add_comm]

/- The size of a text is the number of its bytes. -/
theorem utf8ByteSize_eq_byteSize
    (text : String) :
    text.utf8ByteSize = byteSize text.toList := by
  calc
    text.utf8ByteSize = text.toUTF8.data.size := rfl
    _ = byteSize text.toList := by
      rw [data_toUTF8, List.size_toArray, length_flatMap_utf8EncodeChar]

------------------------------------------------------------
-- Marks
------------------------------------------------------------

/- A character stands in a text after so many bytes. -/
inductive MarkAt
    (mark : Char) : List Char → Nat → Prop where
  | here
      {rest : List Char} :
      MarkAt mark (mark :: rest) 0
  | later
      {c : Char}
      {rest : List Char}
      {position : Nat}
      (behind : MarkAt mark rest position) :
      MarkAt mark (c :: rest) (c.utf8Size + position)

variable {mark : Char}
variable {position : Nat}

/- A character stands at the first character or behind it. -/
theorem markAt_cons_iff
    (c : Char)
    (rest : List Char) :
    MarkAt mark (c :: rest) position ↔
      (c = mark ∧ position = 0) ∨
        ∃ later, position = c.utf8Size + later ∧
          MarkAt mark rest later := by
  constructor
  · intro hMark
    cases hMark with
    | here => exact Or.inl ⟨rfl, rfl⟩
    | later behind => exact Or.inr ⟨_, rfl, behind⟩
  · rintro (⟨rfl, rfl⟩ | ⟨later, rfl, hBehind⟩)
    · exact .here
    · exact .later hBehind

/- A character stands in one of two parts of a text. -/
theorem markAt_append_iff
    (first second : List Char) :
    MarkAt mark (first ++ second) position ↔
      MarkAt mark first position ∨
        ∃ later, position = byteSize first + later ∧
          MarkAt mark second later := by
  induction first generalizing position with
  | nil =>
      have hNone : ¬ MarkAt mark [] position := by
        intro hMark
        cases hMark
      simp [hNone, byteSize]
  | cons c rest ih =>
      simp only [List.cons_append, markAt_cons_iff, ih, byteSize]
      constructor
      · rintro (hHere | ⟨_, rfl, hRest | ⟨later, rfl, hSecond⟩⟩)
        · exact Or.inl (Or.inl hHere)
        · exact Or.inl (Or.inr ⟨_, rfl, hRest⟩)
        · exact Or.inr ⟨later, by omega, hSecond⟩
      · rintro ((hHere | ⟨later, rfl, hRest⟩) | ⟨later, rfl, hSecond⟩)
        · exact Or.inl hHere
        · exact Or.inr ⟨later, rfl, Or.inl hRest⟩
        · exact Or.inr ⟨_, by omega, Or.inr ⟨later, rfl, hSecond⟩⟩

/- A character that stands in a text is one of its characters. -/
theorem MarkAt.mem
    {text : List Char}
    (hMark : MarkAt mark text position) :
    mark ∈ text := by
  induction hMark with
  | here => exact List.mem_cons_self
  | later _ ih => exact List.mem_cons_of_mem _ ih

/- The byte of an ASCII character is its code. -/
theorem toNat_toUInt8_of_ascii
    {c : Char}
    (hAscii : c.toNat < 128) :
    c.toUInt8.toNat = c.toNat := by
  show c.toNat % 256 = c.toNat
  omega

/- The bytes of another character are no codes of ASCII characters. -/
theorem le_of_mem_utf8EncodeChar
    {c : Char}
    {byte : UInt8}
    (hOther : ¬ c.toNat < 128)
    (hMem : byte ∈ String.utf8EncodeChar c) :
    128 ≤ byte.toNat := by
  have hWide : ¬ c.val.toNat ≤ 127 := by
    rw [Char.toNat_val]
    omega
  simp only [String.utf8EncodeChar, hWide, if_false] at hMem
  split at hMem
  · simp only [List.mem_cons, List.not_mem_nil, or_false] at hMem
    rcases hMem with rfl | rfl <;> rw [UInt8.toNat_ofNat'] <;> omega
  · split at hMem
    · simp only [List.mem_cons, List.not_mem_nil, or_false] at hMem
      rcases hMem with rfl | rfl | rfl <;> rw [UInt8.toNat_ofNat'] <;> omega
    · simp only [List.mem_cons, List.not_mem_nil, or_false] at hMem
      rcases hMem with rfl | rfl | rfl | rfl <;>
        rw [UInt8.toNat_ofNat'] <;> omega

/- A byte with the code of an ASCII character is this character. -/
theorem eq_of_mem_utf8EncodeChar
    {c : Char}
    (hMark : mark.toNat < 128)
    (hMem : mark.toUInt8 ∈ String.utf8EncodeChar c) :
    c = mark := by
  have hCode := toNat_toUInt8_of_ascii hMark
  by_cases hAscii : c.toNat < 128
  · rw [utf8EncodeChar_of_ascii hAscii, List.mem_singleton] at hMem
    rw [hMem, toNat_toUInt8_of_ascii hAscii] at hCode
    exact Char.toNat_inj.mp hCode
  · have hByte := le_of_mem_utf8EncodeChar hAscii hMem
    omega

/-
  A byte of a text has the code of an ASCII character exactly
  if this character stands there.
-/
theorem getElem?_toUTF8_eq_some_iff
    (text : String)
    (hMark : mark.toNat < 128) :
    text.toUTF8.data[position]? = some mark.toUInt8 ↔
      MarkAt mark text.toList position := by
  rw [data_toUTF8, List.getElem?_toArray]
  induction text.toList generalizing position with
  | nil =>
      constructor
      · intro hByte
        cases hByte
      · intro hAt
        cases hAt
  | cons c rest ih =>
      rw [List.flatMap_cons, List.getElem?_append,
        String.length_utf8EncodeChar, markAt_cons_iff]
      have hEncoded := utf8EncodeChar_of_ascii hMark
      split
      · next hHead =>
          constructor
          · intro hByte
            have hSame :=
              eq_of_mem_utf8EncodeChar hMark (List.mem_of_getElem? hByte)
            subst hSame
            rw [utf8Size_of_ascii hMark] at hHead
            exact Or.inl ⟨rfl, by omega⟩
          · rintro (⟨rfl, rfl⟩ | ⟨later, rfl, _⟩)
            · rw [hEncoded]
              rfl
            · omega
      · next hBehind =>
          have hSome := c.utf8Size_pos
          rw [ih]
          constructor
          · intro hRest
            exact Or.inr ⟨_, by omega, hRest⟩
          · rintro (⟨_, rfl⟩ | ⟨later, rfl, hRest⟩)
            · omega
            · rw [Nat.add_sub_cancel_left]
              exact hRest

end Text

end Intake
