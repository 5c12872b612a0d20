import Intake.Text.Digits

/-
  This file says what the bytes of a text of ASCII characters
  are: one for each character.

  The main statements are:
    * `Text.data_toUTF8_ofList`
    * `Text.utf8ByteSize_ofList`
-/

namespace Intake

namespace Text

/- An ASCII character is encoded as its own code. -/
theorem utf8EncodeChar_of_ascii
    {c : Char}
    (hAscii : c.toNat < 128) :
    String.utf8EncodeChar c = [c.toUInt8] := by
  have hSize : c.utf8Size = 1 := by
    rw [Char.utf8Size_eq_one_iff, UInt32.le_iff_toNat_le]
    exact Nat.le_of_lt_succ hAscii
  exact String.utf8EncodeChar_eq_singleton hSize

/- The bytes of a text are those of its characters. -/
theorem data_toUTF8
    (text : String) :
    text.toUTF8.data =
      (text.toList.flatMap String.utf8EncodeChar).toArray := by
  rw [String.toUTF8_eq_toByteArray, ← String.ofList_toList (s := text),
    String.toByteArray_ofList, List.utf8Encode, List.data_toByteArray,
    String.toList_ofList]

/- The bytes of a text of ASCII characters are their codes. -/
theorem data_toUTF8_ofList
    (chars : List Char)
    (hAscii : ∀ c ∈ chars, c.toNat < 128) :
    (String.ofList chars).toUTF8.data =
      (chars.map Char.toUInt8).toArray := by
  have hEach :
      chars.flatMap String.utf8EncodeChar =
        chars.map Char.toUInt8 := by
    rw [List.map_eq_flatMap, List.flatMap, List.flatMap,
      List.map_congr_left fun c hMem =>
        utf8EncodeChar_of_ascii (hAscii c hMem)]
  rw [data_toUTF8, String.toList_ofList, hEach]

/- A text of ASCII characters has as many bytes as characters. -/
theorem utf8ByteSize_ofList
    (chars : List Char)
    (hAscii : ∀ c ∈ chars, c.toNat < 128) :
    (String.ofList chars).utf8ByteSize = chars.length := by
  have hSize :=
    congrArg Array.size (data_toUTF8_ofList chars hAscii)
  calc
    (String.ofList chars).utf8ByteSize =
        (chars.map Char.toUInt8).toArray.size := hSize
    _ = chars.length := by simp

/- A digit is an ASCII character. -/
theorem ascii_of_isDigit
    {c : Char}
    (hDigit : c.isDigit = true) :
    c.toNat < 128 := by
  have hBounds := Char.isDigit_iff_toNat.mp hDigit
  have hNine : '9'.toNat = 57 := rfl
  omega

end Text

end Intake
