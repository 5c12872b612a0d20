import Intake.Raw.Syntax
import Intake.Raw.Writer
import Mathlib.Data.List.Forall2

/-
  This file shows that JSON text is read back as what was
  written, for objects with texts as values.

  Whatever characters a text has, each of them is written as
  itself or as an escape, and reading takes exactly this off
  the front of what follows.

  Key definitions include:
    * `JsonSyntax.Escaped`
    * `JsonSyntax.StandsFor`
    * `JsonSyntax.Reads`
    * `Raw.ofTexts`
    * `JsonSyntax.ofTexts`

  The main statements are:
    * `JsonSyntax.escaped_escape`
    * `JsonSyntax.Escaped.exists_readParts`
    * `JsonSyntax.readString_append`
    * `JsonSyntax.reads_readList`
    * `JsonSyntax.read?_write_ofTexts`
-/

namespace Intake

namespace JsonSyntax

------------------------------------------------------------
-- Escapes
------------------------------------------------------------

/-
  A character is written by an escape of one letter, by its code
  if it is a control character, or as itself.
-/
inductive Escaped
    (c : Char) : List Char → Prop where
  | letter
      {letter : Char}
      (named : escapeLetter? letter = some c) :
      Escaped c ['\\', letter]
  | code
      (control : c.toNat < 32) :
      Escaped c
        ['\\', 'u', '0', '0', Raw.hexDigit (c.toNat / 16),
          Raw.hexDigit c.toNat]
  | plain
      (notQuote : c ≠ '"')
      (notBackslash : c ≠ '\\')
      (printable : 32 ≤ c.toNat) :
      Escaped c [c]

/- A part of a string stands for a character, as itself or by its code. -/
inductive StandsFor : Char ⊕ Nat → Char → Prop where
  | char (c : Char) : StandsFor (.inl c) c
  | code (c : Char) (control : c.toNat < 32) : StandsFor (.inr c.toNat) c

/- The character that a letter names is written by the letter. -/
theorem Escaped.of_eq
    {letter c named : Char}
    (hNamed : escapeLetter? letter = some named)
    (hSame : c = named) :
    Escaped c ['\\', letter] := by
  rw [← hSame] at hNamed
  exact .letter hNamed

/- Every character inside a string is written in one of these ways. -/
theorem escaped_escape
    (c : Char) :
    Escaped c (Raw.escape c) := by
  unfold Raw.escape
  split
  · next h => exact .of_eq rfl (beq_iff_eq.mp h)
  split
  · next h => exact .of_eq rfl (beq_iff_eq.mp h)
  split
  · next h => exact .of_eq rfl (beq_iff_eq.mp h)
  split
  · next h => exact .of_eq rfl (beq_iff_eq.mp h)
  split
  · next h => exact .of_eq rfl (beq_iff_eq.mp h)
  -- Two control characters are told by their codes.
  split
  · next h => exact .of_eq rfl (Char.toNat_inj.mp (beq_iff_eq.mp h))
  split
  · next h => exact .of_eq rfl (Char.toNat_inj.mp (beq_iff_eq.mp h))
  split
  · next hControl => exact .code hControl
  · next hQuote hBackslash _ _ _ _ _ hPrintable =>
      rw [beq_iff_eq] at hQuote hBackslash
      exact .plain hQuote hBackslash (Nat.not_lt.mp hPrintable)

/- What is written for a character is not empty. -/
theorem Escaped.length_pos
    {c : Char}
    {text : List Char}
    (hText : Escaped c text) :
    0 < text.length := by
  cases hText <;> exact Nat.succ_pos _

/- A hexadecimal digit is read as what it writes. -/
theorem hexValue?_hexDigit
    (n : Nat) :
    hexValue? (Raw.hexDigit n) = some (n % 16) := by
  have hEach :
      ∀ d < 16, hexValue? ((Nat.toDigits 16 d).headD '0') = some d := by
    decide
  exact hEach (n % 16) (Nat.mod_lt n (by decide))

/- Two digits after two zeros are read as the code that they write. -/
theorem hexUnit?_hexDigit
    {n : Nat}
    (hByte : n < 256)
    (rest : List Char) :
    hexUnit?
        ('0' :: '0' :: Raw.hexDigit (n / 16) :: Raw.hexDigit n :: rest) =
      some (n, rest) := by
  have hZero : hexValue? '0' = some 0 := rfl
  have hSum :
      ((0 * 16 + 0) * 16 + n / 16 % 16) * 16 + n % 16 = n := by
    omega
  simp only [hexUnit?, hZero, hexValue?_hexDigit, Option.bind_eq_bind,
    Option.bind_some, hSum]
  rfl

/- An escape of one letter is read as the character that it names. -/
theorem readParts_letter
    {letter c : Char}
    (hNamed : escapeLetter? letter = some c)
    (fuel : Nat)
    (rest : List Char) :
    readParts (fuel + 1) ('\\' :: letter :: rest) =
      (readParts fuel rest).bind fun read =>
        some (.inl c :: read.1, read.2) := by
  have hOther : letter ≠ 'u' := by
    rintro rfl
    cases hNamed
  rw [readParts, hNamed]
  · rfl
  · exact hOther

/- A character that needs no escape is read as itself. -/
theorem readParts_plain
    {c : Char}
    (hQuote : c ≠ '"')
    (hBackslash : c ≠ '\\')
    (hPrintable : 32 ≤ c.toNat)
    (fuel : Nat)
    (rest : List Char) :
    readParts (fuel + 1) (c :: rest) =
      (readParts fuel rest).bind fun read =>
        some (.inl c :: read.1, read.2) := by
  rw [readParts, if_neg (Nat.not_lt.mpr hPrintable)]
  · rfl
  · exact hQuote
  · exact fun _ hSame => absurd hSame hBackslash
  · exact fun _ _ hSame => absurd hSame hBackslash
  · exact fun hSame => absurd hSame hBackslash

/-
  What is written for a character is read as one part that
  stands for the character, and nothing else is read with it.
-/
theorem Escaped.exists_readParts
    {c : Char}
    {text : List Char}
    (hText : Escaped c text) :
    ∃ part, StandsFor part c ∧
      ∀ fuel rest,
        readParts (fuel + 1) (text ++ rest) =
          (readParts fuel rest).bind fun read =>
            some (part :: read.1, read.2) := by
  cases hText with
  | letter named =>
      exact ⟨.inl c, .char c, readParts_letter named⟩
  | code control =>
      refine ⟨.inr c.toNat, .code c control, ?_⟩
      intro fuel rest
      have hUnit :=
        hexUnit?_hexDigit (Nat.lt_trans control (by decide)) rest
      simp only [List.cons_append, List.nil_append, readParts, hUnit]
      rfl
  | plain notQuote notBackslash printable =>
      exact
        ⟨.inl c, .char c,
          readParts_plain notQuote notBackslash printable⟩

------------------------------------------------------------
-- Strings
------------------------------------------------------------

/-
  A reader takes exactly a text off the front, whatever follows
  it, and gives a result for it.
-/
def Reads
    {α : Type}
    (read : Reader α)
    (text : List Char)
    (result : α) : Prop :=
  ∀ rest, read (text ++ rest) = some (result, rest)

/- A code below those of surrogates is joined as its character. -/
theorem joinUnits?_code
    {n : Nat}
    (hBelow : n < 0xD800)
    (rest : List (Char ⊕ Nat)) :
    joinUnits? (.inr n :: rest) =
      (joinUnits? rest).map (Char.ofNat n :: ·) := by
  have hHigh : isHighSurrogate n = false := by
    rw [isHighSurrogate, decide_eq_false (Nat.not_le.mpr hBelow),
      Bool.false_and]
  have hLow : isLowSurrogate n = false := by
    rw [isLowSurrogate, decide_eq_false (by omega), Bool.false_and]
  cases rest with
  | nil => simp [joinUnits?, hHigh, hLow]
  | cons next rest =>
      cases next with
      | inl c =>
          conv_lhs => rw [joinUnits?, hHigh, hLow]
          rfl
      | inr low =>
          conv_lhs => rw [joinUnits?, hHigh, hLow]
          rfl

/- Parts that stand for characters are joined to these. -/
theorem joinUnits?_of_standsFor
    {parts : List (Char ⊕ Nat)}
    {chars : List Char}
    (hParts : List.Forall₂ StandsFor parts chars) :
    joinUnits? parts = some chars := by
  induction hParts with
  | nil => rfl
  | cons hPart _ ih =>
      cases hPart with
      | char c => rw [joinUnits?, ih, Option.map_some]
      | code c control =>
          rw [joinUnits?_code (Nat.lt_trans control (by decide)), ih,
            Option.map_some, Char.ofNat_toNat]

/- The characters of a string are read up to the closing quote. -/
theorem exists_readParts_flatMap
    (chars : List Char) :
    ∃ parts, List.Forall₂ StandsFor parts chars ∧
      ∀ fuel rest, chars.length < fuel →
        readParts fuel (chars.flatMap Raw.escape ++ '"' :: rest) =
          some (parts, rest) := by
  induction chars with
  | nil =>
      refine ⟨[], .nil, ?_⟩
      intro fuel rest hFuel
      cases fuel with
      | zero => cases hFuel
      | succ fuel => rfl
  | cons c chars ih =>
      rcases ih with ⟨parts, hParts, hRead⟩
      rcases (escaped_escape c).exists_readParts with
        ⟨part, hPart, hFirst⟩
      refine ⟨part :: parts, .cons hPart hParts, ?_⟩
      intro fuel rest hFuel
      cases fuel with
      | zero => cases hFuel
      | succ fuel =>
          rw [List.flatMap_cons, List.append_assoc, hFirst,
            hRead fuel rest (Nat.lt_of_succ_lt_succ hFuel)]
          rfl

/- A string is not written with fewer characters than it has. -/
theorem length_le_length_flatMap_escape
    (chars : List Char) :
    chars.length ≤ (chars.flatMap Raw.escape).length := by
  induction chars with
  | nil => exact Nat.le_refl 0
  | cons c chars ih =>
      have hFirst := (escaped_escape c).length_pos
      rw [List.flatMap_cons, List.length_append, List.length_cons]
      omega

/- A string is read back after its opening quote. -/
theorem readString_append
    (s : String)
    (rest : List Char) :
    readString (s.toList.flatMap Raw.escape ++ '"' :: rest) =
      some (some s, rest) := by
  rcases exists_readParts_flatMap s.toList with ⟨parts, hParts, hRead⟩
  have hFuel :
      s.toList.length <
        (s.toList.flatMap Raw.escape ++ '"' :: rest).length + 1 := by
    have hLength := length_le_length_flatMap_escape s.toList
    rw [List.length_append]
    omega
  rw [readString, hRead _ rest hFuel]
  simp only [Option.bind_eq_bind, Option.bind_some,
    joinUnits?_of_standsFor hParts, Option.map_some, String.ofList_toList]
  rfl

/- The characters of a string stand between quotes. -/
theorem toList_quote_append
    (s : String)
    (rest : List Char) :
    (Raw.quote s).toList ++ rest =
      '"' :: (s.toList.flatMap Raw.escape ++ '"' :: rest) := by
  unfold Raw.quote
  simp only [String.toList_append, String.toList_ofList,
    List.append_assoc]
  rfl

/- A string is read back as a value. -/
theorem reads_readValue_quote
    (fuel : Nat)
    (s : String) :
    Reads (readValue (fuel + 1)) (Raw.quote s).toList
      (.string (some s)) := by
  intro rest
  have hString := readString_append s rest
  rw [toList_quote_append]
  change
    (readString (s.toList.flatMap Raw.escape ++ '"' :: rest)).map
        (fun read => (JsonSyntax.string read.1, read.2)) =
      some (.string (some s), rest)
  rw [hString]
  rfl

------------------------------------------------------------
-- Lists
------------------------------------------------------------

/- A character that ends a list: it is no blank and no comma. -/
structure EndsList
    (close : Char) : Prop where
  notBlank : isBlank close = false
  notComma : close ≠ ','

/- A text starts with a character that is no blank and ends no list. -/
def Opens
    (close : Char)
    (text : List Char) : Prop :=
  ∃ c rest, text = c :: rest ∧ isBlank c = false ∧ c ≠ close

/- Nothing is skipped in front of another character than a blank. -/
theorem skipBlanks_cons
    {c : Char}
    (hOther : isBlank c = false)
    (rest : List Char) :
    skipBlanks (c :: rest) = c :: rest := by
  rw [skipBlanks, List.dropWhile_cons, if_neg (by simp [hOther])]

section Lists

variable {α : Type}
variable {element : Reader α}
variable {close : Char}
variable {texts : List (List Char)}
variable {results : List α}

/- The element in front of the end of a list is the last one. -/
theorem readElements_last
    (hClose : EndsList close)
    {text : List Char}
    {result : α}
    (hText : Reads element text result)
    (fuel : Nat)
    (rest : List Char) :
    readElements element close (fuel + 1) (text ++ close :: rest) =
      some ([result], rest) := by
  rw [readElements, hText]
  simp [skipBlanks_cons hClose.notBlank]

/- Behind an element and a comma there are other elements. -/
theorem readElements_next
    (hClose : EndsList close)
    {text : List Char}
    {result : α}
    (hText : Reads element text result)
    (fuel : Nat)
    (rest : List Char) :
    readElements element close (fuel + 1) (text ++ ',' :: rest) =
      (readElements element close fuel rest).bind fun read =>
        some (result :: read.1, read.2) := by
  have hComma : isBlank ',' = false := rfl
  rw [readElements, hText]
  simp only [Option.bind_eq_bind, Option.bind_some,
    skipBlanks_cons hComma, beq_iff_eq, hClose.notComma.symm, if_true,
    if_false]
  rfl

/- Elements with commas between them are read one after the other. -/
theorem readElements_intercalate
    (hClose : EndsList close)
    (hTexts : List.Forall₂ (Reads element) texts results)
    (hSome : texts ≠ [])
    {fuel : Nat}
    (hFuel : texts.length ≤ fuel)
    (rest : List Char) :
    readElements element close fuel
        ([','].intercalate texts ++ close :: rest) =
      some (results, rest) := by
  induction hTexts generalizing fuel with
  | nil => exact absurd rfl hSome
  | @cons text result others more hText hOthers ih =>
      cases fuel with
      | zero => cases hFuel
      | succ fuel =>
          cases hOthers with
          | nil =>
              rw [List.intercalate_singleton]
              exact readElements_last hClose hText fuel rest
          | cons hNext hRest =>
              rw [List.intercalate_cons_cons, List.append_assoc,
                List.append_assoc, List.singleton_append,
                readElements_next hClose hText,
                ih (List.cons_ne_nil _ _) (Nat.le_of_succ_le_succ hFuel)]
              rfl

/- Commas between elements leave room to count them. -/
theorem length_le_length_intercalate
    (texts : List (List Char)) :
    texts.length ≤ ([','].intercalate texts).length + 1 := by
  induction texts with
  | nil => exact Nat.zero_le _
  | cons text others ih =>
      cases others with
      | nil => exact Nat.succ_le_succ (Nat.zero_le _)
      | cons next others =>
          rw [List.intercalate_cons_cons, List.length_append,
            List.length_append, List.length_cons, List.length_singleton]
          omega

/- What is joined starts with the first element. -/
theorem opens_intercalate_append
    {text : List Char}
    (hOpens : Opens close text)
    (others : List (List Char))
    (rest : List Char) :
    Opens close ([','].intercalate (text :: others) ++ rest) := by
  rcases hOpens with ⟨c, front, rfl, hBlank, hOther⟩
  cases others with
  | nil =>
      rw [List.intercalate_singleton]
      exact ⟨c, front ++ rest, rfl, hBlank, hOther⟩
  | cons next others =>
      rw [List.intercalate_cons_cons, List.append_assoc,
        List.append_assoc]
      exact ⟨c, front ++ _, rfl, hBlank, hOther⟩

/- A list that does not end at once has elements. -/
theorem readList_of_opens
    {text : List Char}
    (hOpens : Opens close text) :
    readList element close text =
      readElements element close (text.length + 1) text := by
  rcases hOpens with ⟨c, rest, rfl, hBlank, hOther⟩
  rw [readList, skipBlanks_cons hBlank]
  simp only [beq_iff_eq, hOther, if_false]

/- A list of elements is read after its opening bracket. -/
theorem reads_readList
    (hClose : EndsList close)
    (hTexts : List.Forall₂ (Reads element) texts results)
    (hOpens : ∀ text ∈ texts, Opens close text) :
    Reads (readList element close) ([','].intercalate texts ++ [close])
      results := by
  intro rest
  rw [List.append_assoc, List.singleton_append]
  cases hTexts with
  | nil => simp [readList, skipBlanks_cons hClose.notBlank]
  | @cons text _ others _ hText hOthers =>
      have hFirst := hOpens text List.mem_cons_self
      rw [readList_of_opens
        (opens_intercalate_append hFirst others (close :: rest))]
      apply readElements_intercalate hClose (.cons hText hOthers)
        (List.cons_ne_nil _ _)
      have hLength := length_le_length_intercalate (text :: others)
      rw [List.length_append]
      omega

end Lists

------------------------------------------------------------
-- Objects of Texts
------------------------------------------------------------

/- A field is read as its key and its value. -/
theorem reads_readField
    {value : Reader JsonSyntax}
    {content : List Char}
    {tree : JsonSyntax}
    (hValue : Reads value content tree)
    (key : String) :
    Reads (readField value) ((Raw.quote key).toList ++ ':' :: content)
      (some key, tree) := by
  intro rest
  have hKey := readString_append key (':' :: (content ++ rest))
  have hColon : isBlank ':' = false := rfl
  have hQuote : isBlank '"' = false := rfl
  rw [List.append_assoc, List.cons_append, toList_quote_append, readField]
  simp only [skipBlanks_cons hQuote, hKey, Option.bind_eq_bind,
    Option.bind_some, skipBlanks_cons hColon, hValue rest]
  rfl

end JsonSyntax

/- Raw data that is an object of texts. -/
def Raw.ofTexts
    (fields : List (String × String)) : Raw :=
  .object (fields.map fun field => (field.1, .string field.2))

namespace JsonSyntax

/- The syntax tree of an object of texts. -/
def ofTexts
    (fields : List (String × String)) : JsonSyntax :=
  .object
    (fields.map fun field => (some field.1, .string (some field.2)))

/- The text of a field, its value being a text. -/
def fieldText
    (field : String × String) : List Char :=
  (Raw.quote field.1).toList ++ ':' :: (Raw.quote field.2).toList

/- The fields of an object of texts are written one by one. -/
theorem toList_write_ofTexts
    (fields : List (String × String)) :
    (Raw.ofTexts fields).write.toList =
      '\x7b' :: ([','].intercalate (fields.map fieldText) ++ ['\x7d']) := by
  have hFields :
      (Raw.writeFields
          (fields.map fun field => (field.1, .string field.2))).map
          String.toList =
        fields.map fieldText := by
    induction fields with
    | nil => rfl
    | cons field rest ih =>
        simp only [List.map_cons, Raw.writeFields, ih,
          String.toList_append, Raw.write, List.append_assoc]
        rfl
  rw [Raw.ofTexts, Raw.write]
  simp only [String.toList_append, String.toList_intercalate, hFields]
  rfl

/- An object of texts is read as its fields, each with its text. -/
theorem reads_readValue_ofTexts
    (fuel : Nat)
    (fields : List (String × String)) :
    Reads (readValue (fuel + 2)) (Raw.ofTexts fields).write.toList
      (ofTexts fields) := by
  intro rest
  have hClose : EndsList '\x7d' := ⟨rfl, by decide⟩
  have hEach :
      List.Forall₂ (Reads (readField (readValue (fuel + 1))))
        (fields.map fieldText)
        (fields.map fun field =>
          (some field.1, .string (some field.2))) := by
    rw [List.forall₂_map_left_iff, List.forall₂_map_right_iff,
      List.forall₂_same]
    intro field _
    exact reads_readField (reads_readValue_quote fuel field.2) field.1
  have hOpens : ∀ text ∈ fields.map fieldText, Opens '\x7d' text := by
    rw [List.forall_mem_map]
    intro field _
    rw [fieldText, toList_quote_append]
    exact ⟨'"', _, rfl, rfl, by decide⟩
  have hList := reads_readList hClose hEach hOpens rest
  rw [toList_write_ofTexts]
  change
    (readList (readField (readValue (fuel + 1))) '\x7d'
          ([','].intercalate (fields.map fieldText) ++ ['\x7d'] ++ rest)).map
        (fun read => (JsonSyntax.object read.1, read.2)) =
      some (ofTexts fields, rest)
  rw [hList]
  rfl

/- The text of an object of texts is read back. -/
theorem read?_write_ofTexts
    (fields : List (String × String)) :
    JsonSyntax.read? (Raw.ofTexts fields).write = some (ofTexts fields) := by
  have hLength : ∃ fuel,
      (Raw.ofTexts fields).write.toList.length + 1 = fuel + 2 := by
    rw [toList_write_ofTexts, List.length_cons]
    exact ⟨_, rfl⟩
  rcases hLength with ⟨fuel, hFuel⟩
  have hRead := reads_readValue_ofTexts fuel fields []
  rw [List.append_nil] at hRead
  rw [JsonSyntax.read?, hFuel, hRead]
  rfl

end JsonSyntax

end Intake
