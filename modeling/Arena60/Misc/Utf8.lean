import Mathlib.Data.List.Basic

/-!
# Bytes and texts

A string of a program that does not look into its characters is a string of bytes. The model keeps such a
string with one character for each byte. Whoever receives the bytes and takes them for UTF-8 reads a text
off them, or finds that there is none.
-/

namespace Arena60.Misc

/-- The byte a character of the model stands for. -/
def byteOf (c : Char) : UInt8 := UInt8.ofNat c.toNat

/-- The bytes of a string. -/
def bytesOf (s : String) : List UInt8 := s.toList.map byteOf

/-- The UTF-8 form of some characters. -/
def utf8Chars (text : List Char) : List UInt8 := text.flatMap String.utf8EncodeChar

/-- The UTF-8 form of a text. -/
def utf8 (text : String) : List UInt8 := utf8Chars text.toList

/-- Some bytes are the UTF-8 form of a text. -/
def ValidUtf8 (bytes : List UInt8) : Prop := ∃ text, utf8 text = bytes

/-- The bytes of a string, taken for UTF-8, are a text. -/
def Decodes (s text : String) : Prop := utf8 text = bytesOf s

theorem byteOf_ofUInt8 (byte : UInt8) : byteOf (Char.ofUInt8 byte) = byte := by
  have code : (Char.ofUInt8 byte).toNat = byte.toNat := UInt8.toNat_toUInt32 byte
  rw [byteOf, code, UInt8.ofNat_toNat]

/-- Every string of bytes is kept so. -/
theorem bytesOf_surjective : Function.Surjective bytesOf := by
  intro bytes
  refine ⟨String.ofList (bytes.map Char.ofUInt8), ?_⟩
  rw [bytesOf, String.toList_ofList, List.map_map]
  exact (List.map_congr_left fun byte _ => byteOf_ofUInt8 byte).trans (List.map_id bytes)

theorem bytesOf_append (s s' : String) : bytesOf (s ++ s') = bytesOf s ++ bytesOf s' := by
  rw [bytesOf, String.toList_append, List.map_append, bytesOf, bytesOf]

theorem utf8Chars_cons (c : Char) (text : List Char) :
    utf8Chars (c :: text) = String.utf8EncodeChar c ++ utf8Chars text := rfl

theorem utf8_append (text text' : String) : utf8 (text ++ text') = utf8 text ++ utf8 text' := by
  rw [utf8, String.toList_append, utf8Chars, List.flatMap_append]
  rfl

/-- A text is known by its UTF-8 form. -/
theorem utf8_injective : Function.Injective utf8 := by
  intro text text' same
  have encoded : text.toList.utf8Encode = text'.toList.utf8Encode := congrArg List.toByteArray same
  rw [← String.toByteArray_ofList, ← String.toByteArray_ofList, String.ofList_toList, String.ofList_toList] at encoded
  exact String.toByteArray_inj.mp encoded

theorem validUtf8_iff (bytes : List UInt8) : ValidUtf8 bytes ↔ bytes.toByteArray.IsValidUTF8 := by
  constructor
  · rintro ⟨text, rfl⟩
    exact ⟨text.toList, rfl⟩
  · rintro ⟨chars, same⟩
    refine ⟨String.ofList chars, ?_⟩
    rw [utf8, String.toList_ofList]
    have data := congrArg ByteArray.data same
    simpa [List.utf8Encode, utf8Chars] using data.symm

instance (bytes : List UInt8) : Decidable (ValidUtf8 bytes) := decidable_of_iff' _ (validUtf8_iff bytes)

theorem Decodes.unique {s text text' : String} (decodes : Decodes s text) (decodes' : Decodes s text') :
    text = text' := utf8_injective (decodes.trans decodes'.symm)

theorem Decodes.append {s s' text text' : String} (decodes : Decodes s text) (decodes' : Decodes s' text') :
    Decodes (s ++ s') (text ++ text') := by
  rw [Decodes, utf8_append, decodes, decodes', bytesOf_append]

/-! ## Characters of one byte -/

/-- A character is one of ASCII. -/
def isAscii (c : Char) : Bool := c.toNat < 128

/-- All characters of a string are of ASCII. -/
def Ascii (s : String) : Prop := ∀ c ∈ s.toList, isAscii c = true

theorem Ascii.append {s s' : String} (ascii : Ascii s) (ascii' : Ascii s') : Ascii (s ++ s') := by
  intro c member
  rw [String.toList_append] at member
  rcases List.mem_append.mp member with front | back
  · exact ascii c front
  · exact ascii' c back

theorem utf8EncodeChar_ascii {c : Char} (ascii : isAscii c = true) : String.utf8EncodeChar c = [byteOf c] := by
  have small : c.val.toNat ≤ 0x7f := Nat.le_of_lt_succ (of_decide_eq_true ascii)
  unfold String.utf8EncodeChar
  dsimp only
  rw [if_pos small]
  rfl

/-- The bytes of any other character are none of ASCII. -/
theorem le_of_mem_utf8EncodeChar {c : Char} (wide : isAscii c = false) :
    ∀ byte ∈ String.utf8EncodeChar c, 128 ≤ byte.toNat := by
  have large : ¬c.val.toNat ≤ 0x7f := fun small => of_decide_eq_false wide (Nat.lt_succ_of_le small)
  intro byte member
  unfold String.utf8EncodeChar at member
  dsimp only at member
  rw [if_neg large] at member
  split_ifs at member
  all_goals
    simp only [List.mem_cons, List.not_mem_nil, or_false] at member
    rcases member with rfl | rfl | rfl | rfl <;> rw [UInt8.toNat_ofNat'] <;> omega

/-- A byte of ASCII is a character on its own, and parts the text there. -/
theorem split_at_ascii {byte : UInt8} (ascii : byte.toNat < 128) {back : List UInt8} :
    ∀ {chars : List Char} {front : List UInt8}, utf8Chars chars = front ++ byte :: back →
      ∃ before c after, chars = before ++ c :: after ∧ utf8Chars before = front ∧
        isAscii c = true ∧ byteOf c = byte ∧ utf8Chars after = back
  | [], front, encoded => absurd encoded.symm (List.append_ne_nil_of_right_ne_nil front (List.cons_ne_nil _ _))
  | c :: chars, front, encoded => by
      rw [utf8Chars_cons] at encoded
      have later : ∀ front' : List UInt8, front = String.utf8EncodeChar c ++ front' →
          utf8Chars chars = front' ++ byte :: back → ∃ before c' after, c :: chars = before ++ c' :: after ∧
            utf8Chars before = front ∧ isAscii c' = true ∧ byteOf c' = byte ∧ utf8Chars after = back := by
        rintro front' rfl rest
        obtain ⟨before, c', after, rfl, encodedBefore, others⟩ := split_at_ascii ascii rest
        refine ⟨c :: before, c', after, rfl, ?_, others⟩
        rw [utf8Chars_cons, encodedBefore]
      rcases List.append_eq_append_iff.mp encoded with ⟨front', same, rest⟩ | ⟨inside, same, rest⟩
      · exact later front' same rest
      · cases inside with
        | nil =>
            rw [List.append_nil] at same
            exact later [] (by rw [same, List.append_nil]) rest.symm
        | cons first inside =>
            obtain ⟨rfl, rfl⟩ := List.cons_eq_cons.mp rest
            -- the byte is one of the first character, which therefore has no other
            have member : byte ∈ String.utf8EncodeChar c := by
              rw [same]
              exact List.mem_append_right front List.mem_cons_self
            have narrow : isAscii c = true := by
              by_contra wide
              exact absurd (le_of_mem_utf8EncodeChar (Bool.eq_false_iff.mpr wide) byte member)
                (Nat.not_le_of_lt ascii)
            rw [utf8EncodeChar_ascii narrow] at same
            cases front with
            | nil =>
                obtain ⟨same, nothing⟩ := List.cons_eq_cons.mp same
                rw [← nothing]
                exact ⟨[], c, chars, rfl, rfl, narrow, same, rfl⟩
            | cons second front => simp at same

theorem byteOf_toNat {c : Char} (ascii : isAscii c = true) : (byteOf c).toNat = c.toNat := by
  have small : c.toNat < 128 := of_decide_eq_true ascii
  rw [byteOf, UInt8.toNat_ofNat', Nat.mod_eq_of_lt (Nat.lt_trans small (by decide))]

theorem byteOf_injective {c c' : Char} (ascii : isAscii c = true) (ascii' : isAscii c' = true)
    (same : byteOf c = byteOf c') : c = c' := by
  have code := congrArg UInt8.toNat same
  rw [byteOf_toNat ascii, byteOf_toNat ascii'] at code
  exact Char.toNat_inj.mp code

theorem utf8Chars_ascii {chars : List Char} (ascii : ∀ c ∈ chars, isAscii c = true) :
    utf8Chars chars = chars.map byteOf := by
  induction chars with
  | nil => rfl
  | cons c chars ih =>
      rw [utf8Chars_cons, utf8EncodeChar_ascii (ascii c List.mem_cons_self),
        ih fun other member => ascii other (List.mem_cons_of_mem c member)]
      rfl

/-- A string of ASCII is the text that it stands for. -/
theorem Ascii.decodes {s : String} (ascii : Ascii s) : Decodes s s := utf8Chars_ascii ascii

theorem utf8Chars_eq_nil {chars : List Char} (encoded : utf8Chars chars = []) : chars = [] := by
  cases chars with
  | nil => rfl
  | cons c chars => exact absurd (List.append_eq_nil_iff.mp encoded).1 String.utf8EncodeChar_ne_nil

theorem drop_ascii {back : List UInt8} {front : List Char} (ascii : ∀ c ∈ front, isAscii c = true) :
    ∀ {chars : List Char}, utf8Chars chars = front.map byteOf ++ back →
      ∃ after, chars = front ++ after ∧ utf8Chars after = back := by
  induction front with
  | nil => exact fun encoded => ⟨_, rfl, encoded⟩
  | cons c front ih =>
      intro chars encoded
      have narrow := ascii c List.mem_cons_self
      have small : (byteOf c).toNat < 128 := by
        rw [byteOf_toNat narrow]
        exact of_decide_eq_true narrow
      have first : utf8Chars chars = [] ++ byteOf c :: (front.map byteOf ++ back) := encoded
      obtain ⟨before, c', after, rfl, nothing, narrow', same, rest⟩ := split_at_ascii small first
      obtain ⟨after, rfl, encoded'⟩ := ih (fun other member => ascii other (List.mem_cons_of_mem c member)) rest
      rw [utf8Chars_eq_nil nothing, byteOf_injective narrow' narrow same]
      exact ⟨after, rfl, encoded'⟩

/-- What follows a string of ASCII is read on its own. -/
theorem Decodes.of_ascii_append {s s' text : String} (ascii : Ascii s) (decodes : Decodes (s ++ s') text) :
    ∃ text', text = s ++ text' ∧ Decodes s' text' := by
  rw [Decodes, bytesOf_append] at decodes
  obtain ⟨after, split, encoded⟩ := drop_ascii ascii decodes
  refine ⟨String.ofList after, ?_, ?_⟩
  · rw [← String.toList_inj, String.toList_append, String.toList_ofList, split]
  · rw [Decodes, utf8, String.toList_ofList, encoded]

/-- What is before a character of ASCII is read on its own. -/
theorem Decodes.of_append_ascii {s s' text : String} {c : Char} {more : List Char} (front : s'.toList = c :: more)
    (ascii : isAscii c = true) (decodes : Decodes (s ++ s') text) :
    ∃ text' text'', text = text' ++ text'' ∧ Decodes s text' ∧ Decodes s' text'' := by
  have small : (byteOf c).toNat < 128 := by
    rw [byteOf_toNat ascii]
    exact of_decide_eq_true ascii
  rw [Decodes, bytesOf_append, bytesOf, bytesOf, front, List.map_cons] at decodes
  obtain ⟨before, c', after, split, encodedBefore, narrow, same, encodedAfter⟩ := split_at_ascii small decodes
  refine ⟨String.ofList before, String.ofList (c' :: after), ?_, ?_, ?_⟩
  · rw [← String.toList_inj, String.toList_append, String.toList_ofList, String.toList_ofList, split]
  · rw [Decodes, utf8, String.toList_ofList, encodedBefore, bytesOf]
  · rw [Decodes, utf8, String.toList_ofList, utf8Chars_cons, encodedAfter, utf8EncodeChar_ascii narrow, same, bytesOf,
      front]
    rfl

end Arena60.Misc
