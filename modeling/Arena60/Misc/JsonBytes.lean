import Arena60.Misc.JsonText
import Arena60.Misc.Utf8

/-!
# JSON in bytes

JSON is exchanged in UTF-8: bytes stand for a value when they are the UTF-8 form of a text that denotes it.
Bytes may stand between quotes as they are when they are UTF-8 and none of them is a quote, a backslash or a
control character.
-/

namespace Arena60.Misc

namespace Json

/-- The bytes of a string are JSON, and stand for a value. -/
def Conveys (s : String) (value : Json) : Prop := ∃ text, Decodes s text ∧ Denotes text value

theorem Conveys.unique {s : String} {value value' : Json} (conveys : Conveys s value)
    (conveys' : Conveys s value') : value = value' := by
  obtain ⟨text, decodes, denotes⟩ := conveys
  obtain ⟨text', decodes', denotes'⟩ := conveys'
  cases decodes.unique decodes'
  exact denotes.unique denotes'

/-- A byte that is no quote, backslash or control character. -/
def isPlainByte (byte : UInt8) : Bool := byte != 0x22 && byte != 0x5C && 0x20 ≤ byte

/-- Bytes that may stand between quotes as they are. -/
structure PlainBytes (bytes : List UInt8) : Prop where
  valid : ValidUtf8 bytes
  plain : ∀ byte ∈ bytes, isPlainByte byte = true

instance (bytes : List UInt8) : Decidable (PlainBytes bytes) :=
  decidable_of_iff (ValidUtf8 bytes ∧ bytes.all isPlainByte = true)
    ⟨fun ⟨valid, plain⟩ => ⟨valid, List.all_eq_true.mp plain⟩,
      fun plain => ⟨plain.valid, List.all_eq_true.mpr plain.plain⟩⟩

theorem isPlainByte_iff (byte : UInt8) :
    isPlainByte byte = true ↔ byte.toNat ≠ 0x22 ∧ byte.toNat ≠ 0x5C ∧ 0x20 ≤ byte.toNat := by
  rw [isPlainByte, Bool.and_eq_true, Bool.and_eq_true, bne_iff_ne, bne_iff_ne, decide_eq_true_iff, and_assoc, Ne, Ne,
    ← UInt8.toNat_inj, ← UInt8.toNat_inj, UInt8.le_iff_toNat_le]
  exact Iff.rfl

/-- A character stands for itself as far as its bytes do. -/
theorem isPlain_iff_bytes (c : Char) :
    isPlain c = true ↔ ∀ byte ∈ String.utf8EncodeChar c, isPlainByte byte = true := by
  have code : isPlain c = true ↔ c.toNat ≠ 0x22 ∧ c.toNat ≠ 0x5C ∧ 0x20 ≤ c.toNat := by
    rw [isPlain_iff, Ne, Ne, ← Char.toNat_inj, ← Char.toNat_inj]
    exact Iff.rfl
  cases narrow : isAscii c with
  | true =>
      rw [utf8EncodeChar_ascii narrow, List.forall_mem_singleton, isPlainByte_iff, byteOf_toNat narrow, code]
  | false =>
      have large : 128 ≤ c.toNat := Nat.le_of_not_lt (of_decide_eq_false narrow)
      refine iff_of_true (code.mpr ⟨by omega, by omega, by omega⟩) ?_
      intro byte member
      have wide := le_of_mem_utf8EncodeChar narrow byte member
      exact (isPlainByte_iff byte).mpr ⟨by omega, by omega, by omega⟩

theorem plain_iff_bytes (text : String) :
    Plain text.toList ↔ ∀ byte ∈ utf8 text, isPlainByte byte = true := by
  constructor
  · intro plain byte member
    obtain ⟨c, listed, inside⟩ := List.mem_flatMap.mp member
    exact (isPlain_iff_bytes c).mp (plain c listed) byte inside
  · intro plain c listed
    exact (isPlain_iff_bytes c).mpr fun byte inside => plain byte (List.mem_flatMap.mpr ⟨c, listed, inside⟩)

/-- The text that a string is decoded to may stand between quotes exactly when the bytes may. -/
theorem plainBytes_iff {s text : String} (decodes : Decodes s text) :
    PlainBytes (bytesOf s) ↔ Plain text.toList := by
  rw [plain_iff_bytes, decodes]
  exact ⟨PlainBytes.plain, fun plain => ⟨⟨text, decodes⟩, plain⟩⟩

-- two bytes that are one character of UTF-8, and one that is none
example : PlainBytes (bytesOf "\xc3\xa9") ∧ ¬PlainBytes (bytesOf "\xe9") := by decide +kernel

end Json

end Arena60.Misc
