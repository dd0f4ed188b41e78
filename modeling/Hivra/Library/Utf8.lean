import Mathlib.Data.List.Basic

/-!
# UTF-8 with replacement

Bytes that are no UTF-8 decode to the replacement character, so whatever decodes to ASCII is ASCII.
-/

namespace Hivra.Library

/-- A code point that is not complete: the bytes it misses, the range of the next one, and the bits
so far. -/
structure PartialPoint where
  missing : Nat
  least : Nat
  most : Nat
  bits : Nat

def replacementChar : Char := Char.ofNat 0xFFFD

def pointChar (point : Nat) : Char :=
  if point.isValidChar then Char.ofNat point else replacementChar

def leadByte (byte : UInt8) : Char ⊕ PartialPoint :=
  let lead := byte.toNat
  if lead < 0x80 then .inl (Char.ofNat lead)
  else if 0xC2 ≤ lead ∧ lead ≤ 0xDF then .inr ⟨1, 0x80, 0xBF, lead - 0xC0⟩
  else if 0xE0 ≤ lead ∧ lead ≤ 0xEF then
    .inr ⟨2, if lead = 0xE0 then 0xA0 else 0x80, if lead = 0xED then 0x9F else 0xBF, lead - 0xE0⟩
  else if 0xF0 ≤ lead ∧ lead ≤ 0xF4 then
    .inr ⟨3, if lead = 0xF0 then 0x90 else 0x80, if lead = 0xF4 then 0x8F else 0xBF, lead - 0xF0⟩
  else .inl replacementChar

def decodeUtf8 : Option PartialPoint → List UInt8 → List Char
  | none, [] => []
  | some _, [] => [replacementChar]
  | none, byte :: bytes =>
    match leadByte byte with
    | .inl char => char :: decodeUtf8 none bytes
    | .inr point => decodeUtf8 (some point) bytes
  | some point, byte :: bytes =>
    if point.least ≤ byte.toNat ∧ byte.toNat ≤ point.most then
      let bits := point.bits * 64 + (byte.toNat - 0x80)
      if point.missing = 1 then pointChar bits :: decodeUtf8 none bytes
      else decodeUtf8 (some ⟨point.missing - 1, 0x80, 0xBF, bits⟩) bytes
    else
      -- the code point breaks off, and the byte is read again
      replacementChar ::
        match leadByte byte with
        | .inl char => char :: decodeUtf8 none bytes
        | .inr next => decodeUtf8 (some next) bytes

def byteOrderMark : List UInt8 := [0xEF, 0xBB, 0xBF]

/-- `new TextDecoder().decode(bytes)`. -/
def decodeText (bytes : List UInt8) : List Char :=
  decodeUtf8 none (if byteOrderMark <+: bytes then bytes.drop 3 else bytes)

def asciiBytes (text : List Char) : List UInt8 := text.map fun char => char.toNat.toUInt8

def Ascii (text : List Char) : Prop := ∀ char ∈ text, char.toNat < 0x80

theorem decode_ascii {text : List Char} (ascii : Ascii text) :
    decodeUtf8 none (asciiBytes text) = text := by
  induction text with
  | nil => rfl
  | cons char text ih =>
    have ⟨first, rest⟩ := List.forall_mem_cons.mp ascii
    have same : char.toNat.toUInt8.toNat = char.toNat := by
      rw [Nat.toUInt8_eq, UInt8.toNat_ofNat']
      omega
    have lead : leadByte char.toNat.toUInt8 = .inl char := by
      simp [leadByte, same, first, Char.ofNat_toNat]
    have others : decodeUtf8 none (text.map fun char => char.toNat.toUInt8) = text := ih rest
    simp [asciiBytes, decodeUtf8, lead, others]

def PartialPoint.Wide (point : PartialPoint) : Prop :=
  0x80 ≤ point.least ∧ 1 ≤ point.missing ∧
    (2 ≤ point.bits ∨ 2 ≤ point.missing ∧ (1 ≤ point.bits ∨ 0x90 ≤ point.least))

theorem valid_point {point : Nat} (valid : point.isValidChar) : (Char.ofNat point).toNat = point := by
  rw [Char.ofNat, dif_pos valid]
  rfl

theorem replacement_wide : 0x80 ≤ replacementChar.toNat := by decide

theorem point_char_wide {point : Nat} (wide : 0x80 ≤ point) : 0x80 ≤ (pointChar point).toNat := by
  unfold pointChar
  split
  · rename_i valid
    rw [valid_point valid]
    exact wide
  · exact replacement_wide

theorem decode_wide {point : PartialPoint} (wide : point.Wide) (bytes : List UInt8) :
    ∃ char ∈ decodeUtf8 (some point) bytes, 0x80 ≤ char.toNat := by
  induction bytes generalizing point with
  | nil => exact ⟨replacementChar, List.mem_cons_self, replacement_wide⟩
  | cons byte bytes ih =>
    have ⟨least, missing, bits⟩ := wide
    unfold decodeUtf8
    split
    · rename_i within
      dsimp only
      split
      · exact ⟨_, List.mem_cons_self, point_char_wide (by omega)⟩
      · apply ih
        simp only [PartialPoint.Wide]
        omega
    · exact ⟨replacementChar, List.mem_cons_self, replacement_wide⟩

theorem lead_wide {byte : UInt8} {point : PartialPoint} (lead : leadByte byte = .inr point) :
    point.Wide := by
  unfold leadByte at lead
  dsimp only at lead
  split at lead
  · cases lead
  · split at lead
    · cases lead
      simp only [PartialPoint.Wide]
      omega
    · split at lead
      · cases lead
        simp only [PartialPoint.Wide]
        split <;> omega
      · split at lead
        · cases lead
          simp only [PartialPoint.Wide]
          split <;> omega
        · cases lead

theorem bytes_of_ascii {bytes : List UInt8} (ascii : Ascii (decodeUtf8 none bytes)) :
    bytes = asciiBytes (decodeUtf8 none bytes) := by
  induction bytes with
  | nil => rfl
  | cons byte bytes ih =>
    unfold decodeUtf8 at ascii ⊢
    cases lead : leadByte byte with
    | inr point =>
      rw [lead] at ascii
      have ⟨char, member, wide⟩ := decode_wide (lead_wide lead) bytes
      exact absurd (ascii char member) (by omega)
    | inl char =>
      rw [lead] at ascii
      have ⟨first, rest⟩ := List.forall_mem_cons.mp ascii
      have same : char = Char.ofNat byte.toNat ∧ byte.toNat < 0x80 := by
        unfold leadByte at lead
        dsimp only at lead
        split at lead
        · rename_i short
          cases lead
          exact ⟨rfl, short⟩
        · split at lead
          · cases lead
          · split at lead
            · cases lead
            · split at lead <;> cases lead
              exact absurd first (by decide)
      have own : char.toNat.toUInt8 = byte := by
        rw [same.1, valid_point (Or.inl (by omega))]
        simp
      dsimp only
      rw [asciiBytes, List.map_cons, own]
      exact congrArg (List.cons byte) (ih rest)

theorem decode_text_ascii {text : List Char} (ascii : Ascii text) :
    decodeText (asciiBytes text) = text := by
  unfold decodeText
  rw [if_neg, decode_ascii ascii]
  intro marked
  cases text with
  | nil => simp [byteOrderMark, asciiBytes] at marked
  | cons char text =>
    have first := ascii char List.mem_cons_self
    have mark := (List.cons_prefix_cons.mp marked).1
    have same := congrArg UInt8.toNat mark
    simp only [Nat.toUInt8_eq, UInt8.toNat_ofNat'] at same
    have mark : UInt8.toNat 239 = 239 := rfl
    omega

/-- Bytes that decode to as many ASCII characters are those characters. -/
theorem text_bytes {bytes : List UInt8} (ascii : Ascii (decodeText bytes))
    (long : bytes.length ≤ (decodeText bytes).length) : bytes = asciiBytes (decodeText bytes) := by
  have same := bytes_of_ascii ascii
  by_cases marked : byteOrderMark <+: bytes
  · rw [if_pos marked] at same
    have size := congrArg List.length same
    have mark := marked.length_le
    simp only [decodeText, if_pos marked] at long
    simp only [asciiBytes, List.length_map, List.length_drop] at size
    simp only [byteOrderMark, List.length_cons, List.length_nil] at mark
    omega
  · simpa only [decodeText, if_neg marked] using same

end Hivra.Library
