import Mathlib.Data.List.Basic

/-!
# Hexadecimal texts

Transaction hashes and addresses are compared without regard to case.  Only
ASCII letters change case here: a text that names a hash or an address has no
others.
-/

namespace Hivra.Library

/-- `lower(text)`. -/
def lower (text : String) : String :=
  String.ofList (text.toList.map Char.toLower)

private theorem char_lower_lower (char : Char) : char.toLower.toLower = char.toLower := by
  delta Char.toLower
  split_ifs with outer inner
  · simp [UInt32.le_iff_toNat_le] at outer inner
    omega
  · rfl
  · rfl

@[simp]
theorem lower_lower (text : String) : lower (lower text) = lower text := by
  simp only [lower, String.toList_ofList, List.map_map]
  congr 1
  apply List.map_congr_left
  intro char _
  exact char_lower_lower char

/-- `btrim(text)`: the spaces at both ends taken off. -/
def btrim (text : String) : String :=
  String.ofList
    (((text.toList.dropWhile (· == ' ')).reverse.dropWhile (· == ' ')).reverse)

def isLowerHexDigit (char : Char) : Bool :=
  char.isDigit || ('a' ≤ char && char ≤ 'f')

/-- `text.trim()`: the white space at both ends taken off. -/
def trim (text : String) : String :=
  String.ofList
    (((text.toList.dropWhile Char.isWhitespace).reverse.dropWhile Char.isWhitespace).reverse)

/-- `text ~ '^0x[0-9a-f]{64}$'`. -/
def isTransactionHash (text : String) : Bool :=
  match text.toList with
  | '0' :: 'x' :: digits => digits.length == 64 && digits.all isLowerHexDigit
  | _ => false

/-- `text.includes(pattern)`. -/
def contains (pattern text : List Char) : Bool :=
  text.tails.any pattern.isPrefixOf

def isAscii (text : String) : Bool :=
  text.toList.all fun char => decide (char.toNat < 128)

/-- `toLowerCase` of a runtime: what it does outside ASCII is its own. -/
structure Casing where
  toLowerCase : String → String
  ascii : ∀ text, isAscii text = true → toLowerCase text = lower text

def Casing.asciiOnly : Casing :=
  { toLowerCase := lower, ascii := fun _ _ => rfl }

def isPlain (text : String) : Bool :=
  text.toList.all fun char => decide (char.toNat < 128) && char.toLower == char

theorem lower_plain {text : String} (plain : isPlain text = true) : lower text = text := by
  unfold isPlain at plain
  rw [List.all_eq_true] at plain
  have same : text.toList.map Char.toLower = text.toList.map id := by
    apply List.map_congr_left
    intro char member
    have both := plain char member
    rw [Bool.and_eq_true, beq_iff_eq] at both
    exact both.2
  rw [lower, same, List.map_id, String.ofList_toList]

theorem casing_plain (casing : Casing) {text : String} (plain : isPlain text = true) :
    casing.toLowerCase text = text := by
  rw [casing.ascii, lower_plain plain]
  unfold isPlain at plain
  unfold isAscii
  rw [List.all_eq_true] at plain ⊢
  intro char member
  have both := plain char member
  rw [Bool.and_eq_true] at both
  exact both.1

theorem plain_append {left right : String} (leftPlain : isPlain left = true)
    (rightPlain : isPlain right = true) : isPlain (left ++ right) = true := by
  unfold isPlain at leftPlain rightPlain ⊢
  rw [String.toList_append, List.all_append, leftPlain, rightPlain]
  rfl

theorem hex_digit_plain {char : Char} (digit : isLowerHexDigit char = true) :
    char.toNat < 128 ∧ char.toLower = char := by
  simp [isLowerHexDigit, Char.isDigit, Char.le_def, UInt32.le_iff_toNat_le] at digit
  have code : char.toNat = char.val.toNat := rfl
  constructor
  · omega
  · delta Char.toLower
    rw [dif_neg]
    simp [UInt32.le_iff_toNat_le]
    omega

end Hivra.Library
