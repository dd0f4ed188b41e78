import Mathlib.Algebra.GroupWithZero.Nat
import Mathlib.Data.Rat.Defs
import Mathlib.Data.List.Basic

/-!
# JSON values

The values a JSON parser yields, with the reads of an untyped record a program
makes of them: a member that is absent is `none`, a number is its rational value,
and the integer tests of a double-precision runtime.  `stringify` is the compact
rendering; a number carries the text it renders to, since that is the one thing
about it the value does not determine here.
-/

namespace Hivra.Library

inductive Json
  | null
  | bool (value : Bool)
  | number (value : Rat) (text : String)
  | string (text : String)
  | array (items : List Json)
  | object (members : List (String × Json))

namespace Json

/-- The largest integer below which doubles are exact: `2 ^ 53 - 1`. -/
def maxSafeInteger : Nat := 9007199254740991

def ofNat (value : Nat) : Json := .number (value : Rat) (toString value)

/-- `record[key]`; a value that is not a record has no members. -/
def member? (key : String) : Json → Option Json
  | .object members => (members.find? fun entry => entry.1 == key).map Prod.snd
  | _ => none

theorem member_object (key : String) (members : List (String × Json)) :
    (object members).member? key =
      (members.find? fun entry => entry.1 == key).map Prod.snd := rfl

def isRecord : Json → Bool
  | .object _ => true
  | _ => false

/-- `typeof value === "object"` of a value that is not null. -/
def isObject : Json → Bool
  | .object _ => true
  | .array _ => true
  | _ => false

def number? : Json → Option Rat
  | .number value _ => some value
  | _ => none

/-- The value of a whole number: `Number.isInteger`. -/
def integer? : Json → Option Int
  | .number value _ => if value.den = 1 then some value.num else none
  | _ => none

/-- The value of a whole number in the exact range: `Number.isSafeInteger`. -/
def safeInteger? (value : Json) : Option Int :=
  match value.integer? with
  | some whole => if whole.natAbs ≤ maxSafeInteger then some whole else none
  | none => none

@[simp]
theorem integer_of_nat (value : Nat) : (ofNat value).integer? = some (value : Int) := by
  simp [ofNat, integer?]

@[simp]
theorem number_of_nat (value : Nat) : (ofNat value).number? = some (value : Rat) := rfl

theorem safe_integer_of_nat (value : Nat) : (ofNat value).safeInteger? =
      if value ≤ maxSafeInteger then some (value : Int) else none := by
  simp [safeInteger?]

/-- Set members of a record, `{ ...record, ...patch }`: a member that exists keeps
its place, a new one comes last. -/
def setMember (key : String) (value : Json) : List (String × Json) → List (String × Json)
  | [] => [(key, value)]
  | entry :: members =>
    if entry.1 == key then (key, value) :: members
    else entry :: setMember key value members

theorem find_set_member (key other : String) (value : Json) (members : List (String × Json)) :
    ((setMember key value members).find? fun entry => entry.1 == other).map Prod.snd =
      if other = key then some value
      else (members.find? fun entry => entry.1 == other).map Prod.snd := by
  induction members with
  | nil =>
    by_cases same : other = key
    · simp [setMember, same]
    · have apart : ¬ key = other := fun h => same h.symm
      simp [setMember, same, apart]
  | cons entry members ih =>
    by_cases here : entry.1 = key
    · by_cases same : other = key
      · simp [setMember, here, same]
      · have apart : ¬ key = other := fun h => same h.symm
        simp [setMember, here, same, apart]
    · by_cases found : entry.1 = other
      · have apart : ¬ other = key := fun h => here (found.trans h)
        simp [setMember, found, apart]
      · simp only [setMember, beq_iff_eq, here, if_false, List.find?_cons, ih,
          beq_eq_false_iff_ne.mpr found]

/-- `{ ...record, [key]: undefined }`: to every reader the member is gone. -/
def eraseMember (key : String) (members : List (String × Json)) : List (String × Json) :=
  members.filter fun entry => entry.1 != key

theorem find_erase_member (key other : String) (members : List (String × Json)) :
    ((eraseMember key members).find? fun entry => entry.1 == other).map Prod.snd =
      if other = key then none
      else (members.find? fun entry => entry.1 == other).map Prod.snd := by
  induction members with
  | nil => simp [eraseMember]
  | cons entry members ih =>
    rw [eraseMember] at ih ⊢
    by_cases here : entry.1 = key
    · by_cases same : other = key
      · simp [same]
      · have apart : ¬ key = other := fun h => same h.symm
        simpa [here, same, apart] using ih
    · by_cases found : entry.1 = other
      · have apart : ¬ other = key := fun h => here (found.trans h)
        simp [found, apart]
      · simpa [here, found] using ih

/-- `record[key] = value`, of a record. -/
def set (record : Json) (key : String) (value : Json) : Json :=
  match record with
  | .object members => .object (setMember key value members)
  | other => other

def erase (key : String) : Json → Json
  | .object members => .object (eraseMember key members)
  | other => other

theorem member_set {record : Json} (isRecord : record.isRecord = true) (key other : String)
    (value : Json) : (record.set key value).member? other =
      if other = key then some value else record.member? other := by
  cases record with
  | object members => exact find_set_member key other value members
  | _ => cases isRecord

theorem member_erase (record : Json) (key other : String) :
    (record.erase key).member? other = if other = key then none else record.member? other := by
  cases record with
  | object members => exact find_erase_member key other members
  | _ => simp [erase, member?]

@[simp]
theorem is_record_set (record : Json) (key : String) (value : Json) :
    (record.set key value).isRecord = record.isRecord := by
  cases record <;> rfl

def hexDigit (value : Nat) : Char :=
  if value < 10 then Char.ofNat ('0'.toNat + value) else Char.ofNat ('a'.toNat + (value - 10))

def quoteMark : Char := Char.ofNat 34

def backslash : Char := Char.ofNat 92

def escapeChar (char : Char) : List Char :=
  let code := char.toNat
  if code = 34 then [backslash, quoteMark]
  else if code = 92 then [backslash, backslash]
  else if code = 8 then [backslash, 'b']
  else if code = 9 then [backslash, 't']
  else if code = 10 then [backslash, 'n']
  else if code = 12 then [backslash, 'f']
  else if code = 13 then [backslash, 'r']
  else if code < 32 then [backslash, 'u', '0', '0', hexDigit (code / 16), hexDigit (code % 16)]
  else [char]

def quote (text : String) : List Char :=
  quoteMark :: (text.toList.flatMap escapeChar ++ [quoteMark])

mutual

/-- `JSON.stringify` without spacing, as characters. -/
def stringify : Json → List Char
  | .null => ['n', 'u', 'l', 'l']
  | .bool true => ['t', 'r', 'u', 'e']
  | .bool false => ['f', 'a', 'l', 's', 'e']
  | .number _ text => text.toList
  | .string text => quote text
  | .array items => '[' :: (stringifyItems items ++ [']'])
  | .object members => Char.ofNat 123 :: (stringifyMembers members ++ [Char.ofNat 125])

def stringifyItems : List Json → List Char
  | [] => []
  | [item] => stringify item
  | item :: next :: items => stringify item ++ ',' :: stringifyItems (next :: items)

def stringifyMembers : List (String × Json) → List Char
  | [] => []
  | [(key, value)] => quote key ++ ':' :: stringify value
  | (key, value) :: next :: members =>
    quote key ++ ':' :: (stringify value ++ ',' :: stringifyMembers (next :: members))

end

def isNull : Json → Bool
  | .null => true
  | _ => false

mutual

/-- `String(value)`: the items of an array are joined by commas, a null item is
empty. -/
def text : Json → List Char
  | .null => stringify .null
  | .bool value => stringify (.bool value)
  | .number value text => stringify (.number value text)
  | .string value => value.toList
  | .array items => [','].intercalate (textItems items)
  | .object _ => "[object Object]".toList

def textItems : List Json → List (List Char)
  | [] => []
  | item :: items => (if item.isNull then [] else text item) :: textItems items

end

end Json

def utf16Units (char : Char) : Nat :=
  if char.toNat < 0x10000 then 1 else 2

def utf16Length (text : List Char) : Nat :=
  (text.map utf16Units).sum

end Hivra.Library
