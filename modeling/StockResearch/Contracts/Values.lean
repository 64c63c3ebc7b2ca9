import Mathlib.Algebra.GroupWithZero.Nat
import Mathlib.Data.Rat.Defs
import Mathlib.Tactic.Common

/-!
# Python values

The values a parser hands over, and the JSON values a contract holds. A Python string is
a list of code points and may hold lone surrogates, which no Unicode text does; only
texts without them pass into a contract.

- `PyStr`, `PyStr.decode?`: strings, and the Unicode text of one.
- `JsonValue`: the value of a field that may hold any JSON.
- `PyValue`, `PyValue.within`: a parsed value and all values inside it.
-/

namespace StockResearch.Contracts

/-! ## Strings -/

/-- A Python `str`: any code points, surrogates included. -/
abbrev PyStr := List (Fin 0x110000)

namespace PyStr

/-- A code point that is a character. -/
def toChar? (c : Fin 0x110000) : Option Char :=
  if c.val.isValidChar then some (Char.ofNat c.val) else none

/-- The Unicode text of a string without surrogates. -/
def decode? (s : PyStr) : Option String := (s.mapM toChar?).map String.ofList

/-- The code point of a character. -/
def ofChar (c : Char) : Fin 0x110000 :=
  ⟨c.toNat, by
    have h := c.valid
    rcases h with h | h
    · exact Nat.lt_trans h (by decide)
    · exact h.2⟩

/-- A Unicode text as a string. -/
def ofString (text : String) : PyStr := text.toList.map ofChar

theorem toChar?_ofChar (c : Char) : toChar? (ofChar c) = some c := by
  have hvalid : c.toNat.isValidChar := c.valid
  have hchar : Char.ofNat c.toNat = c := Char.ofNat_toNat c
  simp only [toChar?, ofChar, if_pos hvalid, hchar]

@[simp] theorem decode?_ofString (text : String) : decode? (ofString text) = some text := by
  have hmap : ∀ cs : List Char, (cs.map ofChar).mapM toChar? = some cs := by
    intro cs
    induction cs with
    | nil => rfl
    | cons c cs ih => simp [List.mapM_cons, toChar?_ofChar, ih]
  simp [decode?, ofString, hmap]

/-- The bytes a code point takes in UTF-8; a surrogate has no encoding. -/
def utf8Size (c : Fin 0x110000) : Nat :=
  if c.val < 0x80 then 1 else if c.val < 0x800 then 2 else if c.val < 0x10000 then 3 else 4

/-- `len(text.encode("utf-8"))`; none is its `UnicodeEncodeError`. -/
def encodedLength (s : PyStr) : Option Nat :=
  s.decode?.map fun _ => (s.map utf8Size).sum

/-- `value.replace(old, new)`, for one code point. -/
def replace (s : PyStr) (old : Char) (new : String) : PyStr :=
  s.flatMap fun c => if c = ofChar old then ofString new else [c]

/-- `value.removeprefix(text)` -/
def removePrefix (s : PyStr) (text : String) : PyStr :=
  if (ofString text).isPrefixOf s then s.drop (ofString text).length else s

end PyStr

/-! ## Numbers -/

/-- A `float`: the fraction a finite one denotes, or one of the three that are not
finite. -/
inductive PyFloat where
  | finite (value : ℚ)
  | nan
  | inf
  | negInf
deriving DecidableEq

/-- `math.isfinite` -/
def PyFloat.isFinite : PyFloat → Bool
  | finite _ => true
  | _ => false

/-! ## JSON values -/

/-- `JsonValue` -/
inductive JsonValue where
  | null
  | bool (value : Bool)
  | int (value : Int)
  | float (value : PyFloat)
  | str (value : PyStr)
  | list (items : List JsonValue)
  | dict (entries : List (PyStr × JsonValue))

namespace JsonValue

/-- `value is None` -/
def isNone : JsonValue → Bool
  | null => true
  | _ => false

mutual

/-- Every string in the value is Unicode text. -/
def isText : JsonValue → Bool
  | null => true
  | bool _ => true
  | int _ => true
  | float _ => true
  | str value => value.decode?.isSome
  | list items => itemsAreText items
  | dict entries => entriesAreText entries

/-- So is every string in a list. -/
def itemsAreText : List JsonValue → Bool
  | [] => true
  | item :: items => item.isText && itemsAreText items

/-- So is every key and every string in a mapping. -/
def entriesAreText : List (PyStr × JsonValue) → Bool
  | [] => true
  | (key, value) :: entries => key.decode?.isSome && value.isText && entriesAreText entries

end

end JsonValue

/-! ## Parsed values -/

/-- A value a JSON or YAML parser returns. A YAML document may also hold dates and times,
which stand for every other type that hashes. -/
inductive PyValue where
  | none
  | bool (value : Bool)
  | int (value : Int)
  | float (value : PyFloat)
  | str (value : PyStr)
  | datetime (isoformat : String)
  | list (items : List PyValue)
  | dict (entries : List (PyValue × PyValue))

namespace PyValue

/-- A value that may be the key of a `dict`. -/
def hashable : PyValue → Bool
  | list _ => false
  | dict _ => false
  | _ => true

/-- The number a value equals, if it equals one: `True` is `1` and `1.0`. -/
def number? : PyValue → Option ℚ
  | bool value => some (if value then 1 else 0)
  | int value => some value
  | float (.finite value) => some value
  | _ => Option.none

/-- `a is b or a == b`, as `in` compares keys. A loader that is given no tags reads every
`.nan` as one object. -/
def keyEq (a b : PyValue) : Bool :=
  match a, b with
  | none, none => true
  | str s, str t => s = t
  | datetime s, datetime t => s = t
  | float .nan, float .nan => true
  | float .inf, float .inf => true
  | float .negInf, float .negInf => true
  | a, b => a.number?.isSome && a.number? = b.number?

mutual

/-- The value and every value inside it, each with how deep it lies. -/
def within (depth : Nat) : PyValue → List (Nat × PyValue)
  | none => [(depth, none)]
  | bool value => [(depth, bool value)]
  | int value => [(depth, int value)]
  | float value => [(depth, float value)]
  | str value => [(depth, str value)]
  | datetime isoformat => [(depth, datetime isoformat)]
  | list items => (depth, list items) :: itemsWithin (depth + 1) items
  | dict entries => (depth, dict entries) :: entriesWithin (depth + 1) entries

/-- The values inside the items of a list. -/
def itemsWithin (depth : Nat) : List PyValue → List (Nat × PyValue)
  | [] => []
  | item :: items => item.within depth ++ itemsWithin depth items

/-- The values inside the values of a mapping. -/
def entriesWithin (depth : Nat) : List (PyValue × PyValue) → List (Nat × PyValue)
  | [] => []
  | (_, value) :: entries => value.within depth ++ entriesWithin depth entries

end

end PyValue

end StockResearch.Contracts
