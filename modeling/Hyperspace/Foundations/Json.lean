import Hyperspace.Foundations.Decimals
import Mathlib.Data.Rat.Defs

/-!
# JSON values

A parsed JSON text. Numbers are rationals; the fields of an object are looked up by their name.
-/

namespace Hyperspace.Foundations

/-- A value of `JSON.parse`, with exact numbers and the fields of an object in order. -/
inductive Json where
  | null
  | bool (b : Bool)
  | num (n : ℚ)
  | str (s : String)
  | arr (items : List Json)
  | obj (fields : List (String × Json))

namespace Json

/-- The field of an object; `none` is JavaScript's `undefined`. -/
def field? : Json → String → Option Json
  | obj fields, name => (fields.find? fun f => f.1 = name).map (·.2)
  | null, _ | bool _, _ | num _, _ | str _, _ | arr _, _ => none

def isObj : Json → Bool
  | obj _ => true
  | null | bool _ | num _ | str _ | arr _ => false

/-- The value when it is an object, and the empty object otherwise. -/
def asRecord : Option Json → Json
  | some (obj fields) => obj fields
  | some null | some (bool _) | some (num _) | some (str _) | some (arr _) | none => obj []

/-- The white space that `String.prototype.trim` removes. -/
def isWhiteSpace (c : Char) : Bool :=
  c.toNat ∈ [0x9, 0xA, 0xB, 0xC, 0xD, 0x20, 0xA0, 0x1680, 0x2028, 0x2029, 0x202F, 0x205F, 0x3000,
    0xFEFF] || (0x2000 ≤ c.toNat && c.toNat ≤ 0x200A)

/-- `String.prototype.trim`. -/
def trim (s : String) : String :=
  String.ofList ((s.toList.dropWhile isWhiteSpace).reverse.dropWhile isWhiteSpace).reverse

theorem isWhiteSpace_of_printable {c : Char} (h : 0x20 < c.toNat) (h' : c.toNat < 0x7F) :
    isWhiteSpace c = false := by
  unfold isWhiteSpace
  simp
  omega

theorem isWhiteSpace_of_isDigit {c : Char} (h : c.isDigit = true) : isWhiteSpace c = false := by
  have hBounds := Decimals.toNat_of_isDigit h
  exact isWhiteSpace_of_printable (by omega) (by omega)

theorem mem_dropWhile_isWhiteSpace {s : List Char} {c : Char} (h : c ∈ s)
    (hc : isWhiteSpace c = false) : c ∈ s.dropWhile isWhiteSpace := by
  induction s with
  | nil => cases h
  | cons d rest ih =>
    rw [List.dropWhile_cons]
    split
    · rename_i hd
      cases h with
      | head => simp [hc] at hd
      | tail _ h => exact ih h
    · exact h

theorem mem_trim {s : String} {c : Char} (h : c ∈ s.toList) (hc : isWhiteSpace c = false) :
    c ∈ (trim s).toList := by
  unfold trim
  rw [String.toList_ofList, List.mem_reverse]
  apply mem_dropWhile_isWhiteSpace _ hc
  rw [List.mem_reverse]
  exact mem_dropWhile_isWhiteSpace h hc

theorem dropWhile_isWhiteSpace {s : List Char} (h : ∀ c ∈ s, isWhiteSpace c = false) :
    s.dropWhile isWhiteSpace = s := by
  cases s with
  | nil => rfl
  | cons c rest => simp [h c (by simp)]

theorem trim_eq_self {s : String} (h : ∀ c ∈ s.toList, isWhiteSpace c = false) : trim s = s := by
  have hReverse : ∀ c ∈ s.toList.reverse, isWhiteSpace c = false := by
    intro c hc
    exact h c (List.mem_reverse.1 hc)
  unfold trim
  rw [dropWhile_isWhiteSpace h, dropWhile_isWhiteSpace hReverse, List.reverse_reverse,
    String.ofList_toList]

/-- A text field without the white space around it; empty when there is none. -/
def readString (record : Json) (name : String) : String :=
  match record.field? name with
  | some (str s) => trim s
  | some null | some (bool _) | some (num _) | some (arr _) | some (obj _) | none => ""

/-- A character of a text as `JSON.stringify` writes it. -/
def escape (c : Char) : List Char :=
  match c.toNat with
  | 0x08 => "\\b".toList
  | 0x09 => "\\t".toList
  | 0x0A => "\\n".toList
  | 0x0C => "\\f".toList
  | 0x0D => "\\r".toList
  | 0x22 => "\\\"".toList
  | 0x5C => "\\\\".toList
  | code =>
    if code < 0x20 then
      "\\u00".toList ++ [Nat.digitChar (code / 16), Nat.digitChar (code % 16)]
    else [c]

/-- `JSON.stringify` of a text. -/
def quote (s : String) : String :=
  String.ofList ("\"".toList ++ s.toList.flatMap escape ++ "\"".toList)

end Json

end Hyperspace.Foundations
