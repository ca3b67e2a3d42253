import Mathlib.Data.List.Basic

/-!
# HTML as a reader sees it

Text that is escaped for HTML, and a reader of tags, entities and characters. What is escaped reads
as its own characters, so that no text opens a tag.
-/

namespace Hyperspace.Foundations.Html

/-- What a reader makes of a document: characters, and tags with all that stands in them. -/
inductive Token where
  | char (c : Char)
  | tag (name : List Char)
  deriving DecidableEq

/-- A character as text. -/
def escapeChar : Char → List Char
  | '&' => "&amp;".toList
  | '<' => "&lt;".toList
  | '>' => "&gt;".toList
  | '"' => "&quot;".toList
  | '\'' => "&#39;".toList
  | c => [c]

def escape (s : List Char) : List Char := s.flatMap escapeChar

/-- The entities that `escape` writes. -/
def entity? (name : List Char) : Option Char :=
  if name = "amp".toList then some '&'
  else if name = "lt".toList then some '<'
  else if name = "gt".toList then some '>'
  else if name = "quot".toList then some '"'
  else if name = "#39".toList then some '\''
  else none

/-- Where the reader is, with what it has read of a tag or an entity. -/
inductive Mode where
  | text
  | tag (name : List Char)
  | entity (name : List Char)

/-- `none` where a tag or an entity does not end, or the entity is unknown. -/
def read : Mode → List Char → Option (List Token)
  | .text, [] => some []
  | .tag _, [] | .entity _, [] => none
  | .text, c :: s =>
    if c = '<' then read (.tag []) s
    else if c = '&' then read (.entity []) s
    else (read .text s).map (.char c :: ·)
  | .tag name, c :: s =>
    if c = '>' then (read .text s).map (.tag name :: ·) else read (.tag (name ++ [c])) s
  | .entity name, c :: s =>
    if c = ';' then
      match entity? name with
      | some d => (read .text s).map (.char d :: ·)
      | none => none
    else read (.entity (name ++ [c])) s

variable {c : Char} {s rest : List Char}

theorem read_escapeChar :
    read .text (escapeChar c ++ rest) = (read .text rest).map (.char c :: ·) := by
  unfold escapeChar
  split
  · rfl
  · rfl
  · rfl
  · rfl
  · rfl
  · rename_i hAmp hLt _ _ _
    rw [List.singleton_append, read, if_neg hLt, if_neg hAmp]

/-- Escaped text reads as its characters, where every character may be written in its own way. -/
theorem read_flatMap {write : Char → List Char} {token : Char → Token}
    (h : ∀ c rest, read .text (write c ++ rest) = (read .text rest).map (token c :: ·)) :
    read .text (s.flatMap write ++ rest) = (read .text rest).map (s.map token ++ ·) := by
  induction s with
  | nil => simp
  | cons c s ih =>
      rw [List.flatMap_cons, List.append_assoc, h, ih, Option.map_map]
      rfl

theorem read_tag_append {name before : List Char} (h : '>' ∉ name) :
    read (.tag before) (name ++ '>' :: rest) =
      (read .text rest).map (.tag (before ++ name) :: ·) := by
  induction name generalizing before with
  | nil => simp [read]
  | cons c name ih =>
      rw [List.mem_cons, not_or] at h
      rw [List.cons_append, read, if_neg (Ne.symm h.1), ih h.2, List.append_assoc,
        List.singleton_append]

theorem read_tag {name : List Char} (h : '>' ∉ name) :
    read .text ('<' :: (name ++ '>' :: rest)) = (read .text rest).map (.tag name :: ·) := by
  rw [read, if_pos rfl, read_tag_append h, List.nil_append]

end Hyperspace.Foundations.Html
