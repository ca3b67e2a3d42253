import Hyperspace.Foundations.Maps
import Hyperspace.Gate.Recovery
import Mathlib.Data.List.DropRight

/-!
# The table that `doublezero status` prints

The gate agent reads the state of its tunnel from a table of two lines: the names of the columns,
and below them the cells of one row. Both lines are split at the bars, and a name is paired with the
cell at the same place.
-/

namespace Hyperspace.Gate

open Hyperspace.Foundations

/-- `strings.Split`. -/
def split (separator : Char) (s : String) : List String :=
  (s.toList.splitOn separator).map String.ofList

def splitStatusTableLine (line : String) : List String :=
  (split '|' line).foldl (fun cells part =>
    let cell := trimSpace part
    if cell = "" ∧ cells = [] then cells else cells ++ [cell]) []

def copyDoubleZeroField (target : StatusMap) (source : String → Option String)
    (sourceKey targetKey : String) : StatusMap :=
  let value := trimSpace ((source sourceKey).getD "")
  if value ≠ "" then Function.update target targetKey (some (.str value)) else target

/-- `strings.CutPrefix`. -/
def cutPrefix? (head : String) (s : String) : Option String :=
  if head.toList <+: s.toList then some (String.ofList (s.toList.drop head.toList.length)) else none

/-- The device, and the warning when a mark stands before it. -/
def parseDoubleZeroLatencyDevice (value : String) : String × Option Bool :=
  let cleaned := trimSpace value
  match cutPrefix? "✅" cleaned with
  | some device => (trimSpace device, some false)
  | none =>
    match cutPrefix? "⚠️" cleaned with
    | some device => (trimSpace device, some true)
    | none =>
      match cutPrefix? "⚠" cleaned with
      | some device => (trimSpace device, some true)
      | none => (cleaned, none)

def copyDoubleZeroLatencyDevice (target : StatusMap) (source : String → Option String)
    (sourceKey : String) : StatusMap :=
  let value := trimSpace ((source sourceKey).getD "")
  if value = "" then target
  else
    let (device, warning) := parseDoubleZeroLatencyDevice value
    let target :=
      if device ≠ "" then Function.update target "lowestLatencyDevice" (some (.str device))
      else target
    match warning with
    | some warning => Function.update target "lowestLatencyDeviceWarning" (some (.bool warning))
    | none => target

def copyDoubleZeroStatus (row : String → Option String) : StatusMap :=
  let status : StatusMap := fun _ => none
  let status := copyDoubleZeroField status row "Tunnel Status" "tunnelStatus"
  let status := copyDoubleZeroField status row "Last Session Update" "lastSessionUpdate"
  let status := copyDoubleZeroField status row "Tunnel Name" "tunnelName"
  let status := copyDoubleZeroField status row "Tunnel Src" "tunnelSrc"
  let status := copyDoubleZeroField status row "Tunnel Dst" "tunnelDst"
  let status := copyDoubleZeroField status row "Doublezero IP" "doubleZeroIp"
  let status := copyDoubleZeroField status row "User Type" "userType"
  let status := copyDoubleZeroField status row "Reconciler" "reconciler"
  let status := copyDoubleZeroField status row "Tenant" "tenant"
  let status := copyDoubleZeroField status row "Current Device" "currentDevice"
  let status := copyDoubleZeroLatencyDevice status row "Lowest Latency Device"
  let status := copyDoubleZeroField status row "Metro" "metro"
  copyDoubleZeroField status row "Network" "network"

/-- The first two lines in a row with a name and a cell for the current device. -/
def findStatusRow : List String → Option (String → Option String)
  | line :: next :: rest =>
    let headers := splitStatusTableLine line
    let values := splitStatusTableLine next
    if headers.length = 0 ∨ values.length = 0 then findStatusRow (next :: rest)
    else
      let row := mapGet (headers.zip values)
      if (row "Current Device").isSome then some row else findStatusRow (next :: rest)
  | _ => none

def parseDoubleZeroStatus (output : String) : StatusMap :=
  match findStatusRow (split '\n' output) with
  | some row => copyDoubleZeroStatus row
  | none => fun key =>
    if key = "error" then
      some (.str "doublezero status output did not contain a Current Device table")
    else if key = "raw" then some (.str output)
    else none

/-! ## Tables -/

/-- Two lines of a table, with one name for the current device. -/
structure StatusTable where
  headers : List String
  row : List String
  length_row : row.length = headers.length
  plain : ∀ text ∈ headers ++ row, '|' ∉ text.toList ∧ '\n' ∉ text.toList
  nodup : (headers.map trimSpace).Nodup
  currentDevice_mem : "Current Device" ∈ headers.map trimSpace

/-- How the two lines are written. -/
structure Layout where
  headerBorder : Bool
  rowBorder : Bool
  finalNewline : Bool
  deriving DecidableEq, Repr

/-- An outer border is a bar at either end, with nothing outside. -/
def bordered (border : Bool) (cells : List String) : List String :=
  if border then [""] ++ cells ++ [""] else cells

def renderLine (border : Bool) (cells : List String) : String :=
  String.ofList (['|'].intercalate ((bordered border cells).map String.toList))

def StatusTable.render (table : StatusTable) (layout : Layout) : String :=
  let lines := [renderLine layout.headerBorder table.headers, renderLine layout.rowBorder table.row]
  String.ofList (['\n'].intercalate
    ((if layout.finalNewline then lines ++ [""] else lines).map String.toList))

/-- The columns that are copied as they are, and the fields of the status they become. -/
def copiedFields : List (String × String) :=
  [("Tunnel Status", "tunnelStatus"), ("Last Session Update", "lastSessionUpdate"),
    ("Tunnel Name", "tunnelName"), ("Tunnel Src", "tunnelSrc"), ("Tunnel Dst", "tunnelDst"),
    ("Doublezero IP", "doubleZeroIp"), ("User Type", "userType"), ("Reconciler", "reconciler"),
    ("Tenant", "tenant"), ("Current Device", "currentDevice"), ("Metro", "metro"),
    ("Network", "network")]

namespace StatusTable

def names (table : StatusTable) : List String := table.headers.map trimSpace

def texts (table : StatusTable) : List String := table.row.map trimSpace

/-- The text of the column with the name; empty when there is none. -/
def ownText (table : StatusTable) (name : String) : String :=
  ((table.names.idxOf? name).bind fun index => table.texts[index]?).getD ""

/-- The status has the text of each copied column, and no field for an empty one. -/
def ReadByColumns (table : StatusTable) (layout : Layout) : Prop :=
  ∀ field ∈ copiedFields, parseDoubleZeroStatus (table.render layout) field.2 =
    if table.ownText field.1 = "" then none else some (.str (table.ownText field.1))

end StatusTable

/-- How many texts in front are empty. -/
def leadingBlanks (texts : List String) : ℕ := (texts.takeWhile (· = "")).length

namespace StatusTable

/-- Where the cell of a column is looked for. -/
def readIndex (table : StatusTable) (index : ℕ) : ℕ :=
  index + leadingBlanks table.texts - leadingBlanks table.names

/-- The text that is there. -/
def shiftedText (table : StatusTable) (name : String) : String :=
  ((table.names.idxOf? name).bind fun index => table.texts[table.readIndex index]?).getD ""

/-- There is a cell for the current device, if need be the empty one after the closing border. -/
def Reaches (table : StatusTable) (layout : Layout) : Prop :=
  ∃ index ∈ table.names.idxOf? "Current Device",
    table.readIndex index < table.texts.length + if layout.rowBorder then 1 else 0

/-- The names and the texts start with the same number of empty ones, or this makes no difference:
each copied column has the text that is found instead of it. -/
def Aligned (table : StatusTable) (layout : Layout) : Prop :=
  leadingBlanks table.texts = leadingBlanks table.names ∨
    (table.Reaches layout ∧ ∀ field ∈ copiedFields,
      table.ownText field.1 = table.shiftedText field.1) ∨
    (¬ table.Reaches layout ∧ ∀ field ∈ copiedFields, table.ownText field.1 = "")

end StatusTable

/-! ## Cells -/

theorem trimSpace_trimSpace (s : String) : trimSpace (trimSpace s) = trimSpace s := by
  let kept := s.toList.dropWhile isSpace
  have hFront : (kept.rdropWhile isSpace).dropWhile isSpace = kept.rdropWhile isSpace := by
    apply List.dropWhile_eq_self_iff.2
    intro hLength hSpace
    have hPrefix := List.rdropWhile_prefix isSpace kept
    have hKept : 0 < kept.length := hLength.trans_le hPrefix.length_le
    have hHead := List.head?_dropWhile_not isSpace s.toList
    rw [hPrefix.getElem hLength] at hSpace
    rw [List.head?_eq_getElem?, show s.toList.dropWhile isSpace = kept from rfl,
      List.getElem?_eq_getElem hKept] at hHead
    simp [hSpace] at hHead
  have hTrim : trimSpace s = String.ofList (kept.rdropWhile isSpace) := rfl
  rw [hTrim]
  unfold trimSpace
  rw [String.toList_ofList, hFront]
  exact congrArg String.ofList (List.rdropWhile_idempotent isSpace kept)

@[simp] theorem trimSpace_empty : trimSpace "" = "" := by decide

theorem foldl_cells {parts cells : List String} (hCells : cells ≠ []) :
    parts.foldl (fun cells part =>
      let cell := trimSpace part
      if cell = "" ∧ cells = [] then cells else cells ++ [cell]) cells
      = cells ++ parts.map trimSpace := by
  induction parts generalizing cells with
  | nil => simp
  | cons part parts ih =>
      rw [List.foldl_cons, if_neg fun h => hCells h.2, ih (by simp), List.append_assoc]
      rfl

/-- The empty cells in front are dropped, whether or not they come from a border. -/
theorem splitStatusTableLine_eq (line : String) :
    splitStatusTableLine line = ((split '|' line).map trimSpace).dropWhile (· = "") := by
  unfold splitStatusTableLine
  induction split '|' line with
  | nil => rfl
  | cons part parts ih =>
      rw [List.foldl_cons, List.map_cons, List.dropWhile_cons]
      by_cases hBlank : trimSpace part = ""
      · simpa [hBlank] using ih
      · simp only [hBlank, false_and, if_false, decide_false, Bool.false_eq_true]
        exact foldl_cells (by simp)

theorem split_intercalate {separator : Char} {parts : List String} (hParts : parts ≠ [])
    (hPlain : ∀ part ∈ parts, separator ∉ part.toList) :
    split separator (String.ofList ([separator].intercalate (parts.map String.toList))) =
      parts := by
  unfold split
  rw [String.toList_ofList, List.splitOn_intercalate]
  · simp [Function.comp_def]
  · intro part hPart
    obtain ⟨text, hText, rfl⟩ := List.mem_map.1 hPart
    exact hPlain text hText
  · simpa using hParts

/-- What follows the cells of a line. -/
def closing (border : Bool) : List String := if border then [""] else []

theorem map_trimSpace_bordered (border : Bool) (cells : List String) :
    (bordered border cells).map trimSpace = bordered border (cells.map trimSpace) := by
  cases border with
  | true => simp [bordered]
  | false => rfl

theorem mem_bordered {border : Bool} {cells : List String} {cell : String}
    (h : cell ∈ bordered border cells) : cell ∈ cells ∨ cell = "" := by
  cases border with
  | true => simpa [bordered, or_comm] using h
  | false => exact .inl h

theorem split_renderLine {border : Bool} {cells : List String} (hCells : cells ≠ [])
    (hPlain : ∀ cell ∈ cells, '|' ∉ cell.toList) :
    split '|' (renderLine border cells) = bordered border cells := by
  apply split_intercalate
  · cases border with
    | true => simp [bordered]
    | false => exact hCells
  · intro cell hMem
    rcases mem_bordered hMem with hMem | rfl
    · exact hPlain cell hMem
    · simp

theorem splitStatusTableLine_renderLine {border : Bool} {cells : List String}
    (hPlain : ∀ cell ∈ cells, '|' ∉ cell.toList)
    (hSome : ∃ text ∈ cells.map trimSpace, text ≠ "") :
    splitStatusTableLine (renderLine border cells)
      = (cells.map trimSpace).dropWhile (· = "") ++ closing border := by
  have hCells : cells ≠ [] := by
    rintro rfl
    simp at hSome
  have hKept : ((cells.map trimSpace).dropWhile (· = "")).isEmpty = false := by
    obtain ⟨text, hMem, hText⟩ := hSome
    rw [List.isEmpty_eq_false_iff]
    intro hNil
    exact hText (by simpa using List.dropWhile_eq_nil_iff.1 hNil text hMem)
  rw [splitStatusTableLine_eq, split_renderLine hCells hPlain, map_trimSpace_bordered]
  cases border with
  | true =>
      rw [bordered, if_pos rfl, List.append_assoc, List.singleton_append, List.dropWhile_cons]
      simp [List.dropWhile_append, hKept, closing]
  | false => simp [bordered, closing]

theorem splitStatusTableLine_of_blank {border : Bool} {cells : List String} (hCells : cells ≠ [])
    (hPlain : ∀ cell ∈ cells, '|' ∉ cell.toList)
    (hBlank : ∀ text ∈ cells.map trimSpace, text = "") :
    splitStatusTableLine (renderLine border cells) = [] := by
  rw [splitStatusTableLine_eq, split_renderLine hCells hPlain, map_trimSpace_bordered,
    List.dropWhile_eq_nil_iff]
  intro text hMem
  rcases mem_bordered hMem with hMem | rfl
  · simpa using hBlank text hMem
  · rfl

/-! ## Rows -/

theorem getElem?_dropWhile (texts : List String) (j : ℕ) (more : List String) :
    (texts.dropWhile (· = "") ++ more)[j]? = (texts ++ more)[j + leadingBlanks texts]? := by
  have hSplit : texts ++ more
      = texts.takeWhile (· = "") ++ (texts.dropWhile (· = "") ++ more) := by
    rw [← List.append_assoc, List.takeWhile_append_dropWhile]
  unfold leadingBlanks
  rw [hSplit, List.getElem?_append_right (Nat.le_add_left _ _), Nat.add_sub_cancel]

theorem leadingBlanks_le {texts : List String} {i : ℕ} {text : String} (hText : text ≠ "")
    (h : texts[i]? = some text) : leadingBlanks texts ≤ i := by
  by_contra hLess
  have hSplit : (texts.takeWhile (· = "") ++ texts.dropWhile (· = ""))[i]? = some text := by
    rwa [List.takeWhile_append_dropWhile]
  rw [List.getElem?_append_left (Nat.not_le.1 hLess)] at hSplit
  have hMem := List.mem_of_getElem? hSplit
  exact hText (by simpa using List.mem_takeWhile_imp hMem)

namespace StatusTable

variable {table : StatusTable} {layout : Layout} {name : String} {index : ℕ}

theorem idxOf?_names : table.names.idxOf? name = some index ↔ table.names[index]? = some name := by
  constructor
  · intro h
    obtain ⟨hLt, hName, -⟩ := List.idxOf?_eq_some_iff.1 h
    rw [List.getElem?_eq_getElem hLt, hName]
  · intro h
    obtain ⟨first, hFirst⟩ :=
      Option.isSome_iff_exists.1 (List.isSome_idxOf?.2 (List.mem_of_getElem? h))
    obtain ⟨hLt, hName, -⟩ := List.idxOf?_eq_some_iff.1 hFirst
    have hSame : table.names[first]? = table.names[index]? := by
      rw [h, List.getElem?_eq_getElem hLt, hName]
    rw [hFirst, (List.getElem?_inj hLt table.nodup).1 hSame]

/-- The row of the two lines. -/
def rowMap (table : StatusTable) (layout : Layout) : String → Option String :=
  mapGet ((table.names.dropWhile (· = "") ++ closing layout.headerBorder).zip
    (table.texts.dropWhile (· = "") ++ closing layout.rowBorder))

theorem rowMap_eq (hName : name ≠ "") (layout : Layout) :
    table.rowMap layout name = (table.names.idxOf? name).bind fun index =>
      (table.texts ++ closing layout.rowBorder)[table.readIndex index]? := by
  have hClosing : name ∉ closing layout.headerBorder := by
    cases layout.headerBorder with
    | true => simpa [closing] using hName
    | false => simp [closing]
  cases hIndex : table.names.idxOf? name with
  | none =>
      have hNot := List.idxOf?_eq_none_iff.1 hIndex
      unfold rowMap
      apply mapGet_zip_of_notMem
      intro hMem
      rcases List.mem_append.1 hMem with hMem | hMem
      · exact hNot ((List.dropWhile_sublist _).mem hMem)
      · exact hClosing hMem
  | some index =>
      have hAt := idxOf?_names.1 hIndex
      have hBlanks := leadingBlanks_le hName hAt
      have hLt : index < table.names.length := (List.getElem?_eq_some_iff.1 hAt).1
      unfold rowMap
      rw [@mapGet_zip _ _ _ _ _ _ (index - leadingBlanks table.names)]
      · rw [getElem?_dropWhile, Option.bind_some]
        congr 1
        unfold readIndex
        omega
      · rw [getElem?_dropWhile, Nat.sub_add_cancel hBlanks, List.getElem?_append_left hLt, hAt]
      · intro j hj
        rw [getElem?_dropWhile] at hj
        have hIn : j + leadingBlanks table.names < table.names.length := by
          by_contra hOut
          rw [List.getElem?_append_right (Nat.not_lt.1 hOut)] at hj
          exact hClosing (List.mem_of_getElem? hj)
        rw [List.getElem?_append_left hIn] at hj
        have hSame := (idxOf?_names.2 hj).symm.trans hIndex
        have := Option.some.inj hSame
        omega

theorem currentDevice_names (table : StatusTable) :
    ∃ index, table.names.idxOf? "Current Device" = some index :=
  Option.isSome_iff_exists.1 (List.isSome_idxOf?.2 table.currentDevice_mem)

theorem reaches_iff :
    table.Reaches layout ↔ (table.rowMap layout "Current Device").isSome := by
  obtain ⟨index, hIndex⟩ := table.currentDevice_names
  have hLength : (closing layout.rowBorder).length = if layout.rowBorder then 1 else 0 := by
    cases layout.rowBorder with
    | true => rfl
    | false => rfl
  rw [rowMap_eq (by decide), hIndex, Option.bind_some, Reaches, hIndex, ← hLength,
    ← List.length_append]
  simp

/-- The text that is copied for a column: an empty one counts as none. -/
theorem getD_row {index : ℕ} {texts : List String} (rowBorder : Bool) :
    ((texts ++ closing rowBorder)[index]?).getD "" = (texts[index]?).getD "" := by
  by_cases hIn : index < texts.length
  · rw [List.getElem?_append_left hIn]
  · rw [List.getElem?_append_right (Nat.not_lt.1 hIn), List.getElem?_eq_none (Nat.not_lt.1 hIn)]
    cases hAt : (closing rowBorder)[index - texts.length]? with
    | none => rfl
    | some text =>
        have hMem := List.mem_of_getElem? hAt
        cases rowBorder with
        | true => simpa [closing] using hMem
        | false => simp [closing] at hMem

end StatusTable

/-! ## The status -/

section Copying

variable {target : StatusMap} {source : String → Option String} {sourceKey targetKey key : String}

theorem copyDoubleZeroField_self : copyDoubleZeroField target source sourceKey targetKey targetKey =
    if trimSpace ((source sourceKey).getD "") = "" then target targetKey
    else some (.str (trimSpace ((source sourceKey).getD ""))) := by
  unfold copyDoubleZeroField
  by_cases hBlank : trimSpace ((source sourceKey).getD "") = ""
  · simp [hBlank]
  · simp [hBlank]

theorem copyDoubleZeroField_other (h : key ≠ targetKey) :
    copyDoubleZeroField target source sourceKey targetKey key = target key := by
  unfold copyDoubleZeroField
  split
  · exact Function.update_of_ne h _ _
  · rfl

theorem copyDoubleZeroLatencyDevice_other (hDevice : key ≠ "lowestLatencyDevice")
    (hWarning : key ≠ "lowestLatencyDeviceWarning") :
    copyDoubleZeroLatencyDevice target source sourceKey key = target key := by
  unfold copyDoubleZeroLatencyDevice
  split
  · rfl
  · generalize parseDoubleZeroLatencyDevice _ = parsed
    obtain ⟨device, warning⟩ := parsed
    cases warning with
    | none =>
        by_cases hBlank : device = ""
        · simp [hBlank]
        · simp [hBlank, Function.update_of_ne hDevice]
    | some warning =>
        by_cases hBlank : device = ""
        · simp [hBlank, Function.update_of_ne hWarning]
        · simp [hBlank, Function.update_of_ne hWarning, Function.update_of_ne hDevice]

end Copying

theorem copyDoubleZeroStatus_field {row : String → Option String} {field : String × String}
    (hField : field ∈ copiedFields) :
    copyDoubleZeroStatus row field.2 =
      if trimSpace ((row field.1).getD "") = "" then none
      else some (.str (trimSpace ((row field.1).getD ""))) := by
  simp only [copiedFields, List.mem_cons, List.not_mem_nil, or_false] at hField
  unfold copyDoubleZeroStatus
  rcases hField with rfl | rfl | rfl | rfl | rfl | rfl | rfl | rfl | rfl | rfl | rfl | rfl
  all_goals simp (disch := decide) only [copyDoubleZeroField_self, copyDoubleZeroField_other,
    copyDoubleZeroLatencyDevice_other]

/-- Without a row the status has an error and the output, and none of the copied fields. -/
theorem parseDoubleZeroStatus_of_none {output : String} {field : String × String}
    (h : findStatusRow (split '\n' output) = none) (hField : field ∈ copiedFields) :
    parseDoubleZeroStatus output field.2 = none := by
  simp only [copiedFields, List.mem_cons, List.not_mem_nil, or_false] at hField
  unfold parseDoubleZeroStatus
  rw [h]
  rcases hField with rfl | rfl | rfl | rfl | rfl | rfl | rfl | rfl | rfl | rfl | rfl | rfl
  all_goals rfl

theorem mem_intercalate {α : Type*} {a separator : α} {parts : List (List α)}
    (h : a ∈ [separator].intercalate parts) : a = separator ∨ ∃ part ∈ parts, a ∈ part := by
  induction parts with
  | nil => simp at h
  | cons part parts ih =>
      cases parts with
      | nil => exact .inr ⟨part, List.mem_cons_self, by simpa using h⟩
      | cons next parts =>
          rw [List.intercalate_cons_cons, List.mem_append, List.mem_append] at h
          rcases h with (h | h) | h
          · exact .inr ⟨part, List.mem_cons_self, h⟩
          · exact .inl (List.mem_singleton.1 h)
          · rcases ih h with h | ⟨other, hMem, h⟩
            · exact .inl h
            · exact .inr ⟨other, List.mem_cons_of_mem _ hMem, h⟩

theorem newline_notMem_renderLine {border : Bool} {cells : List String}
    (hPlain : ∀ cell ∈ cells, '\n' ∉ cell.toList) :
    '\n' ∉ (renderLine border cells).toList := by
  unfold renderLine
  rw [String.toList_ofList]
  intro hMem
  rcases mem_intercalate hMem with h | ⟨part, hPart, h⟩
  · exact absurd h (by decide)
  · obtain ⟨cell, hCell, rfl⟩ := List.mem_map.1 hPart
    rcases mem_bordered hCell with hCell | rfl
    · exact hPlain cell hCell h
    · simp at h

namespace StatusTable

variable {table : StatusTable} {layout : Layout}

theorem headers_plain (table : StatusTable) :
    ∀ text ∈ table.headers, '|' ∉ text.toList ∧ '\n' ∉ text.toList :=
  fun text hMem => table.plain text (List.mem_append_left _ hMem)

theorem row_plain (table : StatusTable) :
    ∀ text ∈ table.row, '|' ∉ text.toList ∧ '\n' ∉ text.toList :=
  fun text hMem => table.plain text (List.mem_append_right _ hMem)

theorem split_render (table : StatusTable) (layout : Layout) :
    split '\n' (table.render layout)
      = renderLine layout.headerBorder table.headers :: renderLine layout.rowBorder table.row ::
        if layout.finalNewline then [""] else [] := by
  have hHeaders : '\n' ∉ (renderLine layout.headerBorder table.headers).toList :=
    newline_notMem_renderLine fun text hMem => (table.headers_plain text hMem).2
  have hRow : '\n' ∉ (renderLine layout.rowBorder table.row).toList :=
    newline_notMem_renderLine fun text hMem => (table.row_plain text hMem).2
  unfold render
  rw [split_intercalate]
  · cases layout.finalNewline with
    | true => rfl
    | false => rfl
  · cases layout.finalNewline with
    | true => simp
    | false => simp
  · cases layout.finalNewline with
    | true => simp [hHeaders, hRow]
    | false => simp [hHeaders, hRow]

/-- After the row there is no other one: at most an empty line follows. -/
theorem findStatusRow_rest (line : String) (finalNewline : Bool) :
    findStatusRow (line :: if finalNewline then [""] else []) = none := by
  have hEmpty : splitStatusTableLine "" = [] := by decide
  cases finalNewline with
  | false => rfl
  | true => simp [findStatusRow, hEmpty]

theorem splitStatusTableLine_headers (table : StatusTable) (layout : Layout) :
    splitStatusTableLine (renderLine layout.headerBorder table.headers)
      = table.names.dropWhile (· = "") ++ closing layout.headerBorder :=
  splitStatusTableLine_renderLine (fun text hMem => (table.headers_plain text hMem).1)
    ⟨"Current Device", table.currentDevice_mem, by decide⟩

theorem row_ne_nil (table : StatusTable) : table.row ≠ [] := by
  intro hRow
  have hLength := table.length_row
  have hMem := List.length_pos_of_mem table.currentDevice_mem
  rw [List.length_map] at hMem
  rw [hRow, List.length_nil] at hLength
  omega

theorem findStatusRow_render (hSome : ∃ text ∈ table.texts, text ≠ "") :
    findStatusRow (split '\n' (table.render layout))
      = if (table.rowMap layout "Current Device").isSome then some (table.rowMap layout)
        else none := by
  have hValues : splitStatusTableLine (renderLine layout.rowBorder table.row)
      = table.texts.dropWhile (· = "") ++ closing layout.rowBorder :=
    splitStatusTableLine_renderLine (fun text hMem => (table.row_plain text hMem).1) hSome
  rw [split_render, findStatusRow, splitStatusTableLine_headers, hValues, findStatusRow_rest]
  unfold rowMap
  split
  · rename_i hEmpty
    rcases hEmpty with hEmpty | hEmpty
    · rw [List.eq_nil_of_length_eq_zero hEmpty]
      rfl
    · rw [List.eq_nil_of_length_eq_zero hEmpty, List.zip_nil_right]
      rfl
  · rfl

theorem findStatusRow_render_of_blank (hBlank : ∀ text ∈ table.texts, text = "") :
    findStatusRow (split '\n' (table.render layout)) = none := by
  have hValues : splitStatusTableLine (renderLine layout.rowBorder table.row) = [] :=
    splitStatusTableLine_of_blank table.row_ne_nil
      (fun text hMem => (table.row_plain text hMem).1) hBlank
  rw [split_render, findStatusRow, hValues, findStatusRow_rest]
  simp

/-! ## What is read of a table -/

theorem trimSpace_shiftedText (name : String) :
    trimSpace (table.shiftedText name) = table.shiftedText name := by
  unfold shiftedText
  cases hText : (table.names.idxOf? name).bind fun index => table.texts[table.readIndex index]? with
  | none => rfl
  | some text =>
      obtain ⟨index, -, hAt⟩ := Option.bind_eq_some_iff.1 hText
      obtain ⟨cell, -, rfl⟩ := List.mem_map.1 (List.mem_of_getElem? hAt)
      exact trimSpace_trimSpace cell

theorem copied_text {field : String × String} (hField : field ∈ copiedFields) :
    trimSpace ((table.rowMap layout field.1).getD "") = table.shiftedText field.1 := by
  have hName : field.1 ≠ "" := by
    revert field
    decide
  have hText : (table.rowMap layout field.1).getD "" = table.shiftedText field.1 := by
    rw [rowMap_eq hName, shiftedText]
    cases table.names.idxOf? field.1 with
    | none => rfl
    | some index => exact getD_row layout.rowBorder
  rw [hText, trimSpace_shiftedText]

theorem parse_of_reaches (hSome : ∃ text ∈ table.texts, text ≠ "") (hReaches : table.Reaches layout)
    {field : String × String} (hField : field ∈ copiedFields) :
    parseDoubleZeroStatus (table.render layout) field.2 =
      if table.shiftedText field.1 = "" then none else some (.str (table.shiftedText field.1)) := by
  unfold parseDoubleZeroStatus
  rw [findStatusRow_render hSome, if_pos (reaches_iff.1 hReaches)]
  exact (copyDoubleZeroStatus_field hField).trans (by rw [copied_text hField])

theorem parse_of_not_reaches (hSome : ∃ text ∈ table.texts, text ≠ "")
    (hReaches : ¬ table.Reaches layout) {field : String × String} (hField : field ∈ copiedFields) :
    parseDoubleZeroStatus (table.render layout) field.2 = none := by
  apply parseDoubleZeroStatus_of_none _ hField
  rw [findStatusRow_render hSome, if_neg fun h => hReaches (reaches_iff.2 h)]

theorem shiftedText_of_unshifted (h : leadingBlanks table.texts = leadingBlanks table.names)
    (name : String) : table.shiftedText name = table.ownText name := by
  unfold shiftedText ownText readIndex
  simp [h]

theorem reaches_of_unshifted (h : leadingBlanks table.texts = leadingBlanks table.names) :
    table.Reaches layout := by
  obtain ⟨index, hIndex⟩ := table.currentDevice_names
  have hLt : index < table.names.length := (List.getElem?_eq_some_iff.1 (idxOf?_names.1 hIndex)).1
  have hLength : table.texts.length = table.names.length := by
    rw [texts, names, List.length_map, List.length_map, table.length_row]
  refine ⟨index, hIndex, ?_⟩
  unfold readIndex
  omega

theorem getD_eq_empty (hBlank : ∀ text ∈ table.texts, text = "") (place : Option ℕ) :
    (place.bind fun index => table.texts[index]?).getD "" = "" := by
  cases hText : place.bind fun index => table.texts[index]? with
  | none => rfl
  | some text =>
      obtain ⟨index, -, hAt⟩ := Option.bind_eq_some_iff.1 hText
      exact hBlank text (List.mem_of_getElem? hAt)

theorem field_eq_iff {own found : String} :
    ((if found = "" then none else some (Json.str found))
      = if own = "" then none else some (Json.str own)) ↔ own = found := by
  by_cases hOwn : own = ""
  · by_cases hFound : found = ""
    · simp [hOwn, hFound]
    · simp [hOwn, hFound, Ne.symm hFound]
  · by_cases hFound : found = ""
    · simp [hOwn, hFound]
    · simp [hOwn, hFound, eq_comm]

/-- A table is read column by column exactly when its names and its row start with the same number
of empty cells, or the shift does not show. -/
theorem readByColumns_iff (table : StatusTable) (layout : Layout) :
    table.ReadByColumns layout ↔ table.Aligned layout := by
  by_cases hBlank : ∀ text ∈ table.texts, text = ""
  · have hOwn : ∀ name, table.ownText name = "" := fun name => getD_eq_empty hBlank _
    have hShifted : ∀ name, table.shiftedText name = "" := by
      intro name
      have hPlace := getD_eq_empty hBlank ((table.names.idxOf? name).map table.readIndex)
      rwa [Option.bind_map] at hPlace
    constructor
    · intro _
      by_cases hReaches : table.Reaches layout
      · refine .inr (.inl ⟨hReaches, ?_⟩)
        intro field _
        rw [hOwn, hShifted]
      · exact .inr (.inr ⟨hReaches, fun field _ => hOwn field.1⟩)
    · intro _ field hField
      rw [if_pos (hOwn field.1)]
      exact parseDoubleZeroStatus_of_none (findStatusRow_render_of_blank hBlank) hField
  push Not at hBlank
  by_cases hReaches : table.Reaches layout
  · have hRead : table.ReadByColumns layout ↔
        ∀ field ∈ copiedFields, table.ownText field.1 = table.shiftedText field.1 := by
      unfold ReadByColumns
      apply forall₂_congr
      intro field hField
      rw [parse_of_reaches hBlank hReaches hField]
      exact field_eq_iff
    rw [hRead]
    constructor
    · intro h
      exact .inr (.inl ⟨hReaches, h⟩)
    · rintro (hUnshifted | ⟨-, h⟩ | ⟨hNot, -⟩)
      · intro field _
        exact (shiftedText_of_unshifted hUnshifted field.1).symm
      · exact h
      · exact absurd hReaches hNot
  · have hRead : table.ReadByColumns layout ↔
        ∀ field ∈ copiedFields, table.ownText field.1 = "" := by
      unfold ReadByColumns
      apply forall₂_congr
      intro field hField
      rw [parse_of_not_reaches hBlank hReaches hField]
      exact @field_eq_iff (table.ownText field.1) ""
    rw [hRead]
    constructor
    · intro h
      exact .inr (.inr ⟨hReaches, h⟩)
    · rintro (hUnshifted | ⟨hNot, -⟩ | ⟨-, h⟩)
      · exact absurd (reaches_of_unshifted hUnshifted) hReaches
      · exact absurd hNot hReaches
      · exact h

end StatusTable

/-- A table whose first cell is empty: the texts are read one column further to the left. -/
def shiftedTable : StatusTable where
  headers := ["Tunnel Status", "Current Device", "Metro"]
  row := ["", "ams-dz001", "Amsterdam"]
  length_row := rfl
  plain := by decide
  nodup := by decide
  currentDevice_mem := by decide

theorem shiftedTable_misread : ¬ shiftedTable.ReadByColumns ⟨false, false, false⟩ := by
  intro h
  have hDevice := h ("Current Device", "currentDevice") (by decide)
  have hParsed : parseDoubleZeroStatus (shiftedTable.render ⟨false, false, false⟩) "currentDevice"
      = some (.str "Amsterdam") := by rfl
  have hOwn : shiftedTable.ownText "Current Device" = "ams-dz001" := by decide +kernel
  rw [hParsed, hOwn] at hDevice
  simp at hDevice

end Hyperspace.Gate
