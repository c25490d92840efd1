import TypeGraph.Data
import TypeGraph.Toml.Reader

/-!
# TypeGraph.Toml.Data

From the sections of a TOML text to what it says.

1. The sections whose headers start with one key make up the value of that
   key, wherever they stand.
2. A header in single brackets may occur once, before or after the headers
   below it; its fields are those of the table that it names.
3. A header in double brackets starts the next table of an array.  What
   follows up to the next one belongs to that table.
4. The same key may still come from a field and from a header; whether that
   is an error is for the reader of the record to say.
-/

namespace TypeGraph.Toml

mutual

/-- What a value says.  A date is a table of which no record knows a field. -/
def Value.toData : Value → Data
  | .text value => .text value
  | .flag value => .flag value
  | .number => .other
  | .date => .table []
  | .array items => .array (itemsToData items)
  | .table fields => .table (fieldsToData fields)
  | .dotted fields => .table (fieldsToData fields)

def itemsToData : List Value → List Data
  | [] => []
  | item :: items => item.toData :: itemsToData items

def fieldsToData : List (String × Value) → List (Option String × Data)
  | [] => []
  | (key, value) :: fields => (some key, value.toData) :: fieldsToData fields

end

namespace Section

/-- The section below the key, if its header starts with it. -/
def below (key : String) (part : Section) : Option Section :=
  match part.path with
  | head :: path => if head = key then some { part with path := path } else none
  | [] => none

def isBelow (key : String) (part : Section) : Bool := part.path.head? == some key

def allBelow (key : String) (parts : List Section) : List Section :=
  parts.filterMap (below key)

/-- The sections that are not below the key. -/
def others (key : String) (parts : List Section) : List Section :=
  parts.filter (!isBelow key ·)

/-- Whether a section starts a table of the array it is below. -/
def startsItem (part : Section) : Bool := part.path.isEmpty && part.isArray

/-- The sections before the first one that starts a table. -/
def ofItem (parts : List Section) : List Section := parts.takeWhile (!·.startsItem)

/-- The sections from the first one that starts a table. -/
def fromNextItem (parts : List Section) : List Section := parts.dropWhile (!·.startsItem)

/-- How much there is to put together: all sections and all keys of their
headers. -/
def weight (parts : List Section) : Nat :=
  parts.foldr (fun part total => part.path.length + 1 + total) 0

theorem weight_cons (part : Section) (parts : List Section) :
    weight (part :: parts) = part.path.length + 1 + weight parts := rfl

theorem weight_sublist {parts others : List Section} (h : parts.Sublist others) :
    weight parts ≤ weight others := by
  induction h with
  | slnil => exact Nat.le_refl _
  | cons part _ ih =>
    rw [weight_cons]
    omega
  | cons_cons part _ ih =>
    rw [weight_cons, weight_cons]
    omega

theorem weight_allBelow (key : String) (parts : List Section) :
    weight (allBelow key parts) ≤ weight parts := by
  unfold allBelow
  induction parts with
  | nil => exact Nat.le_refl _
  | cons part parts ih =>
    rw [weight_cons]
    cases h : below key part with
    | none =>
      rw [List.filterMap_cons_none h]
      omega
    | some inner =>
      have hle : inner.path.length ≤ part.path.length := by
        unfold below at h
        split at h
        · next heq =>
          split at h
          · cases h
            simp [heq]
          · cases h
        · cases h
      rw [List.filterMap_cons_some h, weight_cons]
      omega

theorem weight_others (key : String) (parts : List Section) :
    weight (others key parts) ≤ weight parts :=
  weight_sublist List.filter_sublist

theorem weight_ofItem (parts : List Section) : weight (ofItem parts) ≤ weight parts :=
  weight_sublist (List.takeWhile_sublist _)

theorem weight_fromNextItem (parts : List Section) :
    weight (fromNextItem parts) ≤ weight parts :=
  weight_sublist (List.dropWhile_sublist _)

end Section

mutual

/-- The fields of a table, from the sections below it.  `own` if its own
header has been met. -/
def tableFields? (own : Bool) (parts : List Section) : Option (List (Option String × Data)) :=
  match parts with
  | [] => some []
  | ⟨[], isArray, fields⟩ :: rest =>
    if own || isArray then none
    else (tableFields? true rest).map (fieldsToData fields ++ ·)
  | ⟨key :: path, isArray, fields⟩ :: rest => do
    let first : Section := ⟨path, isArray, fields⟩
    let inner := Section.allBelow key rest
    let value ←
      if first.startsItem then (arrayItems? first inner).map .array
      else (tableFields? false (first :: inner)).map .table
    let others ← tableFields? own (Section.others key rest)
    return (some key, value) :: others
termination_by (Section.weight parts, 0)
decreasing_by
  · refine Prod.Lex.left _ _ ?_
    rw [Section.weight_cons]
    omega
  all_goals
    refine Prod.Lex.left _ _ ?_
    have := Section.weight_allBelow key rest
    have := Section.weight_others key rest
    simp only [Section.weight_cons, List.length_cons]
    omega

/-- The tables of an array: `first` starts one, and so do some of the
sections after it. -/
def arrayItems? (first : Section) (parts : List Section) : Option (List Data) := do
  let fields ← tableFields? true (Section.ofItem parts)
  let item := Data.table (fieldsToData first.fields ++ fields)
  match _h : Section.fromNextItem parts with
  | [] => return [item]
  | next :: rest => return item :: (← arrayItems? next rest)
termination_by (Section.weight (first :: parts), 1)
decreasing_by
  · refine Prod.Lex.left _ _ ?_
    have := Section.weight_ofItem parts
    rw [Section.weight_cons]
    omega
  · refine Prod.Lex.left _ _ ?_
    have := Section.weight_fromNextItem parts
    rw [_h] at this
    rw [Section.weight_cons first]
    omega

end

def readData? (text : String) : Option Data := do
  return .table (← tableFields? false (← sections? text))

end TypeGraph.Toml
