import TypeGraph.Json.Printer
import TypeGraph.Json.Reader

/-!
# TypeGraph.Proofs.JsonText

What the JSON printer writes is read back:

1. a text between quotes is scanned into that text, escapes included (`Scans.quote`);
2. so both texts of a value are scanned into the tokens of the value
   (`NumberFree.scans_compact`, `NumberFree.scans_prettyAt`);
3. and the tokens of a value make the reader complete that value, in whatever it is
   nested (`foldlM_tokens`).

`Scans` speaks about a piece of text whatever follows it, so that pieces may be put
together.  A number is a piece only if no digit follows, so numbers are left out here.
-/

namespace TypeGraph.Json

/-! ## Between quotes -/

/-- What the scanner finds between quotes where a character has been escaped. -/
def pieceOf (c : Char) : Piece :=
  if c ∈ ['\x08', '\x0c', '\n', '\r', '\t'] then .char c
  else if c.toNat < 0x20 then .unit c.toNat
  else .char c

/-- The digits of a control character are read back. -/
theorem hexNumber?_hexDigits :
    ∀ n < 0x20, Text.hexNumber? ['0', '0', hexDigit (n / 16), hexDigit (n % 16)] = some n := by
  decide

/-- An escape of two characters is one piece. -/
theorem pieces?_escaped {c e : Char} (h : escaped? c = some e) (rest : List Char) :
    pieces? ('\\' :: c :: rest) =
      (pieces? rest).map fun (pieces, after) => (.char e :: pieces, after) := by
  have hc : c ≠ 'u' := by
    rintro rfl
    simp [escaped?] at h
  rw [pieces?.eq_4 c rest fun _ _ _ _ _ hu _ => hc hu, h]
  cases pieces? rest <;> rfl

/-- An escaped control character is one unit. -/
theorem pieces?_unit (n : Nat) (hn : n < 0x20) (rest : List Char) :
    pieces? ('\\' :: 'u' :: '0' :: '0' :: hexDigit (n / 16) :: hexDigit (n % 16) :: rest) =
      (pieces? rest).map fun (pieces, after) => (.unit n :: pieces, after) := by
  rw [pieces?, hexNumber?_hexDigits n hn]
  cases pieces? rest <;> rfl

/-- Any other character stands for itself. -/
theorem pieces?_char {c : Char} (hquote : c ≠ '"') (hescape : c ≠ '\\') (hc : ¬c.toNat < 0x20)
    (rest : List Char) :
    pieces? (c :: rest) =
      (pieces? rest).map fun (pieces, after) => (.char c :: pieces, after) := by
  rw [pieces?.eq_5 c rest hquote (fun _ _ _ _ _ h _ => hescape h) fun _ _ h _ => hescape h,
    if_neg (not_or.2 ⟨hc, hescape⟩)]
  cases pieces? rest <;> rfl

/-- A character is read back from its escape, with any rest after it. -/
theorem pieces?_escape (c : Char) (rest : List Char) :
    pieces? (escape c ++ rest) =
      (pieces? rest).map fun (pieces, after) => (pieceOf c :: pieces, after) := by
  unfold escape
  split
  case h_8 _ hquote hescape hbs hff hlf hcr htab =>
    have hshort : c ∉ ['\x08', '\x0c', '\n', '\r', '\t'] := by
      simpa using ⟨hbs, hff, hlf, hcr, htab⟩
    rw [pieceOf, if_neg hshort]
    by_cases hcontrol : c.toNat < 0x20
    · rw [if_pos hcontrol, if_pos hcontrol]
      exact pieces?_unit c.toNat hcontrol rest
    · rw [if_neg hcontrol, if_neg hcontrol]
      exact pieces?_char hquote hescape hcontrol rest
  all_goals exact pieces?_escaped rfl rest

/-- A text is read back up to the quote that ends it. -/
theorem pieces?_flatMap_escape (cs rest : List Char) :
    pieces? (cs.flatMap escape ++ '"' :: rest) = some (cs.map pieceOf, rest) := by
  induction cs with
  | nil => rw [List.flatMap_nil, List.nil_append, pieces?, List.map_nil]
  | cons c cs ih =>
      rw [List.flatMap_cons, List.append_assoc, pieces?_escape, ih]
      rfl

/-- A unit that is no half of a surrogate pair is a character on its own, whatever
follows. -/
theorem joinPieces_unit {n : Nat} (hn : n < 0xD800) (rest : List Piece) :
    joinPieces (.unit n :: rest) = (joinPieces rest).map (Char.ofNat n :: ·) := by
  have hhigh : isHighSurrogate n = false := by simp [isHighSurrogate]; omega
  have hlow : isLowSurrogate n = false := by simp [isLowSurrogate]; omega
  cases rest with
  | nil => simp [joinPieces, hhigh, hlow]
  | cons piece rest => cases piece <;> simp [joinPieces, hhigh, hlow]

/-- Pieces that are characters make up the text. -/
theorem joinPieces_map_pieceOf (cs : List Char) : joinPieces (cs.map pieceOf) = some cs := by
  induction cs with
  | nil => rfl
  | cons c cs ih =>
      rw [List.map_cons, pieceOf]
      split
      · rw [joinPieces, ih, Option.map_some]
      · split
        · rw [joinPieces_unit (by omega), ih, Option.map_some, Char.ofNat_toNat]
        · rw [joinPieces, ih, Option.map_some]

/-! ## Scanning -/

/-- The text is scanned into the tokens, whatever follows it. -/
def Scans (text : List Char) (tokens : List Token) : Prop :=
  ∀ rest, tokens? (text ++ rest) = (tokens? rest).map (tokens ++ ·)

/-- A token that is read first comes first. -/
theorem tokens?_of_first? {c : Char} {rest after : List Char} {token : Token}
    (hspace : isSpace c = false) (h : first? c rest = some (token, after)) :
    tokens? (c :: rest) = (tokens? after).map (token :: ·) := by
  rw [tokens?, hspace, if_neg Bool.false_ne_true, h]

namespace Scans

variable {text text' : List Char} {tokens tokens' : List Token}

theorem nil : Scans [] [] := fun rest => by
  rw [List.nil_append]
  exact Option.map_id'.symm

theorem append (h : Scans text tokens) (h' : Scans text' tokens') :
    Scans (text ++ text') (tokens ++ tokens') := fun rest => by
  rw [List.append_assoc, h, h', Option.map_map]
  simp only [Function.comp_def, List.append_assoc]

/-- A text that is a token whatever follows. -/
theorem of_first? {c : Char} {token : Token} (hspace : isSpace c = false)
    (h : ∀ rest, first? c (text ++ rest) = some (token, rest)) : Scans (c :: text) [token] :=
  fun rest => tokens?_of_first? hspace (h rest)

/-- Blanks are no tokens. -/
theorem of_isSpace (h : ∀ c ∈ text, isSpace c = true) : Scans text [] := by
  induction text with
  | nil => exact nil
  | cons c text ih =>
      intro rest
      rw [List.cons_append, tokens?, if_pos (h c List.mem_cons_self),
        ih (fun d hd => h d (List.mem_cons_of_mem c hd)) rest]

/-- The whole of a text is scanned into the tokens. -/
theorem tokens?_eq (h : Scans text tokens) : tokens? text = some tokens := by
  have hrest := h []
  rwa [List.append_nil, tokens?, Option.map_some, List.append_nil] at hrest

theorem openArray : Scans ['['] [.openArray] := of_first? rfl fun _ => rfl

theorem closeArray : Scans [']'] [.closeArray] := of_first? rfl fun _ => rfl

theorem openObject : Scans ['\x7b'] [.openObject] := of_first? rfl fun _ => rfl

theorem closeObject : Scans ['\x7d'] [.closeObject] := of_first? rfl fun _ => rfl

theorem comma : Scans [','] [.comma] := of_first? rfl fun _ => rfl

theorem colon : Scans [':'] [.colon] := of_first? rfl fun _ => rfl

theorem colonSpace : Scans [':', ' '] [.colon] :=
  colon.append (of_isSpace (List.forall_mem_singleton.2 rfl))

/-- A line break and an indentation are blanks. -/
theorem newline (level : Nat) : Scans (newline level) [] := by
  refine of_isSpace fun c hc => ?_
  obtain rfl | hc := List.mem_cons.1 hc
  · rfl
  · rw [List.eq_of_mem_replicate hc]
    rfl

/-- **Texts**: what is written between quotes is read back. -/
theorem quote (value : Option String) : Scans (quote value) [.text value] := by
  cases value with
  | none => exact of_first? rfl fun _ => rfl
  | some s =>
      have hvalue : (joinPieces (s.toList.map pieceOf)).map String.ofList = some s := by
        rw [joinPieces_map_pieceOf, Option.map_some, String.ofList_toList]
      have hfirst (rest : List Char) :
          first? '"' (s.toList.flatMap escape ++ ['"'] ++ rest) = some (.text (some s), rest) := by
        rw [List.append_assoc, List.singleton_append, first?, pieces?_flatMap_escape]
        exact congrArg (fun value => some (Token.text value, rest)) hvalue
      exact of_first? rfl hfirst

end Scans

/-! ## The tokens of a value -/

mutual

def tokens : Json → List Token
  | .null => [.literal .null]
  | .bool value => [.literal (.bool value)]
  | .number literal => [.literal (.number literal)]
  | .text value => [.text value]
  | .array [] => [.openArray, .closeArray]
  | .array (item :: items) => .openArray :: tokens item ++ itemTokens items ++ [.closeArray]
  | .object [] => [.openObject, .closeObject]
  | .object ((key, value) :: fields) =>
    .openObject :: .text key :: .colon :: tokens value ++ fieldTokens fields ++ [.closeObject]

def itemTokens : List Json → List Token
  | [] => []
  | item :: items => .comma :: tokens item ++ itemTokens items

def fieldTokens : List (Option String × Json) → List Token
  | [] => []
  | (key, value) :: fields =>
    .comma :: .text key :: .colon :: tokens value ++ fieldTokens fields

end

/-- No number occurs in the value. -/
inductive NumberFree : Json → Prop where
  | null : NumberFree .null
  | bool (value : Bool) : NumberFree (.bool value)
  | text (value : Option String) : NumberFree (.text value)
  | array {items : List Json} (h : ∀ item ∈ items, NumberFree item) : NumberFree (.array items)
  | object {fields : List (Option String × Json)} (h : ∀ field ∈ fields, NumberFree field.2) :
    NumberFree (.object fields)

/-- Items are scanned with commas between them. -/
theorem scans_compactItems {items : List Json}
    (h : ∀ item ∈ items, Scans (compact item) (tokens item)) :
    Scans (compactItems items) (itemTokens items) := by
  induction items with
  | nil => exact .nil
  | cons item items ih =>
      obtain ⟨hitem, hitems⟩ := List.forall_mem_cons.1 h
      exact (Scans.comma.append hitem).append (ih hitems)

/-- So are fields, with their names. -/
theorem scans_compactFields {fields : List (Option String × Json)}
    (h : ∀ field ∈ fields, Scans (compact field.2) (tokens field.2)) :
    Scans (compactFields fields) (fieldTokens fields) := by
  induction fields with
  | nil => exact .nil
  | cons field fields ih =>
      obtain ⟨hfield, hfields⟩ := List.forall_mem_cons.1 h
      have hkey := (Scans.comma.append (.quote field.1)).append .colon
      simpa [compactFields, fieldTokens] using (hkey.append hfield).append (ih hfields)

/-- The text of a value without any space is scanned into the tokens of the value. -/
theorem NumberFree.scans_compact {value : Json} (h : value.NumberFree) :
    Scans (compact value) (tokens value) := by
  induction h with
  | null => exact .of_first? rfl fun _ => rfl
  | bool value => cases value <;> exact .of_first? rfl fun _ => rfl
  | text value => exact .quote value
  | @array items h ih =>
      cases items with
      | nil => exact Scans.openArray.append .closeArray
      | cons item items =>
          obtain ⟨hitem, hitems⟩ := List.forall_mem_cons.1 ih
          exact ((Scans.openArray.append hitem).append (scans_compactItems hitems)).append
            .closeArray
  | @object fields h ih =>
      cases fields with
      | nil => exact Scans.openObject.append .closeObject
      | cons field fields =>
          obtain ⟨hfield, hfields⟩ := List.forall_mem_cons.1 ih
          have hkey := (Scans.openObject.append (.quote field.1)).append .colon
          simpa [compact, tokens] using
            ((hkey.append hfield).append (scans_compactFields hfields)).append .closeObject

/-- Items on lines of their own. -/
theorem scans_prettyItems {level : Nat} {items : List Json}
    (h : ∀ item ∈ items, Scans (prettyAt level item) (tokens item)) :
    Scans (prettyItems level items) (itemTokens items) := by
  induction items with
  | nil => exact .nil
  | cons item items ih =>
      obtain ⟨hitem, hitems⟩ := List.forall_mem_cons.1 h
      exact ((Scans.comma.append (.newline level)).append hitem).append (ih hitems)

/-- Fields on lines of their own. -/
theorem scans_prettyFields {level : Nat} {fields : List (Option String × Json)}
    (h : ∀ field ∈ fields, Scans (prettyAt level field.2) (tokens field.2)) :
    Scans (prettyFields level fields) (fieldTokens fields) := by
  induction fields with
  | nil => exact .nil
  | cons field fields ih =>
      obtain ⟨hfield, hfields⟩ := List.forall_mem_cons.1 h
      have hkey := ((Scans.comma.append (.newline level)).append (.quote field.1)).append
        .colonSpace
      simpa [prettyFields, fieldTokens] using (hkey.append hfield).append (ih hfields)

/-- The text of a value with one item or field a line is scanned into the same tokens. -/
theorem NumberFree.scans_prettyAt {value : Json} (h : value.NumberFree) (level : Nat) :
    Scans (prettyAt level value) (tokens value) := by
  induction h generalizing level with
  | null => exact .of_first? rfl fun _ => rfl
  | bool value => cases value <;> exact .of_first? rfl fun _ => rfl
  | text value => exact .quote value
  | @array items h ih =>
      cases items with
      | nil => exact Scans.openArray.append .closeArray
      | cons item items =>
          obtain ⟨hitem, hitems⟩ := List.forall_mem_cons.1 ih
          have hopen := Scans.openArray.append (.newline (level + 1))
          have hitems := (hitem (level + 1)).append
            (scans_prettyItems fun other hother => hitems other hother (level + 1))
          have hclose := (Scans.newline level).append Scans.closeArray
          simpa [prettyAt, tokens] using (hopen.append hitems).append hclose
  | @object fields h ih =>
      cases fields with
      | nil => exact Scans.openObject.append .closeObject
      | cons field fields =>
          obtain ⟨hfield, hfields⟩ := List.forall_mem_cons.1 ih
          have hopen := ((Scans.openObject.append (.newline (level + 1))).append
            (.quote field.1)).append .colonSpace
          have hfields := (hfield (level + 1)).append
            (scans_prettyFields fun other hother => hfields other hother (level + 1))
          have hclose := (Scans.newline level).append Scans.closeObject
          simpa [prettyAt, tokens] using (hopen.append hfields).append hclose

/-! ## Reading the tokens -/

/-- The first token of a value does not end an array. -/
theorem foldlM_firstItem (value : Json) (stack : List Frame) :
    (tokens value).foldlM State.step (.firstItem stack) =
      (tokens value).foldlM State.step (.value (.array [] :: stack)) := by
  rcases value with _ | _ | _ | _ | (_ | ⟨item, items⟩) | (_ | ⟨field, fields⟩) <;> rfl

mutual

/-- **Values**: the tokens of a value complete that value, whatever is open around it. -/
theorem foldlM_tokens (value : Json) (stack : List Frame) :
    (tokens value).foldlM State.step (.value stack) = some (.ended value stack) := by
  match value with
  | .null | .bool _ | .number _ | .text _ | .array [] | .object [] => rfl
  | .array (item :: items) =>
      have hitem := foldlM_tokens item (.array [] :: stack)
      have hitems := foldlM_itemTokens items item [] stack
      rw [tokens, List.append_assoc]
      change (tokens item ++ _).foldlM State.step (.firstItem stack) = _
      rw [List.foldlM_append, foldlM_firstItem, hitem]
      exact hitems
  | .object ((key, value) :: fields) =>
      have hvalue := foldlM_tokens value (.object [] key :: stack)
      have hfields := foldlM_fieldTokens fields key value [] stack
      rw [tokens, List.append_assoc]
      change (tokens value ++ _).foldlM State.step (.value (.object [] key :: stack)) = _
      rw [List.foldlM_append, hvalue]
      exact hfields

/-- Items that follow another one, and the end of their array. -/
theorem foldlM_itemTokens (items : List Json) (last : Json) (before : List Json)
    (stack : List Frame) :
    (itemTokens items ++ [Token.closeArray]).foldlM State.step
        (.ended last (.array before :: stack)) =
      some (.ended (.array ((last :: before).reverse ++ items)) stack) := by
  match items with
  | [] => rw [List.append_nil]; rfl
  | item :: items =>
      have hitem := foldlM_tokens item (.array (last :: before) :: stack)
      have hitems := foldlM_itemTokens items item (last :: before) stack
      rw [List.reverse_cons, List.append_assoc, List.singleton_append] at hitems
      rw [itemTokens, List.append_assoc]
      change (tokens item ++ _).foldlM State.step (.value (.array (last :: before) :: stack)) = _
      rw [List.foldlM_append, hitem]
      exact hitems

/-- Fields that follow another one, and the end of their object. -/
theorem foldlM_fieldTokens (fields : List (Option String × Json)) (key : Option String)
    (last : Json) (before : List (Option String × Json)) (stack : List Frame) :
    (fieldTokens fields ++ [Token.closeObject]).foldlM State.step
        (.ended last (.object before key :: stack)) =
      some (.ended (.object (((key, last) :: before).reverse ++ fields)) stack) := by
  match fields with
  | [] => rw [List.append_nil]; rfl
  | (key', value) :: fields =>
      have hvalue := foldlM_tokens value (.object ((key, last) :: before) key' :: stack)
      have hfields := foldlM_fieldTokens fields key' value ((key, last) :: before) stack
      rw [List.reverse_cons, List.append_assoc, List.singleton_append] at hfields
      rw [fieldTokens, List.append_assoc]
      change (tokens value ++ _).foldlM State.step
        (.value (.object ((key, last) :: before) key' :: stack)) = _
      rw [List.foldlM_append, hvalue]
      exact hfields

end

/-- The tokens of a value are read back as that value. -/
theorem ofTokens?_tokens (value : Json) : ofTokens? (tokens value) = some value := by
  rw [ofTokens?, foldlM_tokens]
  rfl

/-! ## Texts of a value -/

/-- **Compact texts** are read back. -/
theorem NumberFree.parse?_print {value : Json} (h : value.NumberFree) :
    parse? (print value) = some value := by
  rw [parse?, print, String.toList_ofList, h.scans_compact.tokens?_eq, Option.bind_some,
    ofTokens?_tokens]

/-- **Texts with one item or field a line** are read back. -/
theorem NumberFree.parse?_pretty {value : Json} (h : value.NumberFree) :
    parse? (pretty value) = some value := by
  rw [parse?, pretty, String.toList_ofList, (h.scans_prettyAt 0).tokens?_eq, Option.bind_some,
    ofTokens?_tokens]

end TypeGraph.Json
