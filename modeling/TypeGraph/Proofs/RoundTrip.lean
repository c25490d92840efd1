import Mathlib.Data.List.Nodup
import TypeGraph.DeclarationFile
import TypeGraph.Proofs.JsonText

/-!
# TypeGraph.Proofs.RoundTrip

Declarations that are written to a JSON file and loaded from it are the same:

1. a record is written as a table in which fields without a value are left out, and
   read field by field (`Data.fields?_ofRecord`);
2. so each kind of declaration is read from what it is written as (`ofData?_toJson`);
3. and a file with a text that spells the whole is loaded as the whole
   (`Declarations.load_of_parse?`); that both texts do is `Json.NumberFree.parse?_print`
   and `Json.NumberFree.parse?_pretty`.
-/

namespace TypeGraph

namespace Data

/-! ## Lists -/

/-- A list of texts in a file. -/
def ofTexts (items : List String) : Data := .array (items.map .text)

/-- A list is read back if each of its elements is. -/
theorem mapM_map_eq_some {α β γ : Type} {read? : β → Option γ} {write : α → β} (value : α → γ)
    {list : List α} (h : ∀ a ∈ list, read? (write a) = some (value a)) :
    (list.map write).mapM read? = some (list.map value) := by
  induction list with
  | nil => rfl
  | cons a list ih =>
      obtain ⟨ha, hlist⟩ := List.forall_mem_cons.1 h
      rw [List.map_cons, List.mapM_cons, ha, ih hlist]
      rfl

/-- An array is read back if each of its items is. -/
theorem list?_array {α : Type} {read? : Data → Option α} {write : α → Data}
    (h : ∀ a, read? (write a) = some a) (items : List α) :
    list? read? (.array (items.map write)) = some items := by
  have hread := mapM_map_eq_some id fun a (_ : a ∈ items) => h a
  rw [List.map_id] at hread
  exact hread

/-- A list of texts is read back. -/
theorem texts?_ofTexts (items : List String) : texts? (ofTexts items) = some items := by
  have htext (item : String) : text? (.text item) = some item := rfl
  exact list?_array htext items

/-! ## Records -/

/-- A field of a record: its name, and its value if it has one. -/
abbrev Field := String × Option Data

/-- The table of a record: fields without a value are left out. -/
def entries (fields : List Field) : List (Option String × Data) :=
  fields.filterMap fun field => field.2.map (some field.1, ·)

/-- A record in a file. -/
def ofRecord (fields : List Field) : Data := .table (entries fields)

/-- Fields that are left out are so in each part. -/
theorem entries_append (first second : List Field) :
    entries (first ++ second) = entries first ++ entries second :=
  List.filterMap_append

/-- An entry comes from a field of its name. -/
theorem exists_of_mem_entries {fields : List Field} {entry : Option String × Data}
    (h : entry ∈ entries fields) : ∃ field ∈ fields, entry.1 = some field.1 := by
  obtain ⟨field, hfield, hentry⟩ := List.mem_filterMap.1 h
  obtain ⟨value, -, rfl⟩ := Option.map_eq_some_iff.1 hentry
  exact ⟨field, hfield, rfl⟩

/-- No field, no entry. -/
theorem filter_entries_of_notMem {fields : List Field} {name : String}
    (h : name ∉ fields.map (·.1)) : (entries fields).filter (·.1 == some name) = [] := by
  rw [List.filter_eq_nil_iff]
  intro entry hentry hname
  obtain ⟨field, hfield, hkey⟩ := exists_of_mem_entries hentry
  obtain rfl : field.1 = name := Option.some.inj (hkey.symm.trans (eq_of_beq hname))
  exact h (List.mem_map_of_mem hfield)

/-- The names of a record differ, so a field is found if it has a value. -/
theorem field?_entries {fields : List Field} (hnodup : (fields.map (·.1)).Nodup) {field : Field}
    (hfield : field ∈ fields) : field? (entries fields) field.1 = some field.2 := by
  obtain ⟨before, after, rfl⟩ := List.append_of_mem hfield
  rw [List.map_append, List.map_cons, List.nodup_middle, List.nodup_cons, List.mem_append,
    not_or] at hnodup
  have hbefore := filter_entries_of_notMem hnodup.1.1
  have hafter := filter_entries_of_notMem hnodup.1.2
  have hfilter : (entries (before ++ field :: after)).filter (·.1 == some field.1) =
      (entries [field]).filter (·.1 == some field.1) := by
    rw [← List.singleton_append, entries_append, entries_append, List.filter_append,
      List.filter_append, hbefore, hafter, List.nil_append, List.append_nil]
  rw [field?, hfilter]
  obtain ⟨name, _ | value⟩ := field
  · rfl
  · simp [entries]

/-- **Records**: what is read of a record under the names of its fields is their values. -/
theorem fields?_ofRecord (fields : List Field) (hnodup : (fields.map (·.1)).Nodup) :
    (ofRecord fields).fields? (fields.map (·.1)) = some (fields.map (·.2)) := by
  have hnames : (entries fields).all (·.1.isSome) = true := by
    rw [List.all_eq_true]
    intro entry hentry
    obtain ⟨field, -, hkey⟩ := exists_of_mem_entries hentry
    rw [hkey, Option.isSome_some]
  rw [ofRecord, fields?, if_pos hnames]
  exact mapM_map_eq_some _ fun field hfield => field?_entries hnodup hfield

@[simp] theorem withDefault_some {α : Type} (default : α) (read? : Data → Option α)
    (data : Data) : withDefault default read? (some data) = read? data := rfl

/-- An absent text is read back as absent. -/
theorem withDefault_map_text (value : Option String) :
    withDefault none optionalText? (value.map .text) = some value := by
  cases value <;> rfl

end Data

/-! ## JSON values -/

namespace Json

/-- Items become data one by one. -/
theorem itemsToData_eq (items : List Json) : itemsToData items = items.map toData := by
  induction items with
  | nil => rfl
  | cons item items ih => rw [itemsToData, ih, List.map_cons]

/-- Fields become data one by one, with their names. -/
theorem fieldsToData_eq (fields : List (Option String × Json)) :
    fieldsToData fields = fields.map fun field => (field.1, toData field.2) := by
  induction fields with
  | nil => rfl
  | cons field fields ih => rw [fieldsToData, ih, List.map_cons]

/-- An array of what is written becomes an array of what that becomes. -/
theorem toData_array_map {α : Type} (write : α → Json) (items : List α) :
    toData (.array (items.map write)) = .array (items.map fun item => toData (write item)) := by
  rw [toData, itemsToData_eq, List.map_map]
  rfl

theorem toData_ofStrings (items : List String) : toData (ofStrings items) = .ofTexts items :=
  toData_array_map ofString items

/-- A record becomes a table of its fields. -/
theorem toData_ofFields (fields : List (String × Json)) :
    toData (ofFields fields) = .table (fields.map fun field => (some field.1, toData field.2)) := by
  rw [ofFields, toData, fieldsToData_eq, List.map_map]
  rfl

namespace NumberFree

theorem ofString (s : String) : (ofString s).NumberFree := .text (some s)

theorem array_map {α : Type} {write : α → Json} (h : ∀ a, (write a).NumberFree) (items : List α) :
    (Json.array (items.map write)).NumberFree :=
  .array (List.forall_mem_map.2 fun a _ => h a)

theorem ofStrings (items : List String) : (ofStrings items).NumberFree :=
  array_map .ofString items

/-- A record without numbers in its fields has none. -/
theorem ofFields {fields : List (String × Json)} (h : ∀ field ∈ fields, field.2.NumberFree) :
    (ofFields fields).NumberFree :=
  .object (List.forall_mem_map.2 h)

end NumberFree

end Json

/-! ## Declarations -/

namespace MethodDeclaration

/-- The fields that a method is written with. -/
def record (method : MethodDeclaration) : List Data.Field :=
  [("name", some (.text method.name)), ("modifiers", some (.ofTexts method.modifiers))]

/-- A method becomes the record of its fields. -/
theorem toData_toJson (method : MethodDeclaration) :
    method.toJson.toData = .ofRecord method.record := by
  rw [toJson, Json.toData_ofFields]
  simp only [List.map_cons, Json.toData_ofStrings]
  rfl

/-- A method is read back. -/
theorem ofData?_toJson (method : MethodDeclaration) :
    ofData? method.toJson.toData = some method := by
  have hfields := Data.fields?_ofRecord method.record (by simp [record])
  rw [toData_toJson, ofData?]
  simp only [record, List.map_cons, List.map_nil] at hfields ⊢
  simp [hfields, Data.texts?_ofTexts, Data.text?]

/-- No field of a method is a number. -/
theorem numberFree_toJson (method : MethodDeclaration) : method.toJson.NumberFree :=
  .ofFields (by simp [Json.NumberFree.ofString, Json.NumberFree.ofStrings])

end MethodDeclaration

namespace ConstantDeclaration

/-- The fields that a constant is written with. -/
def record (constant : ConstantDeclaration) : List Data.Field :=
  [("name", some (.text constant.name)), ("value", constant.value.map .text)]

/-- A constant becomes the record of its fields. -/
theorem toData_toJson (constant : ConstantDeclaration) :
    constant.toJson.toData = .ofRecord constant.record := by
  rw [toJson, Json.toData_ofFields, record]
  cases constant.value <;> rfl

/-- A constant is read back, with its value or without one. -/
theorem ofData?_toJson (constant : ConstantDeclaration) :
    ofData? constant.toJson.toData = some constant := by
  have hfields := Data.fields?_ofRecord constant.record (by simp [record])
  rw [toData_toJson, ofData?]
  simp only [record, List.map_cons, List.map_nil] at hfields ⊢
  simp [hfields, Data.withDefault_map_text, Data.text?]

/-- No field of a constant is a number. -/
theorem numberFree_toJson (constant : ConstantDeclaration) : constant.toJson.NumberFree :=
  .ofFields (by simp [Json.NumberFree.ofString])

end ConstantDeclaration

namespace TypeDeclaration

/-- The fields that a type is written with. -/
def record (type : TypeDeclaration) : List Data.Field :=
  [("name", some (.text type.name)), ("parent", type.parent.map .text),
    ("interfaces", some (.ofTexts type.interfaces)), ("modifiers", some (.ofTexts type.modifiers)),
    ("methods", some (.array (type.methods.map (·.toJson.toData)))),
    ("constants", some (.array (type.constants.map (·.toJson.toData)))),
    ("file", type.file.map .text)]

/-- A type becomes the record of its fields. -/
theorem toData_toJson (type : TypeDeclaration) :
    type.toJson.toData = .ofRecord type.record := by
  rw [toJson, Json.toData_ofFields, record]
  simp only [List.map_append, List.map_cons, Json.toData_ofStrings, Json.toData_array_map]
  cases type.parent <;> cases type.file <;> rfl

/-- A type is read back, with its parent and its file or without them. -/
theorem ofData?_toJson (type : TypeDeclaration) :
    ofData? type.toJson.toData = some type := by
  have hfields := Data.fields?_ofRecord type.record (by simp [record])
  have hmethods := Data.list?_array MethodDeclaration.ofData?_toJson type.methods
  have hconstants := Data.list?_array ConstantDeclaration.ofData?_toJson type.constants
  rw [toData_toJson, ofData?]
  simp only [record, List.map_cons, List.map_nil] at hfields ⊢
  simp [hfields, hmethods, hconstants, Data.withDefault_map_text,
    Data.texts?_ofTexts, Data.text?]

/-- No field of a type is a number. -/
theorem numberFree_toJson (type : TypeDeclaration) : type.toJson.NumberFree := by
  have hmethods := Json.NumberFree.array_map MethodDeclaration.numberFree_toJson type.methods
  have hconstants := Json.NumberFree.array_map ConstantDeclaration.numberFree_toJson
    type.constants
  refine .ofFields ?_
  simp [or_imp, forall_and, hmethods, hconstants, Json.NumberFree.ofString,
    Json.NumberFree.ofStrings]

end TypeDeclaration

namespace PackageDeclaration

/-- The fields that a package is written with. -/
def record (package : PackageDeclaration) : List Data.Field :=
  [("name", some (.text package.name)),
    ("classes", some (.array (package.classes.map (·.toJson.toData)))),
    ("interfaces", some (.array (package.interfaces.map (·.toJson.toData)))),
    ("functions", some (.ofTexts package.functions))]

/-- A package becomes the record of its fields. -/
theorem toData_toJson (package : PackageDeclaration) :
    package.toJson.toData = .ofRecord package.record := by
  rw [toJson, Json.toData_ofFields]
  simp only [List.map_cons, Json.toData_ofStrings, Json.toData_array_map]
  rfl

/-- A package is read back, with all that it declares. -/
theorem ofData?_toJson (package : PackageDeclaration) :
    ofData? package.toJson.toData = some package := by
  have hfields := Data.fields?_ofRecord package.record (by simp [record])
  have htypes := Data.list?_array TypeDeclaration.ofData?_toJson
  rw [toData_toJson, ofData?]
  simp only [record, List.map_cons, List.map_nil] at hfields ⊢
  simp [hfields, htypes, Data.texts?_ofTexts, Data.text?]

/-- No field of a package is a number. -/
theorem numberFree_toJson (package : PackageDeclaration) : package.toJson.NumberFree := by
  have htypes := Json.NumberFree.array_map TypeDeclaration.numberFree_toJson
  refine .ofFields ?_
  simp [htypes, Json.NumberFree.ofString, Json.NumberFree.ofStrings]

end PackageDeclaration

namespace Declarations

/-- The fields that declarations are written with. -/
def record (declarations : Declarations) : List Data.Field :=
  [("packages", some (.array (declarations.packages.map (·.toJson.toData))))]

/-- Declarations become the record of their packages. -/
theorem toData_toJson (declarations : Declarations) :
    declarations.toJson.toData = .ofRecord declarations.record := by
  rw [toJson, Json.toData_ofFields]
  simp only [List.map_cons, Json.toData_array_map]
  rfl

/-- Declarations are read back. -/
theorem ofData?_toJson (declarations : Declarations) :
    ofData? declarations.toJson.toData = some declarations := by
  have hfields := Data.fields?_ofRecord declarations.record (by simp [record])
  have hpackages := Data.list?_array PackageDeclaration.ofData?_toJson declarations.packages
  rw [toData_toJson, ofData?]
  simp only [record, List.map_cons, List.map_nil] at hfields ⊢
  simp [hfields, hpackages]

/-- They have no numbers in them. -/
theorem numberFree_toJson (declarations : Declarations) : declarations.toJson.NumberFree := by
  have hpackages := Json.NumberFree.array_map PackageDeclaration.numberFree_toJson
    declarations.packages
  exact .ofFields (List.forall_mem_singleton.2 hpackages)

/-! ## Files -/

/-- A text that has been written to a file is read from it. -/
theorem readText_toUTF8 (text : String) : readText (some text.toUTF8) = .ok text := by
  have hutf8 : String.fromUTF8? text.toUTF8 = some text := by
    unfold String.fromUTF8?
    rw [String.toUTF8_eq_toByteArray, dif_pos text.isValidUTF8]
    rfl
  rw [readText, hutf8]

/-- A JSON file is loaded by what its text spells. -/
theorem load_of_parse? {path text : String} (hpath : Format.ofPath? path = some .json)
    {declarations : Declarations} (htext : Json.parse? text = some declarations.toJson) :
    load path (some text.toUTF8) = .ok declarations := by
  have hdata : (Format.json.readData? text).bind ofData? = some declarations := by
    rw [Format.readData?, Json.readData?, htext, Option.map_some, Option.bind_some,
      ofData?_toJson]
  rw [load, readText_toUTF8]
  simp only [hpath, hdata, Except.mapError, bind, Except.bind]
  rfl

/-- **Round trip**: declarations that are written to a JSON file, in either of its texts,
are loaded from it as they were, with what they leave out still left out. -/
theorem load_toJson (declarations : Declarations) {path : String}
    (hpath : Format.ofPath? path = some .json) :
    load path (some declarations.toJson.print.toUTF8) = .ok declarations ∧
      load path (some declarations.toJson.pretty.toUTF8) = .ok declarations :=
  ⟨load_of_parse? hpath declarations.numberFree_toJson.parse?_print,
    load_of_parse? hpath declarations.numberFree_toJson.parse?_pretty⟩

/-- Names that must be escaped, and next to each other a text that is empty and one that is
not there. -/
theorem load_toJson_of_empty_texts :
    let declarations : Declarations := ⟨[⟨"App\\Überbau",
      [⟨"\"Zoo\"\n\x01\x7f", none, ["", "𝔄/b"], ["abstract"], [⟨"run", []⟩],
        [⟨"LIMIT", some ""⟩, ⟨"NAME", none⟩], some ""⟩, ⟨"", some "", [], [], [], [], none⟩],
      [], ["ς\t"]⟩]⟩
    Format.ofPath? "out/model.Json" = some .json ∧
      load "out/model.Json" (some declarations.toJson.print.toUTF8) = .ok declarations ∧
      load "out/model.Json" (some declarations.toJson.pretty.toUTF8) = .ok declarations := by
  intro declarations
  have hpath : Format.ofPath? "out/model.Json" = some .json := by decide
  exact ⟨hpath, declarations.load_toJson hpath⟩

end Declarations

end TypeGraph
