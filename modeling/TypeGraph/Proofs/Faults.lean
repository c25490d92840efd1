import Mathlib.Data.List.DropRight
import TypeGraph.Proofs.BuildOutcome

/-!
# TypeGraph.Proofs.Faults

Which declarations are refused, and for what (`Model.build_fails_first`).

1. `Check` — one thing that has to be right about declarations, and the error if it is
   not;
2. `Declarations.checks` — all of these in one row: every keyword, package by package,
   then the references, type by type;
3. `Declarations.Faulty` — what may be wrong, without the order.

Building fails with the error of the first check that fails, and succeeds if there is
none; the placeholders have no check of their own.
-/

namespace TypeGraph

/-! ## Keywords -/

/-- The keyword is one of those that stand for a modifier, in any ASCII case. -/
def IsModifierKeyword (keyword : String) : Prop :=
  Text.asciiLowercase keyword ∈ ["abstract", "final", "static", "public", "protected", "private"]

instance (keyword : String) : Decidable (IsModifierKeyword keyword) :=
  inferInstanceAs (Decidable (_ ∈ _))

/-- The keywords that can be read are those that are known. -/
theorem isSome_ofKeyword?_iff (keyword : String) :
    (Modifiers.ofKeyword? keyword).isSome = true ↔ IsModifierKeyword keyword := by
  unfold Modifiers.ofKeyword? Modifiers.ofLowerKeyword? IsModifierKeyword
  split <;> simp_all

/-! ## Names -/

/-- The name consists of separators, with white space in front of them and behind
them. -/
def NamesNothing (name : String) : Prop :=
  ∃ front separators back : List Char, name.toList = front ++ separators ++ back ∧
    (∀ c ∈ front, Text.isBlank c = true) ∧ (∀ c ∈ separators, c = separator) ∧
      ∀ c ∈ back, Text.isBlank c = true

/-- Nothing is left of a name if it is made of separators. -/
theorem dropSeparators_eq_nil_iff {cs : List Char} :
    dropSeparators cs = [] ↔ ∀ c ∈ cs, c = separator := by
  simp only [dropSeparators, List.dropWhile_eq_nil_iff, beq_iff_eq]

/-- A text that does not start or end with white space is all that trimming leaves of
it. -/
theorem trim_append {front middle back : List Char} (hfront : ∀ c ∈ front, Text.isBlank c = true)
    (hmiddle : ∀ c ∈ middle, Text.isBlank c = false) (hback : ∀ c ∈ back, Text.isBlank c = true) :
    Text.trim (front ++ middle ++ back) = middle := by
  have hend : Text.trimEnd (middle ++ back) = middle := by
    have hstay : middle.rdropWhile Text.isBlank = middle := by
      rw [List.rdropWhile_eq_self_iff]
      intro hne
      rw [hmiddle _ (List.getLast_mem hne)]
      exact Bool.false_ne_true
    have hreverse : ∀ c ∈ back.reverse, Text.isBlank c = true := by simpa using hback
    rw [Text.trimEnd, List.reverse_append, List.dropWhile_append_of_pos hreverse]
    exact hstay
  rw [Text.trim, List.append_assoc, List.dropWhile_append_of_pos hfront]
  cases middle with
  | nil =>
      have hnone : back.dropWhile Text.isBlank = [] := List.dropWhile_eq_nil_iff.2 hback
      rw [List.nil_append, hnone]
      rfl
  | cons c middle =>
      have hfirst : ¬ Text.isBlank c = true := by simp [hmiddle c]
      rw [List.cons_append, List.dropWhile_cons_of_neg hfirst]
      exact hend

/-- A name is refused if nothing but white space and separators is in it. -/
theorem isBlankName_iff (name : String) : isBlankName name = true ↔ NamesNothing name := by
  rw [isBlankName, List.isEmpty_iff, dropSeparators_eq_nil_iff]
  constructor
  · intro hseparators
    let cs := name.toList
    refine ⟨cs.takeWhile Text.isBlank, Text.trim cs,
      (cs.dropWhile Text.isBlank).rtakeWhile Text.isBlank, ?_, ?_, hseparators, ?_⟩
    · have hend : Text.trim cs ++ (cs.dropWhile Text.isBlank).rtakeWhile Text.isBlank =
          cs.dropWhile Text.isBlank := List.rdropWhile_append_rtakeWhile ..
      rw [List.append_assoc, hend, List.takeWhile_append_dropWhile]
    · exact fun _ => List.mem_takeWhile_imp
    · exact fun _ => List.mem_rtakeWhile_imp
  · rintro ⟨front, separators, back, hname, hfront, hseparators, hback⟩
    have hmiddle : ∀ c ∈ separators, Text.isBlank c = false := by
      intro c hc
      rw [hseparators c hc]
      decide
    rwa [hname, trim_append hfront hmiddle hback]

instance (name : String) : Decidable (NamesNothing name) :=
  decidable_of_iff _ (isBlankName_iff name)

/-! ## Checks -/

/-- Something that has to be right about declarations. -/
inductive Check where
  /-- The keyword of a type or method stands for a modifier. -/
  | keyword (word : String)
  /-- The name of a parent or of an interface names something. -/
  | name (kind : TypeKind) (text : String)
  /-- The type, which has a parent, is a class. -/
  | parent (kind : TypeKind) (type : String)
  deriving DecidableEq, Repr

namespace Check

/-- It is right. -/
def Passes : Check → Prop
  | .keyword word => IsModifierKeyword word
  | .name _ text => ¬ NamesNothing text
  | .parent kind _ => kind = .classType

instance : (check : Check) → Decidable check.Passes
  | .keyword word => inferInstanceAs (Decidable (IsModifierKeyword word))
  | .name _ text => inferInstanceAs (Decidable (¬ NamesNothing text))
  | .parent kind _ => inferInstanceAs (Decidable (kind = .classType))

/-- What declarations are refused with if it is wrong. -/
def error : Check → ModelError
  | .keyword word => .unknownModifier word
  | .name kind _ => .blankName kind
  | .parent _ type => .interfaceWithParent type

/-- The error of a check that fails. -/
def fault? (check : Check) : Option ModelError := if check.Passes then none else some check.error

/-- Whatever is wrong is said to be an invalid argument. -/
theorem message_error (check : Check) :
    check.error.message = "Invalid argument: " ++ check.error.detail := by
  cases check <;> rfl

/-- A check that finds no fault passes. -/
theorem fault?_eq_none_iff {check : Check} : check.fault? = none ↔ check.Passes := by
  rw [fault?]
  split <;> simp [*]

/-- A check that does not pass finds its own fault. -/
theorem fault?_eq_some_iff {check : Check} {error : ModelError} :
    check.fault? = some error ↔ ¬ check.Passes ∧ error = check.error := by
  rw [fault?]
  split <;> simp [*, eq_comm]

end Check

/-- The keywords of a declared type, its own before those of its methods. -/
def TypeDeclaration.keywords (declaration : TypeDeclaration) : List String :=
  declaration.modifiers ++ declaration.methods.flatMap (·.modifiers)

/-- The checks on the references of a declared type: the name of the parent, whether
there may be a parent, then the names of the interfaces. -/
def Entry.referenceChecks (entry : Entry) : List Check :=
  (entry.declaration.parent.toList.flatMap fun name =>
    [.name .classType name, .parent entry.kind entry.declaration.name]) ++
      entry.declaration.interfaces.map (.name .interfaceType)

namespace Declarations

/-- All checks in turn: first all keywords, package by package, and of a package the
classes before the interfaces; then the references, type by type. -/
def checks (declarations : Declarations) : List Check :=
  declarations.entries.flatMap (·.declaration.keywords.map .keyword) ++
    declarations.entries.flatMap (·.referenceChecks)

/-- The check fails, and all checks before it pass. -/
def FailsFirst (declarations : Declarations) (check : Check) : Prop :=
  ∃ before after, declarations.checks = before ++ check :: after ∧
    (∀ earlier ∈ before, earlier.Passes) ∧ ¬ check.Passes

/-- Somewhere a keyword stands for no modifier, an interface has a parent, or the name of
a parent or of an interface names nothing. -/
def Faulty (declarations : Declarations) : Prop :=
  ∃ package ∈ declarations.packages,
    (∃ type ∈ package.classes ++ package.interfaces,
      ∃ keyword ∈ type.keywords, ¬ IsModifierKeyword keyword) ∨
    (∃ type ∈ package.interfaces, type.parent ≠ none) ∨
    ∃ type ∈ package.classes ++ package.interfaces,
      ∃ name ∈ type.parent.toList ++ type.interfaces, NamesNothing name

end Declarations

/-! ## The first check that fails -/

/-- The first hit in lists one after another is the first one in any of them. -/
theorem findSome?_flatMap {α β γ : Type} (f : β → Option γ) (g : α → List β) (list : List α) :
    (list.flatMap g).findSome? f = list.findSome? fun a => (g a).findSome? f := by
  induction list with
  | nil => rfl
  | cons a list ih => rw [List.flatMap_cons, List.findSome?_append, findSome?_cons_eq_or, ih]

/-- Checking keywords one by one is looking for the first unknown one. -/
theorem findSome?_keyword (keywords : List String) :
    (keywords.map Check.keyword).findSome? Check.fault? = keywordFault? keywords := by
  induction keywords with
  | nil => rfl
  | cons keyword keywords ih =>
      rw [List.map_cons, findSome?_cons_eq_or, ih, keywordFault?_cons]
      by_cases h : IsModifierKeyword keyword
      · obtain ⟨modifiers, hmodifiers⟩ :=
          Option.isSome_iff_exists.1 ((isSome_ofKeyword?_iff keyword).2 h)
        have hpasses : (Check.keyword keyword).fault? = none := Check.fault?_eq_none_iff.2 h
        rw [hpasses, hmodifiers, Option.none_or]
      · have hunknown : Modifiers.ofKeyword? keyword = none := by
          rwa [← isSome_ofKeyword?_iff, Option.not_isSome_iff_eq_none] at h
        have hfails : (Check.keyword keyword).fault? = some (.unknownModifier keyword) :=
          Check.fault?_eq_some_iff.2 ⟨h, rfl⟩
        rw [hfails, hunknown, Option.some_or]

/-- The check of a name refuses what making a reference refuses. -/
theorem fault?_name (kind : TypeKind) (name : String) :
    (Check.name kind name).fault? = blankFault? kind name := by
  by_cases h : NamesNothing name
  · have hfails : (Check.name kind name).fault? = some (.blankName kind) :=
      Check.fault?_eq_some_iff.2 ⟨not_not.2 h, rfl⟩
    rw [hfails, blankFault?, if_pos ((isBlankName_iff name).2 h)]
  · have hpasses : (Check.name kind name).fault? = none := Check.fault?_eq_none_iff.2 h
    rw [hpasses, blankFault?, if_neg (mt (isBlankName_iff name).1 h)]

/-- The check of a parent refuses interfaces. -/
theorem fault?_parent (kind : TypeKind) (type : String) : (Check.parent kind type).fault? =
    if kind ≠ .classType then some (.interfaceWithParent type) else none := by
  cases kind <;> rfl

/-- The keyword checks of a declaration. -/
theorem TypeDeclaration.findSome?_keywords (declaration : TypeDeclaration) :
    (declaration.keywords.map Check.keyword).findSome? Check.fault? =
      declaration.keywordFault? := by
  rw [keywords, List.map_append, List.findSome?_append, findSome?_keyword, List.map_flatMap,
    findSome?_flatMap, TypeDeclaration.keywordFault?]
  simp only [findSome?_keyword]

/-- The reference checks of a declaration, the parent first. -/
theorem Entry.findSome?_referenceChecks (entry : Entry) :
    entry.referenceChecks.findSome? Check.fault? = entry.referenceFault? := by
  have hinterfaces (names : List String) :
      (names.map (Check.name .interfaceType)).findSome? Check.fault? =
        names.findSome? (blankFault? .interfaceType) := by
    rw [List.findSome?_map]
    congr 1
    exact funext (fault?_name .interfaceType)
  rw [referenceChecks, List.findSome?_append, hinterfaces, referenceFault?, parentFault?]
  congr 1
  cases entry.declaration.parent with
  | none => rfl
  | some name =>
      simp only [Option.toList_some, List.flatMap_singleton, Option.bind_some,
        findSome?_cons_eq_or, List.findSome?_nil, Option.or_none, fault?_name, fault?_parent]

namespace Declarations

variable {declarations : Declarations}

/-- The fault of declarations is that of the first check that does not pass. -/
theorem fault?_eq_findSome? (declarations : Declarations) :
    declarations.fault? = declarations.checks.findSome? Check.fault? := by
  rw [checks, List.findSome?_append, findSome?_flatMap, findSome?_flatMap, fault?]
  simp only [TypeDeclaration.findSome?_keywords, Entry.findSome?_referenceChecks]

/-- Declarations are at fault with the error of the check that fails first. -/
theorem fault?_eq_some_iff {error : ModelError} :
    declarations.fault? = some error ↔
      ∃ check, declarations.FailsFirst check ∧ error = check.error := by
  rw [fault?_eq_findSome?, List.findSome?_eq_some_iff]
  constructor
  · rintro ⟨before, check, after, hchecks, hfault, hbefore⟩
    obtain ⟨hfails, rfl⟩ := Check.fault?_eq_some_iff.1 hfault
    exact ⟨check, ⟨before, after, hchecks,
      fun earlier h => Check.fault?_eq_none_iff.1 (hbefore earlier h), hfails⟩, rfl⟩
  · rintro ⟨check, ⟨before, after, hchecks, hbefore, hfails⟩, rfl⟩
    exact ⟨before, check, after, hchecks, Check.fault?_eq_some_iff.2 ⟨hfails, rfl⟩,
      fun earlier h => Check.fault?_eq_none_iff.2 (hbefore earlier h)⟩

/-! ## Any check that fails -/

/-- Some check fails if one of a declaration does. -/
theorem exists_fails_iff (declarations : Declarations) :
    (∃ check ∈ declarations.checks, ¬ check.Passes) ↔
      ∃ entry ∈ declarations.entries,
        (∃ check ∈ entry.declaration.keywords.map Check.keyword, ¬ check.Passes) ∨
          ∃ check ∈ entry.referenceChecks, ¬ check.Passes := by
  simp only [checks, List.mem_append, List.mem_flatMap]
  grind

end Declarations

/-- What may be wrong about the references of a declared type. -/
theorem Entry.exists_fails_iff (entry : Entry) :
    (∃ check ∈ entry.referenceChecks, ¬ check.Passes) ↔
      (entry.kind = .interfaceType ∧ entry.declaration.parent ≠ none) ∨
        ∃ name ∈ entry.declaration.parent.toList ++ entry.declaration.interfaces,
          NamesNothing name := by
  have hkind : entry.kind ≠ .classType ↔ entry.kind = .interfaceType := by
    cases entry.kind <;> decide
  have hinterfaces : (∃ check ∈ entry.declaration.interfaces.map (Check.name .interfaceType),
      ¬ check.Passes) ↔ ∃ name ∈ entry.declaration.interfaces, NamesNothing name := by
    simp [Check.Passes]
  unfold referenceChecks
  simp only [List.mem_append, or_and_right, exists_or, hinterfaces]
  rw [← or_assoc]
  refine or_congr ?_ Iff.rfl
  cases entry.declaration.parent with
  | none => simp
  | some name => simp [Check.Passes, ← hkind, or_comm]

namespace PackageDeclaration

variable (package : PackageDeclaration) (holds : TypeDeclaration → Prop)

/-- A package declares its classes and its interfaces. -/
theorem exists_entry_iff : (∃ entry ∈ package.entries, holds entry.declaration) ↔
    ∃ type ∈ package.classes ++ package.interfaces, holds type := by
  simp [entries, or_and_right, exists_or]

/-- What it declares as interfaces. -/
theorem exists_interface_entry_iff :
    (∃ entry ∈ package.entries, entry.kind = .interfaceType ∧ holds entry.declaration) ↔
      ∃ type ∈ package.interfaces, holds type := by
  simp [entries, or_and_right, exists_or]

end PackageDeclaration

namespace Declarations

variable {declarations : Declarations}

/-- Some check fails if one of the three faults is there. -/
theorem exists_fails_iff_faulty :
    (∃ check ∈ declarations.checks, ¬ check.Passes) ↔ declarations.Faulty := by
  have hkeywords (keywords : List String) :
      (∃ check ∈ keywords.map Check.keyword, ¬ check.Passes) ↔
        ∃ keyword ∈ keywords, ¬ IsModifierKeyword keyword := by
    simp [Check.Passes]
  have hpackages (holds : Entry → Prop) : (∃ entry ∈ declarations.entries, holds entry) ↔
      ∃ package ∈ declarations.packages, ∃ entry ∈ package.entries, holds entry := by
    simp only [entries, List.mem_flatMap]
    grind
  rw [exists_fails_iff, hpackages, Faulty]
  refine exists_congr fun package => and_congr_right fun _ => ?_
  simp only [hkeywords, Entry.exists_fails_iff, and_or_left, exists_or]
  refine or_congr ?_ (or_congr ?_ ?_)
  · exact package.exists_entry_iff fun type =>
      ∃ keyword ∈ type.keywords, ¬ IsModifierKeyword keyword
  · exact package.exists_interface_entry_iff (·.parent ≠ none)
  · exact package.exists_entry_iff fun type =>
      ∃ name ∈ type.parent.toList ++ type.interfaces, NamesNothing name

/-- There is a first check that fails if there is any. -/
theorem exists_fault_iff_faulty : (∃ error, declarations.fault? = some error) ↔
    declarations.Faulty := by
  rw [← exists_fails_iff_faulty, ← Option.isSome_iff_exists, fault?_eq_findSome?,
    List.findSome?_isSome_iff]
  simp only [Option.isSome_iff_ne_none, ne_eq, Check.fault?_eq_none_iff]

end Declarations

/-! ## Building -/

/-- An edit that has no fault is carried out. -/
theorem Edit.Does.exists_ok {α : Type} {edit : Edit α} {model : Model} {post : α → Model → Prop}
    (h : edit.Does model none post) : ∃ a after, edit model = .ok a after ∧ post a after := by
  rw [Edit.Does] at h
  cases hedit : edit model with
  | ok a after =>
      rw [hedit] at h
      exact ⟨a, after, rfl, h.2⟩
  | error error after =>
      rw [hedit] at h
      cases h

namespace Model

variable {origin : Nat} {filters : Filters} {declarations : Declarations}

/-- Building is refused with the fault of the declarations, and only then. -/
theorem build_eq_error_iff {placeholders : Bool} {error : ModelError} :
    Model.build origin filters placeholders declarations = .error error ↔
      declarations.fault? = some error := by
  rw [build_eq]
  cases declarations.fault? <;> simp

/-- No placeholder is refused once all that is declared is there. -/
theorem addPlaceholders_of_build {bare : Model}
    (h : Model.build origin filters false declarations = .ok bare) :
    ∃ model, bare.missingTypes.forM Edit.addPlaceholder bare = .ok ⟨⟩ model ∧
      Model.build origin filters true declarations = .ok model := by
  obtain ⟨hfault, rfl⟩ := (build_eq_wired_iff origin filters declarations).1 h
  have hwired := depicts_wired origin filters declarations
  obtain ⟨_, model, hadded, hmodel⟩ := (Edit.does_forM_addPlaceholder hwired _).exists_ok
  exact ⟨model, hadded, (build_eq_completed_iff origin filters declarations).2 ⟨hfault, hmodel⟩⟩

/-- **Faults**: declarations are refused if a keyword stands for no modifier, if an
interface has a parent, or if a name names nothing; with the error of the first check
that fails, which says that an argument is invalid; and never for a placeholder. -/
theorem build_fails_first (origin : Nat) (filters : Filters) (placeholders : Bool)
    (declarations : Declarations) :
    ((∃ error, Model.build origin filters placeholders declarations = .error error) ↔
        declarations.Faulty) ∧
      (∀ error, Model.build origin filters placeholders declarations = .error error ↔
        ∃ check, declarations.FailsFirst check ∧ error = check.error ∧
          error.message = "Invalid argument: " ++ error.detail) ∧
      ∀ bare, Model.build origin filters false declarations = .ok bare →
        ∃ model, bare.missingTypes.forM Edit.addPlaceholder bare = .ok ⟨⟩ model ∧
          Model.build origin filters true declarations = .ok model := by
  refine ⟨?_, fun error => ?_, fun bare => addPlaceholders_of_build⟩
  · simp only [build_eq_error_iff]
    exact Declarations.exists_fault_iff_faulty
  · rw [build_eq_error_iff, Declarations.fault?_eq_some_iff]
    refine exists_congr fun check => and_congr_right fun _ => ?_
    constructor
    · rintro rfl
      exact ⟨rfl, check.message_error⟩
    · exact And.left

/-- A keyword of a method in the second package is at fault before a blank parent in the
first one, and the blank name of a parent before the parent; nothing is wrong about a
name of separators and white space that ends in something else. -/
theorem build_fails_first_of_several_faults :
    let declare (name : String) (parent : Option String) (methods : List MethodDeclaration) :
      TypeDeclaration := ⟨name, parent, [], ["FINAL"], methods, [], none⟩
    let blank : Declarations := ⟨[⟨"App", [declare "A" (some "Base") []],
      [declare "I" (some " \\\\ ") []], []⟩]⟩
    let unknown : Declarations :=
      ⟨blank.packages ++ [⟨"Lib", [declare "B" none [⟨"m", ["Public", "virtual"]⟩]], [], []⟩]⟩
    let sound : Declarations := ⟨[⟨"App", [declare "A" (some "\\ Base") []], [], []⟩]⟩
    Model.build 0 .empty false blank = .error (.blankName .classType) ∧
      Model.build 0 .empty true unknown = .error (.unknownModifier "virtual") ∧
        ∃ bare, Model.build 0 .empty false sound = .ok bare ∧
          ∃ model, bare.missingTypes.forM Edit.addPlaceholder bare = .ok ⟨⟩ model ∧
            Model.build 0 .empty true sound = .ok model := by
  intro declare blank unknown sound
  refine ⟨?_, ?_, ?_⟩
  · refine ((build_fails_first 0 .empty false blank).2.1 _).2
      ⟨.name .classType " \\\\ ", ?_, rfl, rfl⟩
    exact ⟨[.keyword "FINAL", .keyword "FINAL", .name .classType "Base", .parent .classType "A"],
      [.parent .interfaceType "I"], by decide, by decide, by decide⟩
  · refine ((build_fails_first 0 .empty true unknown).2.1 _).2 ⟨.keyword "virtual", ?_, rfl, rfl⟩
    exact ⟨[.keyword "FINAL", .keyword "FINAL", .keyword "FINAL", .keyword "Public"], _,
      rfl, by decide, by decide⟩
  · have hbuild := (build_eq_wired_iff 0 .empty sound).2 ⟨by decide, rfl⟩
    exact ⟨_, hbuild, (build_fails_first 0 .empty false sound).2.2 _ hbuild⟩

end Model

end TypeGraph
