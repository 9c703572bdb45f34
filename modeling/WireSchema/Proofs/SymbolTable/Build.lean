/-
WireSchema.Proofs.SymbolTable.Build — which schemas have a symbol table, and what it holds.

`Buildable` lists the rules of one file, none of which looks at the order of the declarations, and
`BuiltFrom` reads the symbol table off the schema. One declaration keeps both in step
(`BuiltFrom.declare`, `BuiltFrom.buildable_append_iff`), so a whole schema does:

* `builtFrom_of_build` — a built table holds what the schema declares, each name under one kind;
* `exists_build_iff` — a schema is built exactly when it keeps the rules.
-/
import Mathlib.Data.List.Induction
import Mathlib.Data.List.Nodup
import Mathlib.Data.List.Pairwise
import WireSchema.Proofs.Outcome
import WireSchema.SymbolTable.Build

namespace WireSchema

open WireSchema.Outcome

/-! ## Reading a schema -/

namespace Source.Declaration

@[simp] def namespace? : Declaration → Option (List String)
  | inNamespace path => some path
  | _ => none

@[simp] def include? : Declaration → Option String
  | includeFile path => some path
  | _ => none

@[simp] def attribute? : Declaration → Option String
  | attributeName name => some name
  | _ => none

@[simp] def extension? : Declaration → Option String
  | fileExtension extension => some extension
  | _ => none

@[simp] def identifier? : Declaration → Option String
  | fileIdentifier identifier => some identifier
  | _ => none

/-- The name of a declared type. -/
@[simp] def typeName? : Declaration → Option String
  | enum decl => some decl.name
  | union decl => some decl.name
  | struct decl => some decl.name
  | table decl => some decl.name
  | _ => none

/-- A declaration gives a type a name. -/
inductive Makes : Declaration → String → Symbol.Declared → Prop
  | enum {decl : Source.Enum} {e : Symbol.Enum} (h : Symbol.Enum.ofSource decl = .ok e) :
      Makes (.enum decl) decl.name (.enum e)
  | union {decl : Source.Union} {u : Symbol.Union} (h : Symbol.Union.ofSource decl = .ok u) :
      Makes (.union decl) decl.name (.union u)
  | struct {decl : Source.Compound} {s : Symbol.Compound}
      (h : Symbol.Compound.ofSource .struct decl = .ok s) :
      Makes (.struct decl) decl.name (.struct s)
  | table {decl : Source.Compound} {t : Symbol.Compound}
      (h : Symbol.Compound.ofSource .table decl = .ok t) :
      Makes (.table decl) decl.name (.table t)

theorem Makes.typeName? {d : Declaration} {name : String} {declared : Symbol.Declared}
    (h : d.Makes name declared) : d.typeName? = some name := by
  cases h <;> rfl

theorem Makes.kind_ne {d : Declaration} {name : String} {declared : Symbol.Declared}
    (h : d.Makes name declared) : declared.kind ≠ .primitive := by
  cases h <;> simp [Symbol.Declared.kind]

/-- A declaration makes one type. -/
theorem Makes.iff {d : Declaration} {name other : String} {declared type : Symbol.Declared}
    (h : d.Makes name type) : d.Makes other declared ↔ other = name ∧ declared = type := by
  constructor
  · intro h'
    cases h <;> cases h' <;> simp_all
  · rintro ⟨rfl, rfl⟩
    exact h

/-- What a declaration has to be on its own. -/
def IsSound : Declaration → Prop
  | attributeName name => Metadata.isReserved name = false
  | rootType name => Primitive.ofName? name = none
  | fileIdentifier identifier => identifier.utf8ByteSize = Wire.fileIdentifierLength
  | includeFile _ | inNamespace _ | fileExtension _ => True
  | d => ∀ name, d.typeName? = some name →
    Primitive.ofName? name = none ∧ ∃ declared, d.Makes name declared

/-- Two declarations that one file cannot have both. -/
def Clash (d e : Declaration) : Prop :=
  (d.namespace? ≠ none ∧ e.namespace? ≠ none) ∨
  (d.extension? ≠ none ∧ e.extension? ≠ none) ∨
  (d.identifier? ≠ none ∧ e.identifier? ≠ none) ∨
  (∃ name, d.attribute? = some name ∧ e.attribute? = some name) ∨
  ∃ name, d.typeName? = some name ∧ e.typeName? = some name

theorem Clash.symm {d e : Declaration} (h : d.Clash e) : e.Clash d := by
  simpa only [Clash, and_comm] using h

instance : Std.Symm fun d e : Declaration => ¬ d.Clash e :=
  ⟨fun _ _ h hback => h hback.symm⟩

section

variable {d e : Declaration}

theorem isSound_of_typeName? {name : String} (h : d.typeName? = some name) :
    d.IsSound ↔ Primitive.ofName? name = none ∧ ∃ declared, d.Makes name declared := by
  cases d <;> cases h <;> simp [IsSound]

theorem clash_of_typeName? {name : String} (h : d.typeName? = some name) :
    e.Clash d ↔ e.typeName? = some name := by
  cases d <;> cases h <;> simp [Clash]

@[simp] theorem not_clash_includeFile (path : String) : ¬ e.Clash (.includeFile path) := by
  simp [Clash]

@[simp] theorem not_clash_rootType (name : String) : ¬ e.Clash (.rootType name) := by
  simp [Clash]

@[simp] theorem clash_inNamespace_iff (path : List String) :
    e.Clash (.inNamespace path) ↔ e.namespace? ≠ none := by
  simp [Clash]

@[simp] theorem clash_attributeName_iff (name : String) :
    e.Clash (.attributeName name) ↔ e.attribute? = some name := by
  simp [Clash]

@[simp] theorem clash_fileExtension_iff (extension : String) :
    e.Clash (.fileExtension extension) ↔ e.extension? ≠ none := by
  simp [Clash]

@[simp] theorem clash_fileIdentifier_iff (identifier : String) :
    e.Clash (.fileIdentifier identifier) ↔ e.identifier? ≠ none := by
  simp [Clash]

end

end Source.Declaration

/-- The rules of one file. -/
structure Source.Buildable (schema : Schema) : Prop where
  sound : ∀ d ∈ schema, d.IsSound
  compatible : schema.Pairwise fun d e => ¬ d.Clash e

theorem Source.buildable_append_iff {schema : Schema} {d : Declaration} :
    Buildable (schema ++ [d]) ↔
      Buildable schema ∧ d.IsSound ∧ ∀ e ∈ schema, ¬ e.Clash d := by
  constructor
  · rintro ⟨hsound, hcompatible⟩
    obtain ⟨hschema, _, hd⟩ := List.pairwise_append.mp hcompatible
    exact ⟨⟨fun e he => hsound e (List.mem_append_left _ he), hschema⟩, hsound d (by simp),
      fun e he => hd e he d (by simp)⟩
  · rintro ⟨⟨hsound, hcompatible⟩, hd, hclash⟩
    refine ⟨fun e he => ?_, List.pairwise_append.mpr ⟨hcompatible, by simp, by simpa using hclash⟩⟩
    rcases List.mem_append.mp he with he | he
    · exact hsound e he
    · exact List.mem_singleton.mp he ▸ hd


namespace SymbolTable

variable {file after : SymbolTable} {name : String} {schema : Source.Schema}
  {d : Source.Declaration}

/-- A name is declared as a type of this kind. -/
def Holds (file : SymbolTable) (name : String) : Symbol.Declared → Prop
  | .primitive _ => False
  | .enum e => file.enums.get? name = some e
  | .union u => file.unions.get? name = some u
  | .struct s => file.structs.get? name = some s
  | .table t => file.tables.get? name = some t

/-- A symbol table holds what a schema declares. -/
structure BuiltFrom (schema : Source.Schema) (file : SymbolTable) : Prop where
  namespacePath : file.namespacePath.toList = schema.filterMap (·.namespace?)
  includes : file.includes = schema.filterMap (·.include?)
  attributes : file.attributes = schema.filterMap (·.attribute?)
  rootTypes : ∀ name, name ∈ file.rootTypes ↔ .rootType name ∈ schema
  nodup_rootTypes : file.rootTypes.Nodup
  fileIdentifier : file.fileIdentifier.toList = schema.filterMap (·.identifier?)
  fileExtension : file.fileExtension.toList = schema.filterMap (·.extension?)
  declarationOrder : file.declarationOrder = schema.filterMap (·.typeName?)
  holds : ∀ name declared, file.Holds name declared ↔ ∃ d ∈ schema, d.Makes name declared

/-! ## Finding what is declared -/

/-- What is found by name is declared; no primitive is. -/
theorem holds_of_find? {declared : Symbol.Declared} (h : file.find? name = some declared) :
    file.Holds name declared := by
  simp only [find?, Option.or_eq_some_iff, Option.map_eq_some_iff] at h
  rcases h with ⟨e, he, rfl⟩ | ⟨_, ⟨u, hu, rfl⟩ | ⟨_, ⟨s, hs, rfl⟩ | ⟨_, t, ht, rfl⟩⟩⟩
  · exact he
  · exact hu
  · exact hs
  · exact ht

theorem find?_eq_none_iff : file.find? name = none ↔ ∀ declared, ¬ file.Holds name declared := by
  constructor
  · intro h declared hholds
    simp only [find?, Option.or_eq_none_iff, Option.map_eq_none_iff] at h
    obtain ⟨henums, hunions, hstructs, htables⟩ := h
    cases declared with
    | primitive p => exact hholds
    | enum e => rw [Holds, henums] at hholds; cases hholds
    | union u => rw [Holds, hunions] at hholds; cases hholds
    | struct s => rw [Holds, hstructs] at hholds; cases hholds
    | table t => rw [Holds, htables] at hholds; cases hholds
  · intro h
    cases hfind : file.find? name with
    | none => rfl
    | some declared => exact (h declared (holds_of_find? hfind)).elim

/-! ## One declaration -/

/-- The table with one more type. -/
def add (file : SymbolTable) (name : String) (declared : Symbol.Declared) : SymbolTable :=
  { file with
    enums := match declared with
      | .enum e => file.enums.insert name e
      | _ => file.enums
    unions := match declared with
      | .union u => file.unions.insert name u
      | _ => file.unions
    structs := match declared with
      | .struct s => file.structs.insert name s
      | _ => file.structs
    tables := match declared with
      | .table t => file.tables.insert name t
      | _ => file.tables
    declarationOrder := file.declarationOrder ++ [name] }

theorem checkNew_build_eq_ok_iff {α : Type} {built : Except BuildFault α} {add : α → SymbolTable} :
    (do file.checkNew name; let type ← built; return add type) = .ok after ↔
      file.typeExists name = false ∧ ∃ type, built = .ok type ∧ after = add type := by
  simp only [bind_eq_ok_iff, checkNew]
  cases file.typeExists name <;> simp [pure, Except.pure, eq_comm]

/-- A type is added if its name is new and it can be built. -/
theorem declare_type_eq_ok_iff (h : d.typeName? = some name) :
    file.declare d = .ok after ↔ file.typeExists name = false ∧
      ∃ declared, d.Makes name declared ∧ after = file.add name declared := by
  cases d with
  | enum decl =>
    obtain rfl := Option.some.inj h
    rw [declare, checkNew_build_eq_ok_iff]
    refine and_congr_right fun _ => ⟨?_, ?_⟩
    · rintro ⟨e, he, rfl⟩
      exact ⟨_, .enum he, rfl⟩
    · rintro ⟨_, hmakes, rfl⟩
      cases hmakes with
      | enum he => exact ⟨_, he, rfl⟩
  | union decl =>
    obtain rfl := Option.some.inj h
    rw [declare, checkNew_build_eq_ok_iff]
    refine and_congr_right fun _ => ⟨?_, ?_⟩
    · rintro ⟨u, hu, rfl⟩
      exact ⟨_, .union hu, rfl⟩
    · rintro ⟨_, hmakes, rfl⟩
      cases hmakes with
      | union hu => exact ⟨_, hu, rfl⟩
  | struct decl =>
    obtain rfl := Option.some.inj h
    rw [declare, checkNew_build_eq_ok_iff]
    refine and_congr_right fun _ => ⟨?_, ?_⟩
    · rintro ⟨s, hs, rfl⟩
      exact ⟨_, .struct hs, rfl⟩
    · rintro ⟨_, hmakes, rfl⟩
      cases hmakes with
      | struct hs => exact ⟨_, hs, rfl⟩
  | table decl =>
    obtain rfl := Option.some.inj h
    rw [declare, checkNew_build_eq_ok_iff]
    refine and_congr_right fun _ => ⟨?_, ?_⟩
    · rintro ⟨t, ht, rfl⟩
      exact ⟨_, .table ht, rfl⟩
    · rintro ⟨_, hmakes, rfl⟩
      cases hmakes with
      | table ht => exact ⟨_, ht, rfl⟩
  | _ => cases h

/-- A new name is added and no other is touched. -/
theorem holds_add {type declared : Symbol.Declared} (hnew : ∀ declared, ¬ file.Holds name declared)
    (htype : type.kind ≠ .primitive) {other : String} :
    (file.add name type).Holds other declared ↔
      (other = name ∧ declared = type) ∨ file.Holds other declared := by
  have hfresh := hnew declared
  cases type <;> cases declared <;> by_cases hother : other = name <;>
    simp_all [add, Holds, Symbol.Declared.kind, eq_comm]

/-- What one declaration adds to a table. -/
structure Adds (d : Source.Declaration) (file after : SymbolTable) : Prop where
  namespacePath : after.namespacePath.toList = file.namespacePath.toList ++ d.namespace?.toList
  includes : after.includes = file.includes ++ d.include?.toList
  attributes : after.attributes = file.attributes ++ d.attribute?.toList
  rootTypes : ∀ name, name ∈ after.rootTypes ↔ name ∈ file.rootTypes ∨ d = .rootType name
  nodup_rootTypes : file.rootTypes.Nodup → after.rootTypes.Nodup
  fileIdentifier : after.fileIdentifier.toList = file.fileIdentifier.toList ++ d.identifier?.toList
  fileExtension : after.fileExtension.toList = file.fileExtension.toList ++ d.extension?.toList
  declarationOrder : after.declarationOrder = file.declarationOrder ++ d.typeName?.toList
  holds : ∀ name declared,
    after.Holds name declared ↔ file.Holds name declared ∨ d.Makes name declared

theorem holds_iff_of_header (hname : d.typeName? = none) (hsame : after.Holds = file.Holds)
    (name : String) (declared : Symbol.Declared) :
    after.Holds name declared ↔ file.Holds name declared ∨ d.Makes name declared := by
  rw [hsame, or_iff_left]
  intro hmakes
  rw [hmakes.typeName?] at hname
  cases hname

/-- **Step of the build.** -/
theorem adds_of_declare (h : file.declare d = .ok after) : Adds d file after := by
  cases htype : d.typeName? with
  | some name =>
    obtain ⟨hnew, type, hmakes, rfl⟩ := (declare_type_eq_ok_iff htype).mp h
    have hfresh : ∀ declared, ¬ file.Holds name declared := by
      rw [← find?_eq_none_iff]
      simpa using (Bool.or_eq_false_iff.mp hnew).2
    constructor
    case holds =>
      intro other declared
      rw [holds_add hfresh hmakes.kind_ne, hmakes.iff, or_comm]
    all_goals cases hmakes <;> simp [add]
  | none =>
    cases d with
    | includeFile path =>
      cases h
      constructor
      case holds => exact holds_iff_of_header htype rfl
      all_goals simp
    | inNamespace path =>
      simp only [declare] at h
      split at h <;> cases h
      rename_i hnone
      constructor
      case holds => exact holds_iff_of_header htype rfl
      all_goals simp [hnone]
    | attributeName name =>
      simp only [declare] at h
      split at h
      · cases h
      · split at h <;> cases h
        constructor
        case holds => exact holds_iff_of_header htype rfl
        all_goals simp
    | rootType name =>
      simp only [declare] at h
      split at h
      · cases h
      · split at h <;> cases h
        · rename_i hknown
          constructor
          case holds => exact holds_iff_of_header htype rfl
          case rootTypes =>
            intro other
            have hmem : name ∈ file.rootTypes := by simpa using hknown
            simp only [Source.Declaration.rootType.injEq]
            exact (or_iff_left_of_imp fun heq => heq ▸ hmem).symm
          all_goals simp
        · rename_i hfresh
          constructor
          case holds => exact holds_iff_of_header htype rfl
          case nodup_rootTypes =>
            intro hnodup
            simpa [List.nodup_append, hnodup] using fun a ha heq => hfresh (by simpa [heq] using ha)
          all_goals simp [eq_comm]
    | fileExtension extension =>
      simp only [declare] at h
      split at h <;> cases h
      rename_i hnone
      constructor
      case holds => exact holds_iff_of_header htype rfl
      all_goals simp [hnone]
    | fileIdentifier identifier =>
      simp only [declare] at h
      split at h
      · cases h
      · split at h <;> cases h
        rename_i hnone
        constructor
        case holds => exact holds_iff_of_header htype rfl
        all_goals simp [hnone]
    | enum decl => cases htype
    | union decl => cases htype
    | struct decl => cases htype
    | table decl => cases htype

/-! ## Whole schemas -/

theorem filterMap_concat {α β : Type} (f : α → Option β) (l : List α) (a : α) :
    (l ++ [a]).filterMap f = l.filterMap f ++ (f a).toList := by
  cases h : f a <;> simp [h]

namespace BuiltFrom

theorem empty : BuiltFrom [] {} := by
  constructor
  case holds =>
    intro name declared
    cases declared <;> simp [Holds]
  all_goals simp

theorem append (h : BuiltFrom schema file) (hd : Adds d file after) :
    BuiltFrom (schema ++ [d]) after where
  namespacePath := by rw [filterMap_concat, ← h.namespacePath, hd.namespacePath]
  includes := by rw [filterMap_concat, ← h.includes, hd.includes]
  attributes := by rw [filterMap_concat, ← h.attributes, hd.attributes]
  rootTypes name := by simp [hd.rootTypes, h.rootTypes, eq_comm]
  nodup_rootTypes := hd.nodup_rootTypes h.nodup_rootTypes
  fileIdentifier := by rw [filterMap_concat, ← h.fileIdentifier, hd.fileIdentifier]
  fileExtension := by rw [filterMap_concat, ← h.fileExtension, hd.fileExtension]
  declarationOrder := by rw [filterMap_concat, ← h.declarationOrder, hd.declarationOrder]
  holds name declared := by
    rw [hd.holds, h.holds]
    simp [or_and_right, exists_or]

variable (h : BuiltFrom schema file) (hb : Source.Buildable schema)

include h

theorem not_mem_attributes_iff :
    name ∉ file.attributes ↔ ∀ e ∈ schema, e.attribute? ≠ some name := by
  rw [h.attributes, List.mem_filterMap]
  simp only [not_exists, not_and, ne_eq]

theorem mem_declarationOrder_iff :
    name ∈ file.declarationOrder ↔ ∃ e ∈ schema, e.typeName? = some name := by
  rw [h.declarationOrder, List.mem_filterMap]

theorem namespacePath_eq_none_iff :
    file.namespacePath = none ↔ ∀ e ∈ schema, e.namespace? = none := by
  rw [← List.filterMap_eq_nil_iff, ← h.namespacePath, Option.toList_eq_nil_iff]

theorem fileExtension_eq_none_iff :
    file.fileExtension = none ↔ ∀ e ∈ schema, e.extension? = none := by
  rw [← List.filterMap_eq_nil_iff, ← h.fileExtension, Option.toList_eq_nil_iff]

theorem fileIdentifier_eq_none_iff :
    file.fileIdentifier = none ↔ ∀ e ∈ schema, e.identifier? = none := by
  rw [← List.filterMap_eq_nil_iff, ← h.fileIdentifier, Option.toList_eq_nil_iff]

include hb

/-- The order lists the declared names. -/
theorem exists_holds_iff : (∃ declared, file.Holds name declared) ↔ name ∈ file.declarationOrder := by
  simp only [h.mem_declarationOrder_iff, h.holds]
  constructor
  · rintro ⟨declared, d, hd, hmakes⟩
    exact ⟨d, hd, hmakes.typeName?⟩
  · rintro ⟨d, hd, hname⟩
    obtain ⟨_, declared, hmakes⟩ :=
      (Source.Declaration.isSound_of_typeName? hname).mp (hb.sound d hd)
    exact ⟨declared, d, hd, hmakes⟩

theorem typeExists_iff : file.typeExists name = false ↔
    Primitive.ofName? name = none ∧ ∀ e ∈ schema, e.typeName? ≠ some name := by
  have hfind : file.find? name = none ↔ ∀ e ∈ schema, e.typeName? ≠ some name := by
    rw [find?_eq_none_iff, ← not_exists, h.exists_holds_iff hb, h.mem_declarationOrder_iff]
    simp
  rw [typeExists, Bool.or_eq_false_iff, ← hfind]
  simp

/-- The next declaration is taken if it is sound and clashes with none before. -/
theorem exists_declare_iff :
    (∃ after, file.declare d = .ok after) ↔ d.IsSound ∧ ∀ e ∈ schema, ¬ e.Clash d := by
  cases htype : d.typeName? with
  | some name =>
    simp only [declare_type_eq_ok_iff htype, h.typeExists_iff hb,
      Source.Declaration.isSound_of_typeName? htype, Source.Declaration.clash_of_typeName? htype]
    constructor
    · rintro ⟨_, ⟨hprimitive, hnew⟩, declared, hmakes, _⟩
      exact ⟨⟨hprimitive, declared, hmakes⟩, hnew⟩
    · rintro ⟨⟨hprimitive, declared, hmakes⟩, hnew⟩
      exact ⟨_, ⟨hprimitive, hnew⟩, declared, hmakes, rfl⟩
  | none =>
    cases d with
    | includeFile path => simp [declare, Source.Declaration.IsSound]
    | inNamespace path =>
      simp only [Source.Declaration.clash_inNamespace_iff, not_not, ← h.namespacePath_eq_none_iff]
      cases hpath : file.namespacePath <;> simp [declare, Source.Declaration.IsSound, hpath]
    | attributeName name =>
      simp only [Source.Declaration.clash_attributeName_iff, ← ne_eq, ← h.not_mem_attributes_iff]
      by_cases hknown : name ∈ file.attributes <;> cases hreserved : Metadata.isReserved name <;>
        simp [declare, Source.Declaration.IsSound, hknown, hreserved]
    | rootType name =>
      cases hprimitive : Primitive.ofName? name <;> by_cases hknown : name ∈ file.rootTypes <;>
        simp [declare, Source.Declaration.IsSound, hprimitive, hknown]
    | fileExtension extension =>
      simp only [Source.Declaration.clash_fileExtension_iff, not_not, ← h.fileExtension_eq_none_iff]
      cases hextension : file.fileExtension <;>
        simp [declare, Source.Declaration.IsSound, hextension]
    | fileIdentifier identifier =>
      simp only [Source.Declaration.clash_fileIdentifier_iff, not_not,
        ← h.fileIdentifier_eq_none_iff]
      by_cases hlength : identifier.utf8ByteSize = Wire.fileIdentifierLength <;>
        cases hidentifier : file.fileIdentifier <;>
          simp [declare, Source.Declaration.IsSound, hlength, hidentifier]
    | enum decl => cases htype
    | union decl => cases htype
    | struct decl => cases htype
    | table decl => cases htype

end BuiltFrom

theorem build_append_eq_ok_iff : build (schema ++ [d]) = .ok after ↔
    ∃ before, build schema = .ok before ∧ before.declare d = .ok after := by
  simp only [build, List.foldlM_append, bind_eq_ok_iff, List.foldlM_cons, List.foldlM_nil,
    bind_pure]

/-- A built table comes from a schema that keeps the rules, and holds what it declares. -/
theorem builtFrom_of_build (h : build schema = .ok file) :
    Source.Buildable schema ∧ BuiltFrom schema file := by
  induction schema using List.reverseRecOn generalizing file with
  | nil =>
    cases h
    exact ⟨⟨by simp, .nil⟩, .empty⟩
  | append_singleton schema d ih =>
    obtain ⟨before, hbefore, hd⟩ := build_append_eq_ok_iff.mp h
    obtain ⟨hbuildable, hbuilt⟩ := ih hbefore
    exact ⟨Source.buildable_append_iff.mpr
      ⟨hbuildable, (hbuilt.exists_declare_iff hbuildable).mp ⟨file, hd⟩⟩,
      hbuilt.append (adds_of_declare hd)⟩

/-- A schema has a symbol table exactly when it keeps the rules. -/
theorem exists_build_iff : (∃ file, build schema = .ok file) ↔ Source.Buildable schema := by
  refine ⟨fun ⟨file, h⟩ => (builtFrom_of_build h).1, fun h => ?_⟩
  induction schema using List.reverseRecOn with
  | nil => exact ⟨_, rfl⟩
  | append_singleton schema d ih =>
    obtain ⟨hbuildable, hd⟩ := Source.buildable_append_iff.mp h
    obtain ⟨before, hbefore⟩ := ih hbuildable
    obtain ⟨after, hafter⟩ :=
      ((builtFrom_of_build hbefore).2.exists_declare_iff hbuildable).mpr hd
    exact ⟨after, build_append_eq_ok_iff.mpr ⟨before, hbefore, hafter⟩⟩

/-! ## Built tables -/

/-- A table that some schema was built into. -/
def Built (file : SymbolTable) : Prop :=
  ∃ schema, build schema = .ok file

namespace Built

variable (h : file.Built)

include h

/-- The declaration order lists the declared names. -/
theorem mem_declarationOrder_iff :
    name ∈ file.declarationOrder ↔ ∃ declared, file.Holds name declared := by
  obtain ⟨schema, hschema⟩ := h
  obtain ⟨hbuildable, hbuilt⟩ := builtFrom_of_build hschema
  exact (hbuilt.exists_holds_iff hbuildable).symm

theorem nodup_declarationOrder : file.declarationOrder.Nodup := by
  obtain ⟨schema, hschema⟩ := h
  obtain ⟨hbuildable, hbuilt⟩ := builtFrom_of_build hschema
  rw [hbuilt.declarationOrder, List.Nodup, List.pairwise_filterMap]
  refine hbuildable.compatible.imp fun hclash name hname other hother heq => hclash ?_
  exact (Source.Declaration.clash_of_typeName? hother).mpr (heq ▸ hname)

/-- A name is declared under one kind, as one type. -/
theorem holds_unique {declared other : Symbol.Declared} (hd : file.Holds name declared)
    (ho : file.Holds name other) : declared = other := by
  obtain ⟨schema, hschema⟩ := h
  obtain ⟨hbuildable, hbuilt⟩ := builtFrom_of_build hschema
  obtain ⟨d, hdmem, hdmakes⟩ := (hbuilt.holds _ _).mp hd
  obtain ⟨e, hemem, hemakes⟩ := (hbuilt.holds _ _).mp ho
  have hsame : d = e := by
    by_contra hne
    refine hbuildable.compatible.forall hdmem hemem hne ?_
    exact (Source.Declaration.clash_of_typeName? hemakes.typeName?).mpr hdmakes.typeName?
  subst hsame
  exact (hemakes.iff.mp hdmakes).2

/-- So the order in which kinds are searched does not matter. -/
theorem find?_eq_some_iff {declared : Symbol.Declared} :
    file.find? name = some declared ↔ file.Holds name declared := by
  refine ⟨holds_of_find?, fun hd => ?_⟩
  cases hfind : file.find? name with
  | none => exact (find?_eq_none_iff.mp hfind declared hd).elim
  | some other => rw [h.holds_unique hd (holds_of_find? hfind)]

end Built

end SymbolTable

end WireSchema
