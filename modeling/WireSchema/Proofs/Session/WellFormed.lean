/-
WireSchema.Proofs.Session.WellFormed — the rules of a session, said without the checks.

`Session.WellFormed` states each rule on its own: qualified names are declared by one file, roots and
union members are tables, unions fit the discriminant, fields have types that suit their default,
their owner and their metadata, alignments are small powers of two on structs, and attributes in use
are declared. Every check is characterised by the rule it enforces (`fieldDefault_eq_ok_iff`,
`field_eq_ok_iff`, `declarationMetadata_eq_ok_iff`, …), and the checks of a file by its rules
(`file_eq_ok_iff`).

Main statement: `Rules.session_ok_iff_wellFormed`.
-/
import Mathlib.Data.List.Nodup
import WireSchema.Proofs.Session.Declarations
import WireSchema.Proofs.Session.Listed
import WireSchema.Rules

namespace WireSchema

open WireSchema.Outcome

/-! ## Literals -/

/-- The integers that the bytes of an integer primitive can hold. -/
def Primitive.InRange (p : Primitive) (n : Int) : Prop :=
  if p.isUnsigned then 0 ≤ n ∧ n < Nat.pow 2 (8 * p.size)
  else -Nat.pow 2 (8 * p.size - 1) ≤ n ∧ n < Nat.pow 2 (8 * p.size - 1)

instance (p : Primitive) (n : Int) : Decidable (p.InRange n) :=
  inferInstanceAs (Decidable (if p.isUnsigned then _ else _))

/-- The literals a primitive takes as default, by its class. -/
inductive Literal.Admitted (p : Primitive) : Literal → Prop
  | bool (value : Bool) (hclass : p.typeClass = .bool) : Admitted p (.bool value)
  | integer (n : Int) (hclass : p.typeClass = .int ∨ p.typeClass = .char) (hrange : p.InRange n) :
      Admitted p (.integer n)
  | whole (n : Int) (hclass : p.typeClass = .float) : Admitted p (.integer n)
  | float (x : Number.Binary64) (hclass : p.typeClass = .float) (hfinite : x.isFinite = true) :
      Admitted p (.float x)
  | special (name : String) (hclass : p.typeClass = .float)
      (hname : name ∈ ["nan", "inf", "infinity"]) : Admitted p (.ident name)
  | string (text : String) (hclass : p.typeClass = .string) : Admitted p (.string text)

theorem Primitive.integerRange?_of_class {p : Primitive}
    (h : p.typeClass = .int ∨ p.typeClass = .char) (n : Int) :
    ∃ least greatest, p.integerRange? = some (least, greatest) ∧
      (p.InRange n ↔ least ≤ n ∧ n ≤ greatest) := by
  have hinteger : p.isInteger = true := by
    unfold isInteger
    rcases h with h | h <;> rw [h]
  unfold integerRange? InRange
  cases p.isUnsigned with
  | true =>
    simp only [hinteger, Bool.not_true, if_true, Bool.false_eq_true, if_false]
    exact ⟨_, _, rfl, by omega⟩
  | false =>
    simp only [hinteger, Bool.not_true, Bool.false_eq_true, if_false]
    exact ⟨_, _, rfl, by omega⟩

/-- The test of a default is the rule. -/
theorem Literal.fits_iff {literal : Literal} {p : Primitive} :
    literal.fits p = true ↔ literal.Admitted p := by
  constructor
  · intro h
    unfold fits at h
    split at h
    · exact .bool _ ‹_›
    · rename_i n hclass
      obtain ⟨least, greatest, hrange, hiff⟩ := Primitive.integerRange?_of_class (.inl hclass) n
      exact .integer n (.inl hclass) (hiff.mpr (by simpa [hrange] using h))
    · rename_i n hclass
      obtain ⟨least, greatest, hrange, hiff⟩ := Primitive.integerRange?_of_class (.inr hclass) n
      exact .integer n (.inr hclass) (hiff.mpr (by simpa [hrange] using h))
    · exact .whole _ ‹_›
    · exact .float _ ‹_› h
    · exact .special _ ‹_› (by simpa [or_assoc] using h)
    · exact .string _ ‹_›
    · cases h
  · intro h
    cases h with
    | bool value hclass => simp [fits, hclass]
    | integer n hclass hrange =>
      obtain ⟨least, greatest, hbounds, hiff⟩ := Primitive.integerRange?_of_class hclass n
      rcases hclass with hclass | hclass <;> simpa [fits, hclass, hbounds] using hiff.mp hrange
    | whole n hclass => simp [fits, hclass]
    | float x hclass hfinite => simp [fits, hclass, hfinite]
    | special name hclass hname => simpa [fits, hclass, or_assoc] using hname
    | string text hclass => simp [fits, hclass]

/-! ## The rules -/

/-- A default is a constant of the enum or a literal of the primitive. -/
def Symbol.Declared.TakesDefault (declared : Symbol.Declared) (value : Literal) : Prop :=
  (∃ e constant, declared = .enum e ∧ value = .ident constant ∧ constant ∈ e.names) ∨
    ∃ p, declared = .primitive p ∧ value.Admitted p

/-- The metadata a declaration was given. -/
def Symbol.Declared.metadata : Symbol.Declared → List Metadata
  | primitive _ => []
  | enum e => e.metadata
  | union u => u.metadata
  | struct s => s.metadata
  | table t => t.metadata

/-- A field of some struct or table of a file. -/
inductive SymbolTable.HasField (file : SymbolTable) : Kind → Symbol.Field → Prop
  | struct {name : String} {s : Symbol.Compound} {f : Symbol.Field}
      (hstruct : file.Holds name (.struct s)) (hfield : f ∈ s.fields) : HasField file .struct f
  | table {name : String} {t : Symbol.Compound} {f : Symbol.Field}
      (htable : file.Holds name (.table t)) (hfield : f ∈ t.fields) : HasField file .table f

/-- Some file declares an attribute. -/
def Session.DeclaresAttribute (session : Session) (name : String) : Prop :=
  ∃ file ∈ session.files.values, name ∈ file.attributes

/-- The rules of a field in a struct or a table, whose written type stands for `declared`. -/
structure Session.AdmitsField (session : Session) (owner : Kind) (f : Symbol.Field)
    (declared : Symbol.Declared) : Prop where
  default : ∀ value, f.default = some value → f.isArray = false ∧ declared.TakesDefault value
  inStruct : owner = .struct → f.isArray = false ∧ .deprecated ∉ f.metadata ∧
    (declared.kind = .enum ∨ declared.kind = .struct ∨ ∃ p, declared = .primitive p ∧ p ≠ .string)
  required : .required ∈ f.metadata → owner = .table ∧ (f.isArray = true ∨
    declared = .primitive .string ∨ declared.kind ∈ [Kind.union, .struct, .table])
  alignment : ∀ bytes, .forceAlign bytes ∉ f.metadata
  attributes : ∀ name value, .user name value ∈ f.metadata → session.DeclaresAttribute name

/-- The rules of a declaration's metadata. -/
structure Session.AdmitsMetadata (session : Session) (kind : Kind) (entries : List Metadata) :
    Prop where
  alignment : ∀ bytes, .forceAlign bytes ∈ entries →
    kind = .struct ∧ bytes.isPowerOfTwo ∧ bytes ≤ 256
  attributes : ∀ name value, .user name value ∈ entries → session.DeclaresAttribute name

/-- The rules of one file, its names resolved in its session. -/
structure Scope.WellFormed (scope : Scope) (discriminant : Primitive) : Prop where
  roots : ∀ root ∈ scope.file.rootTypes,
    ∃ qualified t, scope.resolve? root = some (qualified, .table t)
  members : ∀ name u, scope.file.Holds name (.union u) → ∀ member ∈ u.members,
    ∃ qualified t, scope.resolve? member = some (qualified, .table t)
  memberCount : ∀ name u, scope.file.Holds name (.union u) →
    u.members.length < Nat.pow 2 (8 * discriminant.size)
  fields : ∀ owner f, scope.file.HasField owner f → ∃ qualified declared,
    scope.resolve? f.typeName = some (qualified, declared) ∧
      scope.session.AdmitsField owner f declared
  metadata : ∀ name declared, scope.file.Holds name declared →
    scope.session.AdmitsMetadata declared.kind declared.metadata

/-- The rules of a session. -/
structure Session.WellFormed (session : Session) (discriminant : Primitive) : Prop where
  unique : ∀ path path' file file', session.file? path = some file →
    session.file? path' = some file' → file.scopePath = file'.scopePath →
      ∀ name declared declared', file.Holds name declared → file'.Holds name declared' →
        path = path'
  files : ∀ file ∈ session.files.values, Scope.WellFormed ⟨session, file⟩ discriminant

namespace Rules

variable {session : Session} {settings : CompilerSettings} {scope : Scope} {kind : Kind}
  {owner : String} {f : Symbol.Field} {declared : Symbol.Declared} {location : Location}

/-! ## Metadata -/

theorem isPowerOfTwo_iff {n : Nat} : isPowerOfTwo n = true ↔ n.isPowerOfTwo := by
  simp only [isPowerOfTwo, Bool.and_eq_true, bne_iff_ne, ne_eq, beq_iff_eq]
  constructor
  · rintro ⟨_, hpow⟩
    exact ⟨_, hpow.symm⟩
  · rintro ⟨k, rfl⟩
    rw [Nat.log2_two_pow]
    exact ⟨Nat.ne_of_gt (Nat.two_pow_pos k), rfl⟩

theorem isDeclaredAttribute_iff (hfile : scope.file ∈ scope.session.files.values) {name : String} :
    isDeclaredAttribute scope name = true ↔ scope.session.DeclaresAttribute name := by
  simp only [isDeclaredAttribute, Bool.or_eq_true, List.any_eq_true, List.contains_iff_mem]
  exact or_iff_right_of_imp fun hown => ⟨scope.file, hfile, hown⟩

theorem userAttribute_eq_ok_iff (hfile : scope.file ∈ scope.session.files.values)
    {name : String} :
    userAttribute scope location name = .ok () ↔ scope.session.DeclaresAttribute name := by
  rw [userAttribute, ← isDeclaredAttribute_iff hfile]
  split <;> simp_all

theorem declarationEntry_forceAlign_eq_ok_iff {bytes : Nat} :
    declarationEntry scope kind owner (.forceAlign bytes) = .ok () ↔
      kind = .struct ∧ bytes.isPowerOfTwo ∧ bytes ≤ 256 := by
  have hmax : bytes ≤ 256 ↔ bytes ≤ maxForceAlign := Iff.rfl
  simp only [declarationEntry, ← isPowerOfTwo_iff, hmax]
  by_cases hkind : kind = .struct
  · cases isPowerOfTwo bytes <;> simp [hkind]
  · simp [hkind]

theorem declarationMetadata_eq_ok_iff (hfile : scope.file ∈ scope.session.files.values)
    {entries : List Metadata} : declarationMetadata scope kind owner entries = .ok () ↔
      scope.session.AdmitsMetadata kind entries := by
  rw [declarationMetadata, forM_eq_ok_iff]
  constructor
  · intro h
    constructor
    · intro bytes hentry
      exact declarationEntry_forceAlign_eq_ok_iff.mp (h _ hentry)
    · intro name value hentry
      exact (userAttribute_eq_ok_iff hfile).mp (h _ hentry)
  · intro h entry hentry
    cases entry with
    | forceAlign bytes =>
      exact declarationEntry_forceAlign_eq_ok_iff.mpr (h.alignment bytes hentry)
    | user name value => exact (userAttribute_eq_ok_iff hfile).mpr (h.attributes name value hentry)
    | deprecated => rfl
    | required => rfl
    | key => rfl
    | builtin name value => rfl

/-! ## Fields -/

theorem namesConstant_iff {e : Symbol.Enum} {value : Literal} :
    namesConstant e value = true ↔ ∃ constant, value = .ident constant ∧ constant ∈ e.names := by
  cases value <;> simp [namesConstant]

theorem fieldDefault_eq_ok_iff : fieldDefault location f declared = .ok () ↔
    ∀ value, f.default = some value → f.isArray = false ∧ declared.TakesDefault value := by
  unfold fieldDefault Symbol.Declared.TakesDefault
  cases f.default with
  | none => simp
  | some value =>
    cases f.isArray with
    | true => simp
    | false =>
      cases declared with
      | primitive p => simp [← Literal.fits_iff]
      | enum e => simp [← namesConstant_iff]
      | union u => simp
      | struct s => simp
      | table t => simp

theorem fieldEntry_required_eq_ok_iff (hkind : kind = .struct ∨ kind = .table) :
    fieldEntry scope kind location f declared .required = .ok () ↔
      kind = .table ∧ (f.isArray = true ∨ declared = .primitive .string ∨
        declared.kind ∈ [Kind.union, .struct, .table]) := by
  have hscalar : isScalar declared = false ↔ declared = .primitive .string ∨
      declared.kind ∈ [Kind.union, .struct, .table] := by
    cases declared <;> simp [isScalar, Symbol.Declared.kind, Primitive.isScalar]
  rw [fieldEntry, ← hscalar]
  rcases hkind with rfl | rfl
  · simp
  · cases f.isArray <;> cases isScalar declared <;> simp

theorem fieldEntries_eq_ok_iff (hfile : scope.file ∈ scope.session.files.values)
    (hkind : kind = .struct ∨ kind = .table) :
    f.metadata.forM (fieldEntry scope kind location f declared) = .ok () ↔
      (kind = .struct → .deprecated ∉ f.metadata) ∧
      (.required ∈ f.metadata → kind = .table ∧ (f.isArray = true ∨
        declared = .primitive .string ∨ declared.kind ∈ [Kind.union, .struct, .table])) ∧
      (∀ bytes, .forceAlign bytes ∉ f.metadata) ∧
      ∀ name value, .user name value ∈ f.metadata → scope.session.DeclaresAttribute name := by
  rw [forM_eq_ok_iff]
  constructor
  · intro h
    refine ⟨fun hstruct hentry => ?_, fun hentry => ?_, fun bytes hentry => ?_,
      fun name value hentry => ?_⟩
    · have hok := h _ hentry
      simp [fieldEntry, hstruct] at hok
    · exact (fieldEntry_required_eq_ok_iff hkind).mp (h _ hentry)
    · cases h _ hentry
    · exact (userAttribute_eq_ok_iff hfile).mp (h _ hentry)
  · rintro ⟨hdeprecated, hrequired, halignment, hattributes⟩ entry hentry
    cases entry with
    | deprecated =>
      have hnot : kind ≠ .struct := fun hstruct => hdeprecated hstruct hentry
      simp [fieldEntry, hnot]
    | required => exact (fieldEntry_required_eq_ok_iff hkind).mpr (hrequired hentry)
    | forceAlign bytes => exact (halignment bytes hentry).elim
    | user name value => exact (userAttribute_eq_ok_iff hfile).mpr (hattributes name value hentry)
    | key => rfl
    | builtin name value => rfl

theorem isFixedSize_iff : isFixedSize declared = true ↔ declared.kind = .enum ∨
    declared.kind = .struct ∨ ∃ p, declared = .primitive p ∧ p ≠ .string := by
  cases declared <;> simp [isFixedSize, Symbol.Declared.kind, Primitive.isScalar]

theorem field_eq_ok_iff (hfile : scope.file ∈ scope.session.files.values)
    (hkind : kind = .struct ∨ kind = .table) :
    field scope kind owner f = .ok () ↔ ∃ qualified declared,
      scope.resolve? f.typeName = some (qualified, declared) ∧
        scope.session.AdmitsField kind f declared := by
  unfold field
  cases scope.resolve? f.typeName with
  | none => simp
  | some found =>
    obtain ⟨qualified, declared⟩ := found
    have hsize : ¬ (kind == .struct && (f.isArray || !isFixedSize declared)) = true ↔
        (kind = .struct → f.isArray = false ∧ (declared.kind = .enum ∨ declared.kind = .struct ∨
          ∃ p, declared = .primitive p ∧ p ≠ .string)) := by
      rw [← isFixedSize_iff]
      simp
    simp only [seq_eq_ok_iff, guard_eq_ok_iff, fieldDefault_eq_ok_iff, hsize,
      fieldEntries_eq_ok_iff hfile hkind]
    constructor
    · rintro ⟨hdefault, hsize, hdeprecated, hrequired, halignment, hattributes⟩
      refine ⟨qualified, declared, rfl, hdefault, ?_, hrequired, halignment, hattributes⟩
      exact fun hstruct => ⟨(hsize hstruct).1, hdeprecated hstruct, (hsize hstruct).2⟩
    · rintro ⟨_, _, heq, h⟩
      cases heq
      exact ⟨h.default, fun hstruct => ⟨(h.inStruct hstruct).1, (h.inStruct hstruct).2.2⟩,
        fun hstruct => (h.inStruct hstruct).2.1, h.required, h.alignment, h.attributes⟩

/-! ## Roots and unions -/

theorem root_eq_ok_iff {name : String} : root scope name = .ok () ↔
    ∃ qualified t, scope.resolve? name = some (qualified, .table t) := by
  unfold root
  split <;> simp_all

theorem member_eq_ok_iff {union name : String} : member scope union name = .ok () ↔
    ∃ qualified t, scope.resolve? name = some (qualified, .table t) := by
  unfold member
  split <;> simp_all

/-- An accepted discriminant counts the members that its bytes can number. -/
theorem memberLimit_eq {discriminant : Primitive} (h : discriminant.isDiscriminant = true) :
    memberLimit discriminant + 1 = Nat.pow 2 (8 * discriminant.size) := by
  revert h
  cases discriminant <;> decide

theorem union_eq_ok_iff (hfile : scope.file ∈ scope.session.files.values)
    {discriminant : Primitive} (hdiscriminant : discriminant.isDiscriminant = true)
    {name : String} {u : Symbol.Union} : union scope discriminant name u = .ok () ↔
      u.members.length < Nat.pow 2 (8 * discriminant.size) ∧
      (∀ member ∈ u.members, ∃ qualified t, scope.resolve? member = some (qualified, .table t)) ∧
      scope.session.AdmitsMetadata .union u.metadata := by
  have hcount : ¬ memberLimit discriminant < u.members.length ↔
      u.members.length < Nat.pow 2 (8 * discriminant.size) := by
    rw [← memberLimit_eq hdiscriminant]
    omega
  simp only [union, guard_eq_ok_iff, hcount, seq_eq_ok_iff, forM_eq_ok_iff, member_eq_ok_iff,
    declarationMetadata_eq_ok_iff hfile]

theorem compound_eq_ok_iff (hfile : scope.file ∈ scope.session.files.values)
    (hkind : kind = .struct ∨ kind = .table) {name : String} {c : Symbol.Compound} :
    compound scope kind name c = .ok () ↔
      (∀ f ∈ c.fields, ∃ qualified declared,
        scope.resolve? f.typeName = some (qualified, declared) ∧
          scope.session.AdmitsField kind f declared) ∧
      scope.session.AdmitsMetadata kind c.metadata := by
  simp only [compound, seq_eq_ok_iff, forM_eq_ok_iff, field_eq_ok_iff hfile hkind,
    declarationMetadata_eq_ok_iff hfile]

/-! ## Files and sessions -/

theorem forM_entries_eq_ok_iff {α : Type} {m : OrderedMap String α}
    (check : String → α → Except Violation Unit) :
    m.entries.forM (fun (name, a) => check name a) = .ok () ↔
      ∀ name a, m.get? name = some a → check name a = .ok () := by
  simp only [forM_eq_ok_iff, OrderedMap.get?_eq_some_iff]
  exact ⟨fun h name a ha => h (name, a) ha, fun h entry hentry => h entry.1 entry.2 hentry⟩

theorem declarations_eq_ok_iff (hfile : scope.file ∈ scope.session.files.values)
    {discriminant : Primitive} (hdiscriminant : discriminant.isDiscriminant = true) :
    declarations scope discriminant = .ok () ↔
      (∀ name u, scope.file.Holds name (.union u) →
        u.members.length < Nat.pow 2 (8 * discriminant.size) ∧ ∀ member ∈ u.members,
          ∃ qualified t, scope.resolve? member = some (qualified, .table t)) ∧
      (∀ owner f, scope.file.HasField owner f → ∃ qualified declared,
        scope.resolve? f.typeName = some (qualified, declared) ∧
          scope.session.AdmitsField owner f declared) ∧
      ∀ name declared, scope.file.Holds name declared →
        scope.session.AdmitsMetadata declared.kind declared.metadata := by
  simp only [declarations, seq_eq_ok_iff, forM_entries_eq_ok_iff,
    forM_entries_eq_ok_iff fun name (e : Symbol.Enum) =>
      declarationMetadata scope .enum name e.metadata,
    union_eq_ok_iff hfile hdiscriminant, compound_eq_ok_iff hfile (.inl rfl),
    compound_eq_ok_iff hfile (.inr rfl), declarationMetadata_eq_ok_iff hfile]
  constructor
  · rintro ⟨hunions, hstructs, htables, henums⟩
    refine ⟨fun name u hu => ⟨(hunions name u hu).1, (hunions name u hu).2.1⟩, ?_, ?_⟩
    · intro owner f hf
      cases hf with
      | struct hs hmem => exact (hstructs _ _ hs).1 f hmem
      | table ht hmem => exact (htables _ _ ht).1 f hmem
    · intro name declared hdeclared
      cases declared with
      | primitive p => exact hdeclared.elim
      | enum e => exact henums name e hdeclared
      | union u => exact (hunions name u hdeclared).2.2
      | struct s => exact (hstructs name s hdeclared).2
      | table t => exact (htables name t hdeclared).2
  · rintro ⟨hunions, hfields, hmetadata⟩
    refine ⟨fun name u hu => ?_, fun name s hs => ?_, fun name t ht => ?_, fun name e he => ?_⟩
    · exact ⟨(hunions name u hu).1, (hunions name u hu).2, hmetadata name (.union u) hu⟩
    · exact ⟨fun f hf => hfields .struct f (.struct hs hf), hmetadata name (.struct s) hs⟩
    · exact ⟨fun f hf => hfields .table f (.table ht hf), hmetadata name (.table t) ht⟩
    · exact hmetadata name (.enum e) he

theorem isDiscriminant_of_settings {discriminant : Primitive}
    (h : settings.discriminant = .ok discriminant) : discriminant.isDiscriminant = true := by
  unfold CompilerSettings.discriminant at h
  split at h
  · split at h
    · rename_i haccepted
      cases h
      exact haccepted
    · cases h
  · cases h

/-- A file passes exactly when it keeps its rules under an accepted discriminant. -/
theorem file_eq_ok_iff (hfile : scope.file ∈ scope.session.files.values) :
    file scope settings = .ok () ↔
      ∃ discriminant, settings.discriminant = .ok discriminant ∧ scope.WellFormed discriminant := by
  unfold file
  rw [seq_eq_ok_iff, mapError_eq_ok_iff, forM_eq_ok_iff, bind_eq_ok_iff]
  simp only [root_eq_ok_iff, mapError_eq_ok_iff]
  constructor
  · rintro ⟨hroots, discriminant, hsettings, hdeclarations⟩
    obtain ⟨hunions, hfields, hmetadata⟩ :=
      (declarations_eq_ok_iff hfile (isDiscriminant_of_settings hsettings)).mp hdeclarations
    exact ⟨discriminant, hsettings, hroots, fun name u hu => (hunions name u hu).2,
      fun name u hu => (hunions name u hu).1, hfields, hmetadata⟩
  · rintro ⟨discriminant, hsettings, h⟩
    exact ⟨h.roots, discriminant, hsettings,
      (declarations_eq_ok_iff hfile (isDiscriminant_of_settings hsettings)).mpr
        ⟨fun name u hu => ⟨h.memberCount name u hu, h.members name u hu⟩, h.fields, h.metadata⟩⟩

/-! ## Names -/

/-- The qualified names of one file, in order. -/
def ownNames (file : SymbolTable) : List TypeName :=
  file.declarationOrder.map fun name => ⟨file.scopePath, name⟩

theorem names_eq_flatMap (session : Session) :
    session.names = session.files.entries.flatMap fun entry => ownNames entry.2 := by
  simp only [Session.names, Session.declared, ownNames, OrderedMap.values, List.map_flatMap,
    List.flatMap_map, List.map_map]
  rfl

theorem map_declaredNames (session : Session) :
    (declaredNames session).map (·.1) = session.names := by
  simp only [names_eq_flatMap, declaredNames, ownNames, List.map_flatMap, List.map_map]
  rfl

/-- Names pass when they are distinct and none was seen before. -/
theorem checkNames_eq_ok_iff {seen items : List (TypeName × String)} :
    checkNames seen items = .ok () ↔
      (items.map (·.1)).Nodup ∧ ∀ item ∈ items, item.1 ∉ seen.map (·.1) := by
  induction items generalizing seen with
  | nil => simp [checkNames]
  | cons item rest ih =>
    obtain ⟨name, path⟩ := item
    have hnew : seen.lookup name = none ↔ name ∉ seen.map (·.1) := by
      simp only [List.lookup_eq_none_iff, bne_iff_ne, ne_eq, List.mem_map, not_exists, not_and]
      exact ⟨fun h entry hentry heq => h entry hentry heq.symm,
        fun h entry hentry heq => h entry hentry heq.symm⟩
    rw [checkNames, List.map_cons, List.nodup_cons, List.forall_mem_cons, ← hnew]
    cases hlookup : seen.lookup name with
    | some previous => simp
    | none =>
      have hfirst : name ∉ rest.map (·.1) ↔ ∀ item ∈ rest, ¬ item.1 = name := by
        simp only [List.mem_map, not_exists, not_and]
      simp only [ih, hfirst, List.map_cons, List.mem_cons, not_or, true_and, forall_and]
      rw [and_left_comm, and_assoc]

/-- A session passes exactly when no name is declared twice and each file passes. -/
theorem session_eq_ok_iff : Rules.session session settings = .ok () ↔
    session.names.Nodup ∧ ∀ file ∈ session.files.values, ∃ discriminant,
      settings.discriminant = .ok discriminant ∧
        Scope.WellFormed ⟨session, file⟩ discriminant := by
  unfold Rules.session uniqueNames
  rw [seq_eq_ok_iff, mapError_eq_ok_iff, forM_eq_ok_iff, checkNames_eq_ok_iff, map_declaredNames]
  simp only [List.map_nil, List.not_mem_nil, not_false_eq_true, implies_true, and_true]
  exact and_congr_right fun _ => forall₂_congr fun file hfile => file_eq_ok_iff hfile

theorem mem_ownNames_iff {file : SymbolTable} (h : file.Built) {name : TypeName} :
    name ∈ ownNames file ↔
      file.scopePath = name.path ∧ ∃ declared, file.Holds name.name declared := by
  simp only [ownNames, List.mem_map, h.mem_declarationOrder_iff]
  constructor
  · rintro ⟨own, hholds, rfl⟩
    exact ⟨rfl, hholds⟩
  · rintro ⟨hpath, hholds⟩
    exact ⟨name.name, hholds, by rw [hpath]⟩

/-- Within a built file no name repeats, so names are distinct when no two files share one. -/
theorem names_nodup_iff (hbuilt : ∀ file ∈ session.files.values, file.Built) :
    session.names.Nodup ↔ ∀ path path' file file', session.file? path = some file →
      session.file? path' = some file' → file.scopePath = file'.scopePath →
        ∀ name declared declared', file.Holds name declared → file'.Holds name declared' →
          path = path' := by
  have hmem : ∀ entry ∈ session.files.entries, entry.2.Built := fun entry hentry =>
    hbuilt _ (List.mem_map.mpr ⟨entry, hentry, rfl⟩)
  rw [names_eq_flatMap, List.nodup_flatMap]
  constructor
  · rintro ⟨_, hpairwise⟩ path path' file file' hfile hfile' hscope name declared declared' hd hd'
    rw [Session.file?, OrderedMap.get?_eq_some_iff] at hfile hfile'
    have : Std.Symm (Function.onFun List.Disjoint fun entry : String × SymbolTable =>
        ownNames entry.2) := ⟨fun _ _ hdisjoint _ hb ha => hdisjoint ha hb⟩
    by_contra hne
    have hdisjoint := hpairwise.forall hfile hfile' fun heq => hne (congrArg Prod.fst heq)
    refine hdisjoint (a := ⟨file.scopePath, name⟩) ?_ ?_
    · exact (mem_ownNames_iff (hmem _ hfile)).mpr ⟨rfl, declared, hd⟩
    · exact (mem_ownNames_iff (hmem _ hfile')).mpr ⟨hscope.symm, declared', hd'⟩
  · intro h
    constructor
    · intro entry hentry
      refine (hmem entry hentry).nodup_declarationOrder.map fun name other heq => ?_
      exact (TypeName.mk.inj heq).2
    · have hpaths : session.files.entries.Pairwise fun a b => a.1 ≠ b.1 :=
        List.pairwise_map.mp session.files.nodup
      refine hpaths.imp_of_mem fun {a b} ha hb hne name hname hname' => hne ?_
      obtain ⟨hpath, declared, hd⟩ := (mem_ownNames_iff (hmem a ha)).mp hname
      obtain ⟨hpath', declared', hd'⟩ := (mem_ownNames_iff (hmem b hb)).mp hname'
      exact h a.1 b.1 a.2 b.2 (OrderedMap.get?_eq_some_iff.mpr ha)
        (OrderedMap.get?_eq_some_iff.mpr hb) (hpath.trans hpath'.symm) _ _ _ hd hd'

/-! ## Sessions of registered texts -/

theorem session_eq_ok_iff_wellFormed (hbuilt : ∀ file ∈ session.files.values, file.Built)
    {discriminant : Primitive} (hsettings : settings.discriminant = .ok discriminant) :
    Rules.session session settings = .ok () ↔ session.WellFormed discriminant := by
  rw [session_eq_ok_iff, names_nodup_iff hbuilt]
  constructor
  · rintro ⟨hunique, hfiles⟩
    refine ⟨hunique, fun file hfile => ?_⟩
    obtain ⟨other, hother, hwell⟩ := hfiles file hfile
    cases hsettings.symm.trans hother
    exact hwell
  · rintro ⟨hunique, hfiles⟩
    exact ⟨hunique, fun file hfile => ⟨discriminant, hsettings, hfiles file hfile⟩⟩

/-- **Rules.** A session of registered texts passes under an accepted discriminant exactly when it is
well formed; under any other setting it is refused as soon as it has a file. -/
theorem session_ok_iff_wellFormed {texts : List (String × String)}
    (hregister : Session.registerTexts {} texts = .ok session) :
    (∀ discriminant, settings.discriminant = .ok discriminant →
      (Rules.session session settings = .ok () ↔ session.WellFormed discriminant)) ∧
    ((∃ error, settings.discriminant = .error error) → session.files.values ≠ [] →
      ∃ error, Rules.session session settings = .error error) := by
  constructor
  · intro discriminant
    exact session_eq_ok_iff_wellFormed (Session.built_of_registerTexts hregister)
  · rintro ⟨error, herror⟩ hfiles
    rw [exists_error_iff]
    rintro ⟨⟨⟩, hpasses⟩
    obtain ⟨file, hfile⟩ := List.exists_mem_of_ne_nil _ hfiles
    obtain ⟨discriminant, hdiscriminant, _⟩ := (session_eq_ok_iff.mp hpasses).2 file hfile
    rw [herror] at hdiscriminant
    cases hdiscriminant

/-- Two files: a root and a field resolved across them, defaults of both kinds, metadata of each. -/
def chartTexts : List (String × String) :=
  [("chart", "namespace a.b; root_type T; union U { T }
      table T { h: H = R; d: [a.D] (required); x: double = inf (n: 2); }"),
   ("base", "namespace a; attribute n; enum H: ubyte { R }
      struct D (force_align: 16, n) { x: short = -9; h: H = R; }")]

def chartSession : Session :=
  ((Session.registerTexts {} chartTexts).toOption).getD {}

theorem chart_wellFormed :
    Session.registerTexts {} chartTexts = .ok chartSession ∧ chartSession.WellFormed .ubyte ∧
    ∃ error, Rules.session chartSession ⟨"float"⟩ = .error error := by
  -- one evaluation for all three: reading the texts is most of the work
  obtain ⟨hregisters, hpasses, hfiles⟩ :
      (Session.registerTexts {} chartTexts).toOption.isSome = true ∧
        (Rules.session chartSession {}).toOption = some () ∧
          chartSession.files.values ≠ [] := by decide +kernel
  have hregister : Session.registerTexts {} chartTexts = .ok chartSession := eq_ok_getD hregisters
  refine ⟨hregister, ?_, ?_⟩
  · exact ((session_ok_iff_wellFormed hregister).1 .ubyte rfl).mp (eq_ok_of_toOption hpasses)
  · exact (session_ok_iff_wellFormed hregister).2 ⟨_, rfl⟩ hfiles

end Rules

end WireSchema
