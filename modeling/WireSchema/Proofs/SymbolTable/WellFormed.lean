/-
WireSchema.Proofs.SymbolTable.WellFormed — the rules of one file, said without the build.

`Source.WellFormed` states each rule of a schema on its own: header lines stand once, attributes and
types have new and distinct names, the constants of an enum are distinct numbers of its base, a union
names no member twice, fields have distinct names, and alignments fit into eight bytes. `Means` says
what a written part becomes, item by item: a metadata entry, an enum, a union, a field, a struct or a
table. Each builder of a part succeeds exactly under its rules and yields what the part means
(`ofEntry_eq_ok_iff`, `Enum.ofSource_eq_ok_iff`, `Union.ofSource_eq_ok_iff`,
`Compound.ofSource_eq_ok_iff`).

Main statement: `SymbolTable.build_ok_iff_wellFormed`.
-/
import WireSchema.Proofs.Session.WellFormed

namespace WireSchema

open WireSchema.Outcome

/-! ## The rules -/

namespace Source

/-- The constants of an enum with their numbers: the one written, or one more than the number
before. -/
def constantsFrom (last : Int) : List Value → List Symbol.EnumValue
  | [] => []
  | v :: rest =>
    ⟨v.name, v.value.getD (last + 1)⟩ :: constantsFrom (v.value.getD (last + 1)) rest

/-- Without a number in front, the constants count from zero. -/
def Enum.constants (decl : Enum) : List Symbol.EnumValue :=
  constantsFrom (-1) decl.values

/-- An alignment is a positive number of at most eight bytes. -/
def MetadataEntry.WellFormed (entry : MetadataEntry) : Prop :=
  entry.name = "force_align" →
    ∃ n : Int, entry.value = some (.integer n) ∧ 1 ≤ n ∧ n ≤ 18446744073709551615

/-- The base is an integer primitive that holds every constant; names and numbers are distinct. -/
structure Enum.WellFormed (decl : Enum) : Prop where
  base : ∃ p : Primitive, p.name = decl.underlying ∧
    (p.typeClass = .int ∨ p.typeClass = .char) ∧ ∀ c ∈ decl.constants, p.InRange c.value
  unqualified : ∀ v ∈ decl.values, '.' ∉ v.name.toList
  names : (decl.values.map (·.name)).Nodup
  numbers : (decl.constants.map (·.value)).Nodup

/-- No member has a number, and none repeats. -/
structure Union.WellFormed (decl : Union) : Prop where
  plain : ∀ member ∈ decl.members, member.value = none
  names : (decl.members.map (·.name)).Nodup

/-- The metadata entries of a declaration and of its fields. -/
def Declaration.entries : Declaration → List MetadataEntry
  | enum decl => decl.metadata
  | union decl => decl.metadata
  | struct decl | table decl => decl.metadata ++ decl.fields.flatMap (·.metadata)
  | _ => []

/-- The rules that look at one declaration. -/
structure Declaration.WellFormed (d : Declaration) : Prop where
  identifier : ∀ text, d.identifier? = some text → text.utf8ByteSize = 4
  attributeName : ∀ name, d.attribute? = some name →
    name ∉ Metadata.reservedNames ∧ ¬ "native_".toList <+: name.toList
  root : ∀ name, d = .rootType name → ∀ p : Primitive, p.name ≠ name
  typeName : ∀ name, d.typeName? = some name → ∀ p : Primitive, p.name ≠ name
  constants : ∀ decl, d = .enum decl → decl.WellFormed
  members : ∀ decl, d = .union decl → decl.WellFormed
  fields : ∀ decl, d = .struct decl ∨ d = .table decl → (decl.fields.map (·.name)).Nodup
  alignments : ∀ entry ∈ d.entries, entry.WellFormed

/-- The rules of a schema. -/
structure WellFormed (schema : Schema) : Prop where
  namespaces : (schema.filterMap (·.namespace?)).length ≤ 1
  extensions : (schema.filterMap (·.extension?)).length ≤ 1
  identifiers : (schema.filterMap (·.identifier?)).length ≤ 1
  attributes : (schema.filterMap (·.attribute?)).Nodup
  typeNames : (schema.filterMap (·.typeName?)).Nodup
  declarations : ∀ d ∈ schema, d.WellFormed

/-! ## What written parts become -/

/-- What a metadata entry becomes. -/
inductive MetadataEntry.Means : MetadataEntry → Metadata → Prop
  | deprecated (value : Option Literal) : Means ⟨"deprecated", value⟩ .deprecated
  | required (value : Option Literal) : Means ⟨"required", value⟩ .required
  | key (value : Option Literal) : Means ⟨"key", value⟩ .key
  | forceAlign (bytes : Nat) (hpos : 1 ≤ bytes) (hle : bytes ≤ 18446744073709551615) :
      Means ⟨"force_align", some (.integer bytes)⟩ (.forceAlign bytes)
  | builtin (name : String) (value : Option Literal) (hreserved : Metadata.isReserved name = true)
      (hplain : name ∉ ["deprecated", "required", "key", "force_align"]) :
      Means ⟨name, value⟩ (.builtin name value)
  | user (name : String) (value : Option Literal) (hfree : Metadata.isReserved name = false) :
      Means ⟨name, value⟩ (.user name value)

/-- What an enum becomes. -/
structure Enum.Means (decl : Enum) (e : Symbol.Enum) : Prop where
  name : e.name = decl.name
  underlying : e.underlying.name = decl.underlying
  values : e.values = decl.constants
  metadata : List.Forall₂ MetadataEntry.Means decl.metadata e.metadata

/-- What a union becomes. -/
structure Union.Means (decl : Union) (u : Symbol.Union) : Prop where
  name : u.name = decl.name
  members : u.members = decl.members.map (·.name)
  metadata : List.Forall₂ MetadataEntry.Means decl.metadata u.metadata

/-- What a field becomes. -/
structure Field.Means (field : Field) (f : Symbol.Field) : Prop where
  name : f.name = field.name
  pos : f.pos = field.pos
  typeName : f.typeName = field.typeName
  isArray : f.isArray = field.isArray
  default : f.default = field.default
  metadata : List.Forall₂ MetadataEntry.Means field.metadata f.metadata

/-- What a struct or a table becomes. -/
structure Compound.Means (decl : Compound) (c : Symbol.Compound) : Prop where
  name : c.name = decl.name
  pos : c.pos = decl.pos
  fields : List.Forall₂ Field.Means decl.fields c.fields
  metadata : List.Forall₂ MetadataEntry.Means decl.metadata c.metadata

/-- What a declaration becomes: a type of its own kind. -/
inductive Declaration.Means : Declaration → Symbol.Declared → Prop
  | enum {decl : Enum} {e : Symbol.Enum} (h : decl.Means e) : Means (.enum decl) (.enum e)
  | union {decl : Union} {u : Symbol.Union} (h : decl.Means u) : Means (.union decl) (.union u)
  | struct {decl : Compound} {s : Symbol.Compound} (h : decl.Means s) :
      Means (.struct decl) (.struct s)
  | table {decl : Compound} {t : Symbol.Compound} (h : decl.Means t) :
      Means (.table decl) (.table t)

end Source

/-- A symbol table has what a schema declares, each name under one kind. -/
structure SymbolTable.Tabulates (file : SymbolTable) (schema : Source.Schema) : Prop where
  declarationOrder : file.declarationOrder = schema.filterMap (·.typeName?)
  declared : ∀ d ∈ schema, ∀ name, d.typeName? = some name → ∃ declared, d.Means declared ∧
    file.Holds name declared ∧ ∀ other, file.Holds name other → other = declared
  only : ∀ name declared, file.Holds name declared →
    ∃ d ∈ schema, d.typeName? = some name ∧ d.Means declared
  find?_iff : ∀ name declared, file.find? name = some declared ↔ file.Holds name declared

/-! ## Primitive names -/

theorem Primitive.ofName?_name (p : Primitive) : ofName? p.name = some p := by
  cases p <;> decide

theorem Primitive.ofName?_eq_some_iff {spelling : String} {p : Primitive} :
    ofName? spelling = some p ↔ p.name = spelling := by
  constructor
  · intro h
    simpa using List.find?_some h
  · rintro rfl
    exact p.ofName?_name

theorem Primitive.ofName?_eq_none_iff {spelling : String} :
    ofName? spelling = none ↔ ∀ p : Primitive, p.name ≠ spelling := by
  simp only [Option.eq_none_iff_forall_ne_some, ne_eq, ofName?_eq_some_iff]

theorem Primitive.class_of_integerRange? {p : Primitive} {least greatest : Int}
    (h : p.integerRange? = some (least, greatest)) :
    p.typeClass = .int ∨ p.typeClass = .char := by
  unfold integerRange? isInteger at h
  cases hclass : p.typeClass <;> simp [hclass] at h ⊢

theorem Primitive.inRange_iff {p : Primitive} {least greatest n : Int}
    (h : p.integerRange? = some (least, greatest)) :
    p.InRange n ↔ least ≤ n ∧ n ≤ greatest := by
  obtain ⟨_, _, hrange, hiff⟩ := integerRange?_of_class (class_of_integerRange? h) n
  cases h.symm.trans hrange
  exact hiff

/-! ## Metadata -/

namespace Metadata

variable {entry : Source.MetadataEntry}

theorem isReserved_eq_false_iff {name : String} : isReserved name = false ↔
    name ∉ reservedNames ∧ ¬ "native_".toList <+: name.toList := by
  rw [isReserved, Bool.or_eq_false_iff, ← List.isPrefixOf_iff_prefix, Bool.not_eq_true]
  simp [reservedFamily]

theorem alignment_fits_iff {n : Int} :
    (0 < n && n ≤ maxForceAlign) = true ↔ 1 ≤ n ∧ n ≤ 18446744073709551615 := by
  rw [Bool.and_eq_true, decide_eq_true_eq, decide_eq_true_eq]
  exact Iff.rfl

/-- An entry is recognised as what it means. -/
theorem ofEntry_eq_ok_iff {m : Metadata} : ofEntry entry = .ok m ↔ entry.Means m := by
  obtain ⟨name, value⟩ := entry
  constructor
  · intro h
    unfold ofEntry at h
    simp only [beq_iff_eq] at h
    split at h
    · rename_i hname
      cases h
      exact hname ▸ .deprecated value
    split at h
    · rename_i hname
      cases h
      exact hname ▸ .required value
    split at h
    · rename_i hname
      cases h
      exact hname ▸ .key value
    split at h
    · rename_i hname
      split at h
      · rename_i n
        split at h
        · rename_i hrange
          cases h
          obtain ⟨hpos, hle⟩ := alignment_fits_iff.mp hrange
          obtain ⟨bytes, rfl⟩ := Int.eq_ofNat_of_zero_le (Int.le_of_lt hpos)
          exact hname ▸ .forceAlign bytes (by omega) (by omega)
        · cases h
      · cases h
    split at h
    · rename_i hreserved
      cases h
      exact .builtin name value hreserved (by simp [*])
    · rename_i hfree
      cases h
      exact .user name value (by simpa using hfree)
  · intro h
    cases h with
    | deprecated => rfl
    | required => rfl
    | key => rfl
    | forceAlign bytes hpos hle =>
      have hrange : (0 < (bytes : Int) && (bytes : Int) ≤ maxForceAlign) = true :=
        alignment_fits_iff.mpr (by omega)
      simp only [ofEntry, hrange]
      rfl
    | builtin _ _ hreserved hplain =>
      simp only [List.mem_cons, List.not_mem_nil, or_false, not_or] at hplain
      simp [ofEntry, hplain, hreserved]
    | user _ _ hfree =>
      -- a name that is not reserved is none of the four with a meaning of their own
      have hother : name ∉ reservedNames := (isReserved_eq_false_iff.mp hfree).1
      simp only [reservedNames, List.mem_cons, List.not_mem_nil, or_false, not_or] at hother
      simp [ofEntry, hother, hfree]

/-- Only an alignment can fail to mean something. -/
theorem exists_means_iff : (∃ m, entry.Means m) ↔ entry.WellFormed := by
  constructor
  · rintro ⟨m, hm⟩ hname
    cases hm with
    | forceAlign bytes hpos hle => exact ⟨bytes, rfl, by omega, by omega⟩
    | builtin _ _ _ hplain => exact absurd hname (by simp_all)
    | user _ _ hfree =>
      have hother := (isReserved_eq_false_iff.mp hfree).1
      exact absurd hname fun heq => hother (by simp_all [reservedNames])
    | deprecated value => exact absurd hname (by simp)
    | required value => exact absurd hname (by simp)
    | key value => exact absurd hname (by simp)
  · intro h
    simp only [← ofEntry_eq_ok_iff]
    unfold ofEntry
    simp only [beq_iff_eq]
    split
    · exact ⟨_, rfl⟩
    split
    · exact ⟨_, rfl⟩
    split
    · exact ⟨_, rfl⟩
    split
    · rename_i hname
      obtain ⟨n, hvalue, hpos, hle⟩ := h hname
      simp only [hvalue, alignment_fits_iff.mpr ⟨hpos, hle⟩]
      exact ⟨_, rfl⟩
    split
    · exact ⟨_, rfl⟩
    · exact ⟨_, rfl⟩

theorem ofEntries_eq_ok_iff {entries : List Source.MetadataEntry} {metadata : List Metadata} :
    ofEntries entries = .ok metadata ↔
      List.Forall₂ Source.MetadataEntry.Means entries metadata := by
  simp only [ofEntries, mapM_eq_ok_iff, ofEntry_eq_ok_iff]

theorem exists_forall₂_means_iff {entries : List Source.MetadataEntry} :
    (∃ metadata, List.Forall₂ Source.MetadataEntry.Means entries metadata) ↔
      ∀ entry ∈ entries, entry.WellFormed := by
  simp only [exists_forall₂_iff, exists_means_iff]

end Metadata

namespace Symbol

/-- What was taken before does not come again. -/
theorem not_nodup_of_mem {α : Type} {a : α} {done rest : List α} (h : a ∈ done) :
    ¬ (done ++ a :: rest).Nodup := fun hnodup =>
  (List.nodup_append.mp hnodup).2.2 a h a List.mem_cons_self rfl

theorem nodup_concat {α : Type} {a : α} {done : List α} (h : done.Nodup) (hnew : a ∉ done) :
    (done ++ [a]).Nodup := by
  rw [← List.concat_eq_append]
  exact h.concat hnew

/-! ## Enums -/

/-- The base of a well-formed enum leaves room for one more integer. -/
theorem range_lt_maxInteger {p : Primitive} {least greatest : Int}
    (h : p.integerRange? = some (least, greatest)) : greatest < Number.maxInteger := by
  revert h
  cases p <;> simp [Primitive.integerRange?, Primitive.isInteger, Primitive.typeClass,
    Primitive.isUnsigned, Primitive.size, Number.maxInteger] <;> omega

theorem enumValue_eq {enum : String} {last : Int} {constant : Source.Value}
    (h : last < Number.maxInteger) :
    enumValue enum last constant = .ok (constant.value.getD (last + 1)) := by
  unfold enumValue
  cases constant.value <;> simp [h]

/-- Constants are numbered as long as names and numbers are new and fit the range. `done` holds those
before. -/
theorem enumValues_eq_ok_iff {enum : String} {underlying : Primitive} {least greatest last : Int}
    {done result : List EnumValue} {values : List Source.Value}
    (hnames : (done.map (·.name)).Nodup) (hnumbers : (done.map (·.value)).Nodup)
    (hlast : last < Number.maxInteger) (hgreatest : greatest < Number.maxInteger) :
    enumValues enum underlying least greatest last done values = .ok result ↔
      (∀ v ∈ values, '.' ∉ v.name.toList) ∧
      (done.map (·.name) ++ values.map (·.name)).Nodup ∧
      (done.map (·.value) ++ (Source.constantsFrom last values).map (·.value)).Nodup ∧
      (∀ c ∈ Source.constantsFrom last values, least ≤ c.value ∧ c.value ≤ greatest) ∧
      result = done ++ Source.constantsFrom last values := by
  induction values generalizing last done with
  | nil => simp [enumValues, Source.constantsFrom, hnames, hnumbers, eq_comm]
  | cons v rest ih =>
    simp only [enumValues, enumValue_eq hlast, Source.constantsFrom, List.forall_mem_cons,
      List.map_cons, List.contains_iff_mem]
    generalize v.value.getD (last + 1) = number
    by_cases hpoint : '.' ∈ v.name.toList
    · simp [hpoint]
    by_cases hnumber : number ∈ done.map (·.value)
    · have htaken : (done.any fun c => c.value == number) = true := by simpa using hnumber
      simp [hpoint, htaken, not_nodup_of_mem hnumber]
    have hfree : (done.any fun c => c.value == number) = false := by simpa using hnumber
    by_cases hname : v.name ∈ done.map (·.name)
    · have htaken : (done.any fun c => c.name == v.name) = true := by simpa using hname
      simp [hpoint, hfree, htaken, not_nodup_of_mem hname]
    have hnew : (done.any fun c => c.name == v.name) = false := by simpa using hname
    by_cases hrange : least ≤ number ∧ number ≤ greatest
    · have hfits : (number < least || greatest < number) = false := by
        simpa using hrange
      have hnext : ∀ c : EnumValue, c.name = v.name → c.value = number →
          ((done ++ [c]).map (·.name)).Nodup ∧ ((done ++ [c]).map (·.value)).Nodup := by
        intro c hc hc'
        simpa [hc, hc'] using And.intro (nodup_concat hnames hname) (nodup_concat hnumbers hnumber)
      obtain ⟨hnames', hnumbers'⟩ := hnext ⟨v.name, number⟩ rfl rfl
      simp [hpoint, hfree, hnew, hfits, hrange,
        ih hnames' hnumbers' (Int.lt_of_le_of_lt hrange.2 hgreatest)]
    · have hmisfit : (number < least || greatest < number) = true := by
        simp only [Bool.or_eq_true, decide_eq_true_eq]
        omega
      simp [hpoint, hfree, hnew, hmisfit, hrange]

/-- The constants of an enum are numbered exactly when they keep the rules of its base. -/
theorem enumValues_eq_ok_iff_constants {decl : Source.Enum} {p : Primitive} {least greatest : Int}
    {values : List EnumValue} (hrange : p.integerRange? = some (least, greatest)) :
    enumValues decl.name p least greatest (-1) [] decl.values = .ok values ↔
      (∀ v ∈ decl.values, '.' ∉ v.name.toList) ∧ (decl.values.map (·.name)).Nodup ∧
        (decl.constants.map (·.value)).Nodup ∧ (∀ c ∈ decl.constants, p.InRange c.value) ∧
          values = decl.constants := by
  rw [enumValues_eq_ok_iff (by simp) (by simp) (by decide) (range_lt_maxInteger hrange)]
  simp only [List.map_nil, List.nil_append, Primitive.inRange_iff hrange, Source.Enum.constants]

/-- An enum is built exactly when it is well formed and its metadata means something. -/
theorem Enum.ofSource_eq_ok_iff {decl : Source.Enum} {e : Enum} :
    Enum.ofSource decl = .ok e ↔ decl.WellFormed ∧ decl.Means e := by
  constructor
  · intro h
    unfold Enum.ofSource at h
    split at h
    · cases h
    rename_i p hp
    split at h
    · cases h
    rename_i least greatest hrange
    obtain ⟨_, hvalues, h⟩ := bind_eq_ok_iff.mp h
    obtain ⟨metadata, hmetadata, h⟩ := bind_eq_ok_iff.mp h
    cases h
    obtain ⟨hpoints, hnames, hnumbers, hfits, rfl⟩ :=
      (enumValues_eq_ok_iff_constants hrange).mp hvalues
    have hname := Primitive.ofName?_eq_some_iff.mp hp
    have hclass := Primitive.class_of_integerRange? hrange
    exact ⟨⟨⟨p, hname, hclass, hfits⟩, hpoints, hnames, hnumbers⟩,
      ⟨rfl, hname, rfl, Metadata.ofEntries_eq_ok_iff.mp hmetadata⟩⟩
  · rintro ⟨⟨⟨p, hname, hclass, hfits⟩, hpoints, hnames, hnumbers⟩, hmeans⟩
    obtain ⟨least, greatest, hrange, _⟩ := Primitive.integerRange?_of_class hclass 0
    have hvalues := (enumValues_eq_ok_iff_constants hrange).mpr
      ⟨hpoints, hnames, hnumbers, hfits, rfl⟩
    have hp := Primitive.ofName?_eq_some_iff.mpr hname
    obtain ⟨name, underlying, values, metadata⟩ := e
    obtain ⟨rfl, hunderlying, rfl, hmetadata⟩ := hmeans
    cases (Primitive.ofName?_eq_some_iff.mpr hunderlying).symm.trans hp
    simp only [Enum.ofSource, hp, hrange, bind_eq_ok_iff]
    exact ⟨_, hvalues, _, Metadata.ofEntries_eq_ok_iff.mpr hmetadata, rfl⟩

/-! ## Unions -/

theorem unionMembers_eq_ok_iff {union : String} {done result : List String}
    {members : List Source.Value} (hdone : done.Nodup) :
    unionMembers union done members = .ok result ↔
      (∀ member ∈ members, member.value = none) ∧ (done ++ members.map (·.name)).Nodup ∧
        result = done ++ members.map (·.name) := by
  induction members generalizing done with
  | nil => simp [unionMembers, hdone, eq_comm]
  | cons member rest ih =>
    simp only [unionMembers, List.forall_mem_cons, List.map_cons, List.contains_iff_mem]
    cases hvalue : member.value with
    | some value => simp
    | none =>
      by_cases hmember : member.name ∈ done
      · simp [hmember, not_nodup_of_mem hmember]
      · simp [hmember, ih (nodup_concat hdone hmember)]

/-- A union is built exactly when it is well formed and its metadata means something. -/
theorem Union.ofSource_eq_ok_iff {decl : Source.Union} {u : Union} :
    Union.ofSource decl = .ok u ↔ decl.WellFormed ∧ decl.Means u := by
  simp only [Union.ofSource, bind_eq_ok_iff, Metadata.ofEntries_eq_ok_iff,
    unionMembers_eq_ok_iff List.nodup_nil, List.nil_append]
  constructor
  · rintro ⟨_, ⟨hplain, hnames, rfl⟩, metadata, hmetadata, hu⟩
    cases hu
    exact ⟨⟨hplain, hnames⟩, ⟨rfl, rfl, hmetadata⟩⟩
  · rintro ⟨⟨hplain, hnames⟩, hmeans⟩
    obtain ⟨name, members, metadata⟩ := u
    obtain ⟨rfl, rfl, hmetadata⟩ := hmeans
    exact ⟨_, ⟨hplain, hnames, rfl⟩, metadata, hmetadata, rfl⟩

/-! ## Structs and tables -/

theorem fieldsOf_eq_ok_iff {kind : Kind} {owner : String} {done result : List Field}
    {fields : List Source.Field} (hdone : (done.map (·.name)).Nodup) :
    fieldsOf kind owner done fields = .ok result ↔
      (done.map (·.name) ++ fields.map (·.name)).Nodup ∧
        ∃ built, List.Forall₂ Source.Field.Means fields built ∧ result = done ++ built := by
  induction fields generalizing done with
  | nil => simp [fieldsOf, hdone, eq_comm]
  | cons field rest ih =>
    simp only [fieldsOf, List.map_cons, List.forall₂_cons_left_iff]
    by_cases hfield : field.name ∈ done.map (·.name)
    · have htaken : (done.any fun f => f.name == field.name) = true := by simpa using hfield
      simp [htaken, not_nodup_of_mem hfield]
    have hnew : (done.any fun f => f.name == field.name) = false := by simpa using hfield
    cases hmetadata : Metadata.ofEntries field.metadata with
    | error fault =>
      simp only [hnew, Bool.false_eq_true, if_false]
      refine iff_of_false (by simp) ?_
      rintro ⟨_, _, ⟨f, _, hf, _, _⟩, _⟩
      cases hmetadata.symm.trans (Metadata.ofEntries_eq_ok_iff.mpr hf.metadata)
    | ok metadata =>
      have hmeans := Metadata.ofEntries_eq_ok_iff.mp hmetadata
      have hnext : ∀ f : Field, f.name = field.name → ((done ++ [f]).map (·.name)).Nodup := by
        intro f hname
        simpa [hname] using nodup_concat hdone hfield
      simp only [hnew, Bool.false_eq_true, if_false]
      rw [ih (hnext _ rfl)]
      simp only [List.map_append, List.map_cons, List.map_nil, List.append_assoc,
        List.singleton_append]
      refine and_congr_right fun _ => ⟨?_, ?_⟩
      · rintro ⟨built, hbuilt, rfl⟩
        exact ⟨_, ⟨_, built, ⟨rfl, rfl, rfl, rfl, rfl, hmeans⟩, hbuilt, rfl⟩, rfl⟩
      · rintro ⟨_, ⟨f, built, hf, hbuilt, rfl⟩, rfl⟩
        obtain ⟨_, _, _, _, _, fieldMetadata⟩ := f
        obtain ⟨rfl, rfl, rfl, rfl, rfl, hsame⟩ := hf
        cases hmetadata.symm.trans (Metadata.ofEntries_eq_ok_iff.mpr hsame)
        exact ⟨built, hbuilt, rfl⟩

/-- A struct or a table is built exactly when its fields have distinct names and all metadata means
something. -/
theorem Compound.ofSource_eq_ok_iff (kind : Kind) {decl : Source.Compound} {c : Compound} :
    Compound.ofSource kind decl = .ok c ↔ (decl.fields.map (·.name)).Nodup ∧ decl.Means c := by
  simp only [Compound.ofSource, bind_eq_ok_iff, Metadata.ofEntries_eq_ok_iff,
    fieldsOf_eq_ok_iff (List.map_nil ▸ List.nodup_nil), List.map_nil, List.nil_append]
  constructor
  · rintro ⟨_, ⟨hnames, fields, hfields, rfl⟩, metadata, hmetadata, hc⟩
    cases hc
    exact ⟨hnames, ⟨rfl, rfl, hfields, hmetadata⟩⟩
  · rintro ⟨hnames, hmeans⟩
    obtain ⟨name, pos, fields, metadata⟩ := c
    obtain ⟨rfl, rfl, hfields, hmetadata⟩ := hmeans
    exact ⟨fields, ⟨hnames, fields, hfields, rfl⟩, metadata, hmetadata, rfl⟩

end Symbol

/-! ## Declarations -/

namespace Source

/-- Fields mean something once their metadata does. -/
theorem exists_fields_means_iff {fields : List Field} :
    (∃ built, List.Forall₂ Field.Means fields built) ↔
      ∀ entry ∈ fields.flatMap (·.metadata), entry.WellFormed := by
  have hfield : ∀ field : Field,
      (∃ f, field.Means f) ↔ ∀ entry ∈ field.metadata, entry.WellFormed := by
    intro field
    rw [← Metadata.exists_forall₂_means_iff]
    constructor
    · rintro ⟨f, hf⟩
      exact ⟨f.metadata, hf.metadata⟩
    · rintro ⟨metadata, hmetadata⟩
      exact ⟨⟨field.name, field.pos, field.typeName, field.isArray, field.default, metadata⟩,
        rfl, rfl, rfl, rfl, rfl, hmetadata⟩
  simp only [exists_forall₂_iff, hfield, List.mem_flatMap, forall_exists_index, and_imp]
  exact ⟨fun h entry field hmem => h field hmem entry, fun h field hmem entry => h entry field hmem⟩

theorem Compound.exists_means_iff {decl : Compound} : (∃ c, decl.Means c) ↔
    ∀ entry ∈ decl.metadata ++ decl.fields.flatMap (·.metadata), entry.WellFormed := by
  rw [List.forall_mem_append, ← Metadata.exists_forall₂_means_iff, ← exists_fields_means_iff]
  constructor
  · rintro ⟨c, hc⟩
    exact ⟨⟨c.metadata, hc.metadata⟩, ⟨c.fields, hc.fields⟩⟩
  · rintro ⟨⟨metadata, hmetadata⟩, ⟨fields, hfields⟩⟩
    exact ⟨⟨decl.name, decl.pos, fields, metadata⟩, rfl, rfl, hfields, hmetadata⟩

theorem Enum.exists_means_iff {decl : Enum} (h : decl.WellFormed) :
    (∃ e, decl.Means e) ↔ ∀ entry ∈ decl.metadata, entry.WellFormed := by
  rw [← Metadata.exists_forall₂_means_iff]
  obtain ⟨p, hname, _⟩ := h.base
  constructor
  · rintro ⟨e, he⟩
    exact ⟨e.metadata, he.metadata⟩
  · rintro ⟨metadata, hmetadata⟩
    exact ⟨⟨decl.name, p, decl.constants, metadata⟩, rfl, hname, rfl, hmetadata⟩

theorem Union.exists_means_iff {decl : Union} :
    (∃ u, decl.Means u) ↔ ∀ entry ∈ decl.metadata, entry.WellFormed := by
  rw [← Metadata.exists_forall₂_means_iff]
  constructor
  · rintro ⟨u, hu⟩
    exact ⟨u.metadata, hu.metadata⟩
  · rintro ⟨metadata, hmetadata⟩
    exact ⟨⟨decl.name, decl.members.map (·.name), metadata⟩, rfl, rfl, hmetadata⟩

namespace Declaration

variable {d : Declaration}

/-- A declaration that makes a type makes what it means. -/
theorem Makes.means {name : String} {declared : Symbol.Declared} (h : d.Makes name declared) :
    d.Means declared := by
  cases h with
  | enum he => exact .enum (Symbol.Enum.ofSource_eq_ok_iff.mp he).2
  | union hu => exact .union (Symbol.Union.ofSource_eq_ok_iff.mp hu).2
  | struct hs => exact .struct ((Symbol.Compound.ofSource_eq_ok_iff .struct).mp hs).2
  | table ht => exact .table ((Symbol.Compound.ofSource_eq_ok_iff .table).mp ht).2

/-- A declaration of a type can be built exactly when its items are distinct and its metadata means
something. -/
theorem exists_makes_iff {name : String} (h : d.typeName? = some name) :
    (∃ declared, d.Makes name declared) ↔ (∀ decl, d = .enum decl → decl.WellFormed) ∧
      (∀ decl, d = .union decl → decl.WellFormed) ∧
      (∀ decl, d = .struct decl ∨ d = .table decl → (decl.fields.map (·.name)).Nodup) ∧
      ∀ entry ∈ d.entries, entry.WellFormed := by
  cases d with
  | enum decl =>
    cases h
    have hmakes : (∃ declared, (enum decl).Makes decl.name declared) ↔
        ∃ e, decl.WellFormed ∧ decl.Means e := by
      simp only [← Symbol.Enum.ofSource_eq_ok_iff]
      constructor
      · rintro ⟨_, hmade⟩
        cases hmade with
        | enum he => exact ⟨_, he⟩
      · rintro ⟨_, he⟩
        exact ⟨_, .enum he⟩
    rw [hmakes, exists_and_left, and_congr_right Enum.exists_means_iff]
    simp [entries]
  | union decl =>
    cases h
    have hmakes : (∃ declared, (union decl).Makes decl.name declared) ↔
        ∃ u, decl.WellFormed ∧ decl.Means u := by
      simp only [← Symbol.Union.ofSource_eq_ok_iff]
      constructor
      · rintro ⟨_, hmade⟩
        cases hmade with
        | union hu => exact ⟨_, hu⟩
      · rintro ⟨_, hu⟩
        exact ⟨_, .union hu⟩
    rw [hmakes, exists_and_left, Union.exists_means_iff]
    simp [entries]
  | struct decl =>
    cases h
    have hmakes : (∃ declared, (struct decl).Makes decl.name declared) ↔
        ∃ s, (decl.fields.map (·.name)).Nodup ∧ decl.Means s := by
      simp only [← Symbol.Compound.ofSource_eq_ok_iff .struct]
      constructor
      · rintro ⟨_, hmade⟩
        cases hmade with
        | struct hs => exact ⟨_, hs⟩
      · rintro ⟨_, hs⟩
        exact ⟨_, .struct hs⟩
    rw [hmakes, exists_and_left, Compound.exists_means_iff]
    simp [entries]
  | table decl =>
    cases h
    have hmakes : (∃ declared, (table decl).Makes decl.name declared) ↔
        ∃ t, (decl.fields.map (·.name)).Nodup ∧ decl.Means t := by
      simp only [← Symbol.Compound.ofSource_eq_ok_iff .table]
      constructor
      · rintro ⟨_, hmade⟩
        cases hmade with
        | table ht => exact ⟨_, ht⟩
      · rintro ⟨_, ht⟩
        exact ⟨_, .table ht⟩
    rw [hmakes, exists_and_left, Compound.exists_means_iff]
    simp [entries]
  | _ => cases h

/-- What a declaration has to be on its own are its rules. -/
theorem isSound_iff : d.IsSound ↔ d.WellFormed := by
  cases htype : d.typeName? with
  | some name =>
    rw [isSound_of_typeName? htype, exists_makes_iff htype, Primitive.ofName?_eq_none_iff]
    constructor
    · rintro ⟨hname, hconstants, hmembers, hfields, halignments⟩
      refine ⟨?_, ?_, ?_, ?_, hconstants, hmembers, hfields, halignments⟩
      -- a type is no header line
      · cases d <;> simp at htype ⊢
      · cases d <;> simp at htype ⊢
      · rintro _ rfl
        cases htype
      · intro other hother
        cases htype.symm.trans hother
        exact hname
    · intro h
      exact ⟨h.typeName name htype, h.constants, h.members, h.fields, h.alignments⟩
  | none =>
    cases d with
    | includeFile path => exact iff_of_true trivial (by constructor <;> simp [entries])
    | inNamespace path => exact iff_of_true trivial (by constructor <;> simp [entries])
    | fileExtension extension => exact iff_of_true trivial (by constructor <;> simp [entries])
    | attributeName name =>
      rw [IsSound, Metadata.isReserved_eq_false_iff]
      exact ⟨fun h => by constructor <;> simp_all [entries], fun h => h.attributeName name rfl⟩
    | rootType name =>
      rw [IsSound, Primitive.ofName?_eq_none_iff]
      exact ⟨fun h => by constructor <;> simp_all [entries], fun h => h.root name rfl⟩
    | fileIdentifier identifier =>
      rw [IsSound, Wire.fileIdentifierLength]
      exact ⟨fun h => by constructor <;> simp_all [entries], fun h => h.identifier identifier rfl⟩
    | enum decl => cases htype
    | union decl => cases htype
    | struct decl => cases htype
    | table decl => cases htype

end Declaration

/-! ## Schemas -/

/-- Header lines stand once when no two of them stand in the schema. -/
theorem length_filterMap_le_one_iff {α : Type} {f : Declaration → Option α} {schema : Schema} :
    (schema.filterMap f).length ≤ 1 ↔ schema.Pairwise fun d e => ¬ (f d ≠ none ∧ f e ≠ none) := by
  have hpair : ∀ l : List α, l.length ≤ 1 ↔ l.Pairwise fun _ _ => False := by
    intro l
    match l with
    | [] => simp
    | [a] => simp
    | a :: b :: rest =>
      exact iff_of_false (by simp) fun h => List.rel_of_pairwise_cons h List.mem_cons_self
  rw [hpair, List.pairwise_filterMap]
  refine Iff.of_eq (congrArg (fun R => List.Pairwise R schema) ?_)
  funext d e
  cases f d <;> cases f e <;> simp

theorem nodup_filterMap_iff {α : Type} {f : Declaration → Option α} {schema : Schema} :
    (schema.filterMap f).Nodup ↔
      schema.Pairwise fun d e => ¬ ∃ name, f d = some name ∧ f e = some name := by
  rw [List.Nodup, List.pairwise_filterMap]
  refine Iff.of_eq (congrArg (fun R => List.Pairwise R schema) ?_)
  funext d e
  cases f d <;> cases f e <;> simp [eq_comm]

/-- The rules of a schema are those the build checks declaration by declaration. -/
theorem buildable_iff_wellFormed {schema : Schema} : Buildable schema ↔ WellFormed schema := by
  have hsound : (∀ d ∈ schema, d.IsSound) ↔ ∀ d ∈ schema, d.WellFormed := by
    simp only [Declaration.isSound_iff]
  have hcompatible : (schema.Pairwise fun d e => ¬ d.Clash e) ↔
      (schema.filterMap (·.namespace?)).length ≤ 1 ∧ (schema.filterMap (·.extension?)).length ≤ 1 ∧
      (schema.filterMap (·.identifier?)).length ≤ 1 ∧ (schema.filterMap (·.attribute?)).Nodup ∧
      (schema.filterMap (·.typeName?)).Nodup := by
    simp only [length_filterMap_le_one_iff, nodup_filterMap_iff, ← List.pairwise_and_iff,
      Declaration.Clash, not_or]
  constructor
  · rintro ⟨hdeclarations, hclash⟩
    obtain ⟨hnamespaces, hextensions, hidentifiers, hattributes, hnames⟩ := hcompatible.mp hclash
    exact ⟨hnamespaces, hextensions, hidentifiers, hattributes, hnames, hsound.mp hdeclarations⟩
  · intro h
    exact ⟨hsound.mpr h.declarations, hcompatible.mpr
      ⟨h.namespaces, h.extensions, h.identifiers, h.attributes, h.typeNames⟩⟩

end Source

namespace SymbolTable

variable {schema : Source.Schema} {file : SymbolTable}

/-- A built table has what its schema declares. -/
theorem tabulates_of_build (h : build schema = .ok file) : file.Tabulates schema := by
  obtain ⟨hbuildable, hfrom⟩ := builtFrom_of_build h
  have hbuilt : file.Built := ⟨schema, h⟩
  constructor
  · exact hfrom.declarationOrder
  · intro d hd name hname
    obtain ⟨_, declared, hmakes⟩ :=
      (Source.Declaration.isSound_of_typeName? hname).mp (hbuildable.sound d hd)
    have hholds := (hfrom.holds name declared).mpr ⟨d, hd, hmakes⟩
    exact ⟨declared, hmakes.means, hholds, fun other hother => hbuilt.holds_unique hother hholds⟩
  · intro name declared hholds
    obtain ⟨d, hd, hmakes⟩ := (hfrom.holds name declared).mp hholds
    exact ⟨d, hd, hmakes.typeName?, hmakes.means⟩
  · intro name declared
    exact hbuilt.find?_eq_some_iff

/-- **Build.** A schema has a symbol table exactly when it is well formed, and the table has what the
schema declares. -/
theorem build_ok_iff_wellFormed (schema : Source.Schema) :
    ((∃ file, build schema = .ok file) ↔ Source.WellFormed schema) ∧
    ∀ file, build schema = .ok file → file.Tabulates schema :=
  ⟨exists_build_iff.trans Source.buildable_iff_wellFormed, fun _ => tabulates_of_build⟩

/-- Every header line, an enum that counts on from a written number, and a type of each other kind. -/
def dockSchema : Source.Schema :=
  [.inNamespace ["n"], .attributeName "w", .fileIdentifier "DOCK", .fileExtension "d",
   .union ⟨"U", [], [⟨"T", none, ⟨2, 11⟩⟩], ⟨2, 7⟩⟩, .rootType "T",
   .enum ⟨"E", "byte", [], [⟨"A", some (-2), ⟨4, 17⟩⟩, ⟨"B", none, ⟨4, 25⟩⟩], ⟨4, 6⟩⟩,
   .struct ⟨"S", [⟨"force_align", some (.integer 16)⟩],
     [⟨"x", "short", false, some (.integer 3), [⟨"w", none⟩], ⟨6, 3⟩⟩], ⟨5, 8⟩⟩,
   .table ⟨"T", [⟨"key", none⟩],
     [⟨"s", "S", true, none, [⟨"native_s", none⟩], ⟨8, 3⟩⟩, ⟨"x", "E", false, none, [], ⟨9, 3⟩⟩],
     ⟨7, 7⟩⟩]

theorem build_dockSchema : Source.WellFormed dockSchema ∧ ∃ file, build dockSchema = .ok file ∧
    file.declarationOrder = ["U", "E", "S", "T"] ∧ file.Tabulates dockSchema := by
  have horder : ((build dockSchema).toOption.map (·.declarationOrder)) =
      some ["U", "E", "S", "T"] := by decide +kernel
  obtain ⟨file, hfile, hnames⟩ := Option.map_eq_some_iff.mp horder
  have hbuild := eq_ok_of_toOption hfile
  obtain ⟨hiff, htabulates⟩ := build_ok_iff_wellFormed dockSchema
  exact ⟨hiff.mp ⟨file, hbuild⟩, file, hbuild, hnames, htabulates file hbuild⟩

end SymbolTable

end WireSchema
