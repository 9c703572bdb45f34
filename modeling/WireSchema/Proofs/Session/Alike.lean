/-
WireSchema.Proofs.Session.Alike — sessions whose files and declarations come in another order.

`Rearranged` relates two lists that match item by item once one of them is permuted. Permuted schemas
are built alike (`SymbolTable.alike_of_perm`), so rearranged files make sessions that are alike
(`Session.exists_registerSchemas_of_rearranged`). Where no qualified name is declared twice, names stand
for the same in both (`Session.Alike.resolve?_eq`), and so both keep the rules or neither does
(`Session.Alike.rules`). Each of these needs one direction only: the relations are symmetric.
-/
import Mathlib.Data.List.Perm.Basic
import WireSchema.Proofs.Session.Verified

namespace WireSchema

open WireSchema.Outcome

/-! ## Rearranged lists -/

section

variable {α β γ δ : Type} {R : α → β → Prop} {l : List α} {m : List β}

/-- Two lists match item by item once the first is permuted. -/
def Rearranged (R : α → β → Prop) (l : List α) (m : List β) : Prop :=
  ∃ mid, l.Perm mid ∧ List.Forall₂ R mid m

theorem Rearranged.symm {S : β → α → Prop} (hflip : ∀ a b, R a b → S b a)
    (h : Rearranged R l m) : Rearranged S m l := by
  obtain ⟨mid, hperm, hall⟩ := h
  have hback : List.Forall₂ S m mid := List.Forall₂.flip (hall.imp hflip)
  have hcomp : Relation.Comp (List.Forall₂ S) List.Perm m l := ⟨mid, hback, hperm.symm⟩
  rw [List.forall₂_comp_perm_eq_perm_comp_forall₂] at hcomp
  exact hcomp

theorem Rearranged.exists_left (h : Rearranged R l m) {b : β} (hb : b ∈ m) : ∃ a ∈ l, R a b := by
  obtain ⟨mid, hperm, hall⟩ := h
  obtain ⟨a, ha, hab⟩ := exists_of_forall₂_of_mem hall hb
  exact ⟨a, hperm.mem_iff.mpr ha, hab⟩

theorem Rearranged.exists_right (h : Rearranged R l m) {a : α} (ha : a ∈ l) : ∃ b ∈ m, R a b :=
  (h.symm (S := fun b a => R a b) fun _ _ hab => hab).exists_left ha

theorem Rearranged.with_mem (h : Rearranged R l m) :
    Rearranged (fun a b => R a b ∧ a ∈ l ∧ b ∈ m) l m := by
  obtain ⟨mid, hperm, hall⟩ := h
  refine ⟨mid, hperm, ?_⟩
  rw [List.forall₂_iff_zip] at hall ⊢
  refine ⟨hall.1, fun hab => ⟨hall.2 hab, ?_⟩⟩
  obtain ⟨ha, hb⟩ := List.of_mem_zip hab
  exact ⟨hperm.mem_iff.mpr ha, hb⟩

/-- What is computed item by item from rearranged lists is rearranged. -/
theorem Rearranged.results {F : α → γ → Prop} {G : β → δ → Prop} {S : γ → δ → Prop}
    (hstep : ∀ a b c d, R a b → F a c → G b d → S c d) (h : Rearranged R l m) {r : List γ}
    {s : List δ} (hr : List.Forall₂ F l r) (hs : List.Forall₂ G m s) : Rearranged S r s := by
  obtain ⟨mid, hperm, hall⟩ := h
  obtain ⟨r', hr', hperm'⟩ := List.perm_comp_forall₂ hperm.symm hr
  refine ⟨r', hperm'.symm, ?_⟩
  clear hperm hperm' hr
  induction hall generalizing r' s with
  | nil =>
    cases hr'
    cases hs
    exact .nil
  | cons hab _ ih =>
    cases hr' with
    | cons hac hr' =>
      cases hs with
      | cons hbd hs => exact .cons (hstep _ _ _ _ hab hac hbd) (ih hs _ hr')

theorem Rearranged.perm_map {f : α → γ} {g : β → γ} (hsame : ∀ a b, R a b → f a = g b)
    (h : Rearranged R l m) : (l.map f).Perm (m.map g) := by
  obtain ⟨mid, hperm, hall⟩ := h
  have hmap : List.Forall₂ (fun c d => c = d) (mid.map f) (m.map g) := by
    rw [List.forall₂_map_left_iff, List.forall₂_map_right_iff]
    exact hall.imp hsame
  rw [List.forall₂_eq_eq_eq] at hmap
  rw [← hmap]
  exact hperm.map f

end

/-- The results of one function on permuted lists are permuted. -/
theorem Outcome.perm_of_mapM {α β ε : Type} {f : α → Except ε β} {l m : List α} {r s : List β}
    (h : l.Perm m) (hr : l.mapM f = .ok r) (hs : m.mapM f = .ok s) : r.Perm s := by
  have hsame : Rearranged (fun a b => a = b) l m := ⟨m, h, List.forall₂_same.mpr fun _ _ => rfl⟩
  have hresults : Rearranged (fun a b => a = b) r s := by
    refine hsame.results ?_ (mapM_eq_ok_iff.mp hr) (mapM_eq_ok_iff.mp hs)
    rintro a _ c d rfl hc hd
    exact Except.ok.inj (hc.symm.trans hd)
  simpa using hresults.perm_map (f := id) (g := id) fun _ _ heq => heq

/-! ## Schemas and symbol tables -/

theorem Source.Buildable.of_perm {schema other : Schema} (hperm : schema.Perm other)
    (h : Buildable schema) : Buildable other where
  sound d hd := h.sound d (hperm.mem_iff.mpr hd)
  compatible := (hperm.pairwise_iff fun hclash hback => hclash hback.symm).mp h.compatible

namespace SymbolTable

/-- Two tables with the same content, their lists in any order. -/
structure Alike (file other : SymbolTable) : Prop where
  namespacePath : file.namespacePath = other.namespacePath
  includes : file.includes.Perm other.includes
  attributes : file.attributes.Perm other.attributes
  rootTypes : file.rootTypes.Perm other.rootTypes
  fileIdentifier : file.fileIdentifier = other.fileIdentifier
  fileExtension : file.fileExtension = other.fileExtension
  declarationOrder : file.declarationOrder.Perm other.declarationOrder
  holds : ∀ name declared, file.Holds name declared ↔ other.Holds name declared

namespace Alike

variable {file other : SymbolTable}

theorem symm (h : file.Alike other) : other.Alike file where
  namespacePath := h.namespacePath.symm
  includes := h.includes.symm
  attributes := h.attributes.symm
  rootTypes := h.rootTypes.symm
  fileIdentifier := h.fileIdentifier.symm
  fileExtension := h.fileExtension.symm
  declarationOrder := h.declarationOrder.symm
  holds name declared := (h.holds name declared).symm

theorem scopePath (h : file.Alike other) : file.scopePath = other.scopePath := by
  rw [SymbolTable.scopePath, h.namespacePath, SymbolTable.scopePath]

theorem find?_eq (h : file.Alike other) (hfile : file.Built) (hother : other.Built)
    (name : String) : file.find? name = other.find? name := by
  ext declared
  rw [hfile.find?_eq_some_iff, hother.find?_eq_some_iff, h.holds]

theorem hasField (h : file.Alike other) {owner : Kind} {f : Symbol.Field}
    (hf : file.HasField owner f) : other.HasField owner f := by
  cases hf with
  | struct hstruct hmem => exact .struct ((h.holds _ _).mp hstruct) hmem
  | table htable hmem => exact .table ((h.holds _ _).mp htable) hmem

end Alike

theorem eq_of_perm_toList {α : Type} {a b : Option α} (h : a.toList.Perm b.toList) : a = b := by
  cases a <;> cases b <;> simp_all

/-- Permuted schemas are built alike. -/
theorem alike_of_perm {schema other : Source.Schema} (hperm : schema.Perm other)
    {file file' : SymbolTable} (h : BuiltFrom schema file) (h' : BuiltFrom other file') :
    file.Alike file' where
  namespacePath := eq_of_perm_toList <| by
    rw [h.namespacePath, h'.namespacePath]
    exact hperm.filterMap _
  includes := by
    rw [h.includes, h'.includes]
    exact hperm.filterMap _
  attributes := by
    rw [h.attributes, h'.attributes]
    exact hperm.filterMap _
  rootTypes := by
    rw [List.perm_ext_iff_of_nodup h.nodup_rootTypes h'.nodup_rootTypes]
    intro name
    rw [h.rootTypes, h'.rootTypes, hperm.mem_iff]
  fileIdentifier := eq_of_perm_toList <| by
    rw [h.fileIdentifier, h'.fileIdentifier]
    exact hperm.filterMap _
  fileExtension := eq_of_perm_toList <| by
    rw [h.fileExtension, h'.fileExtension]
    exact hperm.filterMap _
  declarationOrder := by
    rw [h.declarationOrder, h'.declarationOrder]
    exact hperm.filterMap _
  holds name declared := by
    simp only [h.holds, h'.holds, hperm.mem_iff]

/-- The symbol table of a schema, as `ofText` makes it behind the parser. -/
def ofSchema (schema : Source.Schema) : Except Error SymbolTable :=
  (build schema).mapError .build

/-- A schema that is a permutation of another is built if that is, and alike. -/
theorem exists_ofSchema_of_perm {schema other : Source.Schema} (hperm : schema.Perm other)
    {file : SymbolTable} (h : ofSchema schema = .ok file) :
    ∃ file', ofSchema other = .ok file' ∧ file.Alike file' := by
  obtain ⟨hbuildable, hbuilt⟩ := builtFrom_of_build (mapError_eq_ok_iff.mp h)
  obtain ⟨file', hfile'⟩ := exists_build_iff.mpr (hbuildable.of_perm hperm)
  exact ⟨file', mapError_eq_ok_iff.mpr hfile', alike_of_perm hperm hbuilt (builtFrom_of_build hfile').2⟩

end SymbolTable

/-! ## Sessions -/

namespace Session

variable {session other : Session}

/-- Builds schemas in order and adds each under its path. -/
def registerSchemas (schemas : List (String × Source.Schema)) : Except Error Session :=
  registerWith SymbolTable.ofSchema {} schemas

/-- Two sessions of built files that are alike path by path. -/
structure Alike (session other : Session) : Prop where
  files : Rearranged (fun entry entry' => entry.1 = entry'.1 ∧ entry.2.Alike entry'.2)
    session.files.entries other.files.entries
  built : ∀ file ∈ session.files.values, file.Built
  built_other : ∀ file ∈ other.files.values, file.Built

theorem registerSchemas_eq_ok_iff {schemas : List (String × Source.Schema)} :
    registerSchemas schemas = .ok session ↔
      List.Forall₂ (fun item entry => item.1 = entry.1 ∧ SymbolTable.ofSchema item.2 = .ok entry.2)
        schemas session.files.entries := by
  rw [registerSchemas, registerWith_eq_ok_iff]
  constructor
  · rintro ⟨added, hadded, hentries⟩
    rw [hentries]
    exact hadded
  · intro h
    exact ⟨_, h, rfl⟩

theorem built_of_registerSchemas {schemas : List (String × Source.Schema)}
    (h : registerSchemas schemas = .ok session) : ∀ file ∈ session.files.values, file.Built := by
  intro file hfile
  obtain ⟨entry, hentry, rfl⟩ := List.mem_map.mp hfile
  obtain ⟨item, _, _, hread⟩ :=
    exists_of_forall₂_of_mem (registerSchemas_eq_ok_iff.mp h) hentry
  exact ⟨item.2, mapError_eq_ok_iff.mp hread⟩

/-- Rearranged schemas are registered if the schemas are, as a session that is alike. -/
theorem exists_registerSchemas_of_rearranged {schemas rearranged : List (String × Source.Schema)}
    (hr : Rearranged (fun item item' => item.1 = item'.1 ∧ item.2.Perm item'.2) schemas rearranged)
    (h : registerSchemas schemas = .ok session) :
    ∃ other, registerSchemas rearranged = .ok other ∧ session.Alike other := by
  have hread := registerSchemas_eq_ok_iff.mp h
  have hitems : ∀ item' ∈ rearranged, ∃ entry' : String × SymbolTable,
      item'.1 = entry'.1 ∧ SymbolTable.ofSchema item'.2 = .ok entry'.2 := by
    intro item' hitem'
    obtain ⟨item, hitem, _, hperm⟩ := hr.exists_left hitem'
    obtain ⟨entry, _, _, hfile⟩ := exists_of_forall₂_of_mem hread.flip hitem
    obtain ⟨file', hfile', _⟩ := SymbolTable.exists_ofSchema_of_perm hperm hfile
    exact ⟨(item'.1, file'), rfl, hfile'⟩
  obtain ⟨entries, hread'⟩ := exists_forall₂_iff.mpr hitems
  have hfiles : Rearranged (fun entry entry' => entry.1 = entry'.1 ∧ entry.2.Alike entry'.2)
      session.files.entries entries := by
    refine hr.results ?_ hread hread'
    rintro item item' entry entry' ⟨hpath, hperm⟩ ⟨hentry, hfile⟩ ⟨hentry', hfile'⟩
    obtain ⟨file, hbuilt, halike⟩ := SymbolTable.exists_ofSchema_of_perm hperm hfile
    cases hbuilt.symm.trans hfile'
    exact ⟨by rw [← hentry, hpath, hentry'], halike⟩
  -- the paths are those of the session, so no two are the same
  have hnodup := (hfiles.perm_map fun _ _ halike => halike.1).nodup_iff.mp session.files.nodup
  have hother : registerSchemas rearranged = .ok ⟨⟨entries, hnodup⟩⟩ :=
    registerSchemas_eq_ok_iff.mpr hread'
  exact ⟨_, hother, hfiles, built_of_registerSchemas h, built_of_registerSchemas hother⟩

namespace Alike

theorem symm (h : session.Alike other) : other.Alike session :=
  ⟨h.files.symm fun _ _ halike => ⟨halike.1.symm, halike.2.symm⟩, h.built_other, h.built⟩

variable (h : session.Alike other)

include h

theorem exists_file {path : String} {file : SymbolTable} (hfile : session.file? path = some file) :
    ∃ file', other.file? path = some file' ∧ file.Alike file' := by
  obtain ⟨⟨_, file'⟩, hentry', rfl, halike⟩ :=
    h.files.exists_right (OrderedMap.get?_eq_some_iff.mp hfile)
  exact ⟨file', OrderedMap.get?_eq_some_iff.mpr hentry', halike⟩

theorem exists_mem {file : SymbolTable} (hfile : file ∈ session.files.values) :
    ∃ file' ∈ other.files.values, file.Alike file' := by
  obtain ⟨path, hpath⟩ := OrderedMap.mem_values_iff.mp hfile
  obtain ⟨file', hfile', halike⟩ := h.exists_file hpath
  exact ⟨file', OrderedMap.mem_values_iff.mpr ⟨path, hfile'⟩, halike⟩

theorem declaresAttribute {name : String} (hname : session.DeclaresAttribute name) :
    other.DeclaresAttribute name := by
  obtain ⟨file, hfile, hmem⟩ := hname
  obtain ⟨file', hfile', halike⟩ := h.exists_mem hfile
  exact ⟨file', hfile', halike.attributes.mem_iff.mp hmem⟩

theorem declares {name : TypeName} {declared : Symbol.Declared}
    (hname : session.Declares name declared) : other.Declares name declared := by
  obtain ⟨file, hfile, hpath, hfind⟩ := hname
  obtain ⟨file', hfile', halike⟩ := h.exists_mem hfile
  refine ⟨file', hfile', halike.scopePath ▸ hpath, ?_⟩
  rw [← halike.find?_eq (h.built file hfile) (h.built_other file' hfile'), hfind]

theorem names_nodup (hunique : session.names.Nodup) : other.names.Nodup := by
  rw [Rules.names_nodup_iff h.built_other]
  intro path path' file file' hfile hfile' hscope name declared declared' hd hd'
  obtain ⟨source, hsource, halike⟩ := h.symm.exists_file hfile
  obtain ⟨source', hsource', halike'⟩ := h.symm.exists_file hfile'
  have hscopes : source.scopePath = source'.scopePath := by
    rw [← halike.scopePath, hscope, halike'.scopePath]
  exact (Rules.names_nodup_iff h.built).mp hunique path path' source source' hsource hsource'
    hscopes name declared declared' ((halike.holds _ _).mp hd) ((halike'.holds _ _).mp hd')

end Alike

/-! ## Names -/

/-- Where no qualified name is declared twice, it is declared as one type. -/
theorem Declares.unique (hbuilt : ∀ file ∈ session.files.values, file.Built)
    (hunique : session.names.Nodup) {name : TypeName} {declared declared' : Symbol.Declared}
    (h : session.Declares name declared) (h' : session.Declares name declared') :
    declared = declared' := by
  obtain ⟨file, hfile, hpath, hfind⟩ := h
  obtain ⟨file', hfile', hpath', hfind'⟩ := h'
  obtain ⟨path, hentry⟩ := OrderedMap.mem_values_iff.mp hfile
  obtain ⟨path', hentry'⟩ := OrderedMap.mem_values_iff.mp hfile'
  obtain rfl : path = path' := (Rules.names_nodup_iff hbuilt).mp hunique path path' file file'
    hentry hentry' (hpath.trans hpath'.symm) _ _ _ (SymbolTable.holds_of_find? hfind)
    (SymbolTable.holds_of_find? hfind')
  cases hentry.symm.trans hentry'
  exact Option.some.inj (hfind.symm.trans hfind')

/-- So the order in which files are searched does not matter. -/
theorem lookup?_eq_some_iff (hbuilt : ∀ file ∈ session.files.values, file.Built)
    (hunique : session.names.Nodup) {file : SymbolTable} (hfile : file ∈ session.files.values)
    {name : TypeName} {declared : Symbol.Declared} :
    Scope.lookup? ⟨session, file⟩ name = some declared ↔ session.Declares name declared := by
  have hdeclares : ∀ found, Scope.lookup? ⟨session, file⟩ name = some found →
      session.Declares name found := by
    intro found hfound
    obtain ⟨source, rfl | hsource, hpath, hfind⟩ := Scope.lookup?_cases hfound
    · exact ⟨_, hfile, hpath, hfind⟩
    · exact ⟨source, hsource, hpath, hfind⟩
  refine ⟨hdeclares declared, fun h => ?_⟩
  cases hlookup : Scope.lookup? ⟨session, file⟩ name with
  | some found => rw [(hdeclares found hlookup).unique hbuilt hunique h]
  | none =>
    obtain ⟨source, hsource, hpath, hfind⟩ := h
    simp only [Scope.lookup?, Option.or_eq_none_iff, List.findSome?_eq_none_iff] at hlookup
    have hnone := hlookup.2 source hsource
    simp [hpath, hfind] at hnone

namespace Alike

variable (h : session.Alike other) (hunique : session.names.Nodup)

include h hunique

/-- In sessions that are alike a written name stands for the same. -/
theorem resolve?_eq {file file' : SymbolTable} (hfile : file ∈ session.files.values)
    (hfile' : file' ∈ other.files.values) (halike : file.Alike file') (name : String) :
    Scope.resolve? ⟨session, file⟩ name = Scope.resolve? ⟨other, file'⟩ name := by
  have hfind := halike.find?_eq (h.built file hfile) (h.built_other file' hfile')
  have hlookup : ∀ candidate, Scope.lookup? ⟨session, file⟩ candidate =
      Scope.lookup? ⟨other, file'⟩ candidate := by
    intro candidate
    ext declared
    rw [lookup?_eq_some_iff h.built hunique hfile,
      lookup?_eq_some_iff h.built_other (h.names_nodup hunique) hfile']
    exact ⟨h.declares, h.symm.declares⟩
  simp only [Scope.resolve?, Scope.local?, Scope.candidates, hfind, hlookup, halike.scopePath]

/-! ## Rules -/

theorem wellFormed {file file' : SymbolTable} (hfile : file ∈ session.files.values)
    (hfile' : file' ∈ other.files.values) (halike : file.Alike file') {discriminant : Primitive}
    (hwell : Scope.WellFormed ⟨session, file⟩ discriminant) :
    Scope.WellFormed ⟨other, file'⟩ discriminant := by
  have hresolve := h.resolve?_eq hunique hfile hfile' halike
  constructor
  · intro root hroot
    rw [← hresolve]
    exact hwell.roots root (halike.rootTypes.mem_iff.mpr hroot)
  · intro name u hu member hmember
    rw [← hresolve]
    exact hwell.members name u ((halike.holds _ _).mpr hu) member hmember
  · intro name u hu
    exact hwell.memberCount name u ((halike.holds _ _).mpr hu)
  · intro owner f hf
    obtain ⟨qualified, declared, hqualified, hadmits⟩ := hwell.fields owner f (halike.symm.hasField hf)
    refine ⟨qualified, declared, hresolve _ ▸ hqualified, ?_⟩
    exact { hadmits with
      attributes := fun name value hentry =>
        h.declaresAttribute (hadmits.attributes name value hentry) }
  · intro name declared hd
    have hadmits := hwell.metadata name declared ((halike.holds _ _).mpr hd)
    exact { hadmits with
      attributes := fun name value hentry =>
        h.declaresAttribute (hadmits.attributes name value hentry) }

omit hunique in
/-- Sessions that are alike keep the rules or break them together. -/
theorem rules {settings : CompilerSettings} (hrules : Rules.session session settings = .ok ()) :
    Rules.session other settings = .ok () := by
  obtain ⟨hunique, hfiles⟩ := Rules.session_eq_ok_iff.mp hrules
  refine Rules.session_eq_ok_iff.mpr ⟨h.names_nodup hunique, fun file' hfile' => ?_⟩
  obtain ⟨file, hfile, halike⟩ := h.symm.exists_mem hfile'
  obtain ⟨discriminant, hsettings, hwell⟩ := hfiles file hfile
  exact ⟨discriminant, hsettings, h.wellFormed hunique hfile hfile' halike.symm hwell⟩

end Alike

end Session

end WireSchema
