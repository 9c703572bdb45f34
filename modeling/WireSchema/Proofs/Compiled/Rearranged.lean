/-
WireSchema.Proofs.Compiled.Rearranged — the order of files and of declarations changes no result.

In sessions that are alike every name has the same resolved declaration (`Session.Alike.get?_eq`).
References and layouts are read off the declarations by name, so both sessions have a cycle or neither
has, and equal layouts. What is left of the order is the order of lists (`Compiled.Alike`).

Main statement: `Session.compileSchemas_rearranged`.
-/
import WireSchema.Proofs.Compiled.Stages
import WireSchema.Proofs.Session.Alike

namespace WireSchema

open Relation
open WireSchema.Order
open WireSchema.Outcome
open WireSchema.Resolved (Declaration)

/-! ## Declarations by name -/

section

variable {declarations others : OrderedMap TypeName Declaration}

theorem Order.dependsOn_congr (hsame : ∀ name, declarations.get? name = others.get? name) :
    DependsOn declarations = DependsOn others := by
  funext name dep
  simp only [DependsOn, OrderedMap.mem_keys_iff, hsame]

theorem Order.exists_establish_iff (hfree : EnumFree declarations) :
    (∃ order, establish declarations = .ok order) ↔
      ¬ ∃ name, TransGen (DependsOn declarations) name name := by
  rw [← rounds_error_iff hfree, ← not_iff_not, ← exists_error_iff, not_not]
  simp only [establish_eq_error_iff]
  constructor
  · rintro ⟨_, left, hleft, _⟩
    exact ⟨left, hleft⟩
  · rintro ⟨left, hleft⟩
    exact ⟨_, left, hleft, rfl⟩

end

theorem Scope.qualified_congr {scope other : Scope}
    (hresolve : ∀ name, scope.resolve? name = other.resolve? name) :
    scope.qualified = other.qualified := by
  funext written
  rw [qualified, qualified, hresolve]

/-- A declaration resolves in the same way where its file has the same content and names stand for
the same. -/
theorem Resolved.declaration_congr {scope other : Scope}
    (hscope : scope.file.scopePath = other.file.scopePath)
    (hfind : ∀ name, scope.file.find? name = other.file.find? name)
    (hresolve : ∀ name, scope.resolve? name = other.resolve? name) (name : String) :
    declaration scope name = declaration other name := by
  have hqualified := Scope.qualified_congr hresolve
  have hfield : field scope = field other := by
    funext f
    rw [field, field, hresolve]
  simp only [declaration, hscope, hfind, hqualified, hfield]

/-! ## Compiled sessions -/

namespace Compiled

/-- Two files of compiled sessions that differ in the order of lists only. -/
structure File.Alike (file other : File) : Prop where
  path : file.path = other.path
  scopePath : file.scopePath = other.scopePath
  includes : file.includes.Perm other.includes
  rootTypes : file.rootTypes.Perm other.rootTypes
  fileIdentifier : file.fileIdentifier = other.fileIdentifier
  fileExtension : file.fileExtension = other.fileExtension
  order : file.order.Perm other.order

/-- Two compiled sessions that differ in the order of lists only. -/
structure Alike (compiled other : Compiled) : Prop where
  unionDiscriminant : compiled.unionDiscriminant = other.unionDiscriminant
  types : ∀ name, compiled.get? name = other.get? name
  order : compiled.order.Perm other.order
  files : Rearranged File.Alike compiled.files other.files

theorem fileOf_eq_ok_iff {session : Session} {order : List TypeName} {path : String}
    {file : SymbolTable} {result : File} :
    fileOf session order path file = .ok result ↔ ∃ roots,
      file.rootTypes.mapM (Scope.qualified ⟨session, file⟩) = .ok roots ∧
        result = ⟨path, file.scopePath, file.includes, roots, file.fileIdentifier,
          file.fileExtension, order.filter (Rules.ownNames file).contains⟩ := by
  rw [fileOf, bind_eq_ok_iff]
  refine exists_congr fun roots => and_congr_right fun _ => ?_
  constructor
  · intro hresult
    exact (Except.ok.inj hresult).symm
  · rintro rfl
    rfl

end Compiled

namespace Session

variable {session other : Session} {settings : CompilerSettings} {compiled compiled' : Compiled}

namespace Alike

variable (h : session.Alike other) {declarations others : OrderedMap TypeName Declaration}

include h

theorem get?_of_get? (hs : session.Resolves declarations) (ho : other.Resolves others)
    {name : TypeName} {d : Declaration} (hd : declarations.get? name = some d) :
    others.get? name = some d := by
  obtain ⟨file, hfile, own, declared, rfl, hfind, hdeclaration⟩ := hs.get?_iff.mp hd
  obtain ⟨file', hfile', halike⟩ := h.exists_mem hfile
  have hsame := halike.find?_eq (h.built file hfile) (h.built_other file' hfile')
  refine ho.get?_iff.mpr ⟨file', hfile', own, declared, ?_, hsame own ▸ hfind, ?_⟩
  · rw [halike.scopePath]
  · rw [← hdeclaration]
    exact (Resolved.declaration_congr halike.scopePath hsame
      (h.resolve?_eq hs.verified.unique hfile hfile' halike) own).symm

/-- Names have the same declarations in sessions that are alike. -/
theorem get?_eq (hs : session.Resolves declarations) (ho : other.Resolves others)
    (name : TypeName) : declarations.get? name = others.get? name := by
  ext d
  exact ⟨h.get?_of_get? hs ho, h.symm.get?_of_get? ho hs⟩

/-- One session compiles if the other does. -/
theorem exists_compile (hcompile : session.compile settings = .ok compiled) :
    ∃ compiled', other.compile settings = .ok compiled' := by
  obtain ⟨declarations, hs⟩ := compiles_of_compile h.built hcompile
  have hrules := h.rules hs.rules
  have hlisted : ∀ file ∈ other.files.values, file.Listed := fun file hfile =>
    (h.built_other file hfile).listed
  have hverified := Rules.verified_of_rules hrules
  obtain ⟨others, hothers⟩ := exists_declarations_of_verified hlisted hverified
  have ho : other.Resolves others := ⟨hlisted, hverified, hothers⟩
  have hacyclic := (exists_establish_iff hs.resolves.enumFree).mp ⟨_, hs.order⟩
  rw [dependsOn_congr (h.get?_eq hs.resolves ho)] at hacyclic
  obtain ⟨order, horder⟩ := (exists_establish_iff ho.enumFree).mpr hacyclic
  obtain ⟨_, _, _, _, _, _, hresult⟩ := ho.exists_stages hs.discriminant hrules horder
  exact ⟨_, hresult⟩

theorem get?_of_compiles (hs : session.Compiles settings declarations compiled)
    (ho : other.Compiles settings others compiled') {name : TypeName} {entry : Compiled.TypeEntry}
    (hentry : compiled.get? name = some entry) : compiled'.get? name = some entry := by
  obtain ⟨hd, hlayout⟩ := (hs.get?_iff name entry).mp hentry
  have hsame := h.get?_eq hs.resolves ho.resolves
  have hdiscriminant := Except.ok.inj (hs.discriminant.symm.trans ho.discriminant)
  rw [funext hsame, hdiscriminant] at hlayout
  exact (ho.get?_iff name entry).mpr ⟨hsame name ▸ hd, hlayout⟩

theorem perm_order (hs : session.Compiles settings declarations compiled)
    (ho : other.Compiles settings others compiled') : compiled.order.Perm compiled'.order := by
  have hkeys : declarations.keys.Perm others.keys := by
    refine (List.perm_ext_iff_of_nodup declarations.nodup others.nodup).mpr fun name => ?_
    change name ∈ declarations.keys ↔ name ∈ others.keys
    simp only [OrderedMap.mem_keys_iff, h.get?_eq hs.resolves ho.resolves]
  exact (hs.resolves.perm_order hs.order).trans
    (hkeys.trans (ho.resolves.perm_order ho.order).symm)

theorem files_alike (hs : session.Compiles settings declarations compiled)
    (ho : other.Compiles settings others compiled') :
    Rearranged Compiled.File.Alike compiled.files compiled'.files := by
  refine h.files.with_mem.results ?_ (mapM_eq_ok_iff.mp hs.files) (mapM_eq_ok_iff.mp ho.files)
  rintro ⟨path, file⟩ ⟨_, file'⟩ result result' ⟨⟨rfl, halike⟩, hentry, hentry'⟩ hresult hresult'
  have hfile : file ∈ session.files.values := List.mem_map.mpr ⟨_, hentry, rfl⟩
  have hfile' : file' ∈ other.files.values := List.mem_map.mpr ⟨_, hentry', rfl⟩
  have hqualified := Scope.qualified_congr
    (h.resolve?_eq hs.resolves.verified.unique hfile hfile' halike)
  obtain ⟨roots, hroots, rfl⟩ := Compiled.fileOf_eq_ok_iff.mp hresult
  obtain ⟨roots', hroots', rfl⟩ := Compiled.fileOf_eq_ok_iff.mp hresult'
  constructor
  · rfl
  · exact halike.scopePath
  · exact halike.includes
  · exact perm_of_mapM halike.rootTypes hroots (hqualified ▸ hroots')
  · exact halike.fileIdentifier
  · exact halike.fileExtension
  · have hown : (Rules.ownNames file).Perm (Rules.ownNames file') := by
      rw [Rules.ownNames, Rules.ownNames, halike.scopePath]
      exact halike.declarationOrder.map _
    have hcontains : (Rules.ownNames file).contains = (Rules.ownNames file').contains := by
      funext name
      rw [Bool.eq_iff_iff, List.contains_iff_mem, List.contains_iff_mem, hown.mem_iff]
    change (compiled.order.filter _).Perm (compiled'.order.filter _)
    rw [hcontains]
    exact (h.perm_order hs ho).filter _

/-- Compiled sessions are alike if the sessions are. -/
theorem compiled_alike (hcompile : session.compile settings = .ok compiled)
    (hcompile' : other.compile settings = .ok compiled') : compiled.Alike compiled' := by
  obtain ⟨declarations, hs⟩ := compiles_of_compile h.built hcompile
  obtain ⟨others, ho⟩ := compiles_of_compile h.built_other hcompile'
  constructor
  · exact Except.ok.inj (hs.discriminant.symm.trans ho.discriminant)
  · intro name
    ext entry
    exact ⟨h.get?_of_compiles hs ho, h.symm.get?_of_compiles ho hs⟩
  · exact h.perm_order hs ho
  · exact h.files_alike hs ho

end Alike

/-! ## Schemas in any order -/

/-- Builds and registers schemas, then compiles the session. -/
def compileSchemas (schemas : List (String × Source.Schema)) (settings : CompilerSettings) :
    Except Error Compiled := do
  let session ← registerSchemas schemas
  session.compile settings

/-- The same files in any order, each with the same declarations in any order. -/
def SameSchemas : List (String × Source.Schema) → List (String × Source.Schema) → Prop :=
  Rearranged fun item item' => item.1 = item'.1 ∧ item.2.Perm item'.2

theorem SameSchemas.symm {schemas rearranged : List (String × Source.Schema)}
    (h : SameSchemas schemas rearranged) : SameSchemas rearranged schemas :=
  Rearranged.symm (fun _ _ hitem => ⟨hitem.1.symm, hitem.2.symm⟩) h

theorem exists_compileSchemas {schemas rearranged : List (String × Source.Schema)}
    (h : SameSchemas schemas rearranged) (hcompile : compileSchemas schemas settings = .ok compiled) :
    ∃ compiled', compileSchemas rearranged settings = .ok compiled' ∧ compiled.Alike compiled' := by
  obtain ⟨session, hregister, hsession⟩ := bind_eq_ok_iff.mp hcompile
  obtain ⟨other, hother, halike⟩ := exists_registerSchemas_of_rearranged h hregister
  obtain ⟨compiled', hcompiled'⟩ := halike.exists_compile hsession
  exact ⟨compiled', bind_eq_ok_iff.mpr ⟨other, hother, hcompiled'⟩,
    halike.compiled_alike hsession hcompiled'⟩

/-- **Order.** The order of files and of their declarations decides neither whether schemas compile nor
what any name is compiled to. -/
theorem compileSchemas_rearranged {schemas rearranged : List (String × Source.Schema)}
    (h : SameSchemas schemas rearranged) (settings : CompilerSettings) :
    ((∃ compiled, compileSchemas schemas settings = .ok compiled) ↔
      ∃ compiled, compileSchemas rearranged settings = .ok compiled) ∧
    ∀ compiled compiled', compileSchemas schemas settings = .ok compiled →
      compileSchemas rearranged settings = .ok compiled' → compiled.Alike compiled' := by
  refine ⟨⟨?_, ?_⟩, ?_⟩
  · rintro ⟨compiled, hcompile⟩
    obtain ⟨compiled', hcompile', _⟩ := exists_compileSchemas h hcompile
    exact ⟨compiled', hcompile'⟩
  · rintro ⟨compiled, hcompile⟩
    obtain ⟨compiled', hcompile', _⟩ := exists_compileSchemas h.symm hcompile
    exact ⟨compiled', hcompile'⟩
  · intro compiled compiled' hcompile hcompile'
    obtain ⟨other, hother, halike⟩ := exists_compileSchemas h hcompile
    cases hother.symm.trans hcompile'
    exact halike

/-- A table in one file with a root and a field that leads to the enum of the other. -/
def harborSchemas : List (String × Source.Schema) :=
  [("ship", [.inNamespace ["n"], .rootType "S", .union ⟨"U", [], [⟨"S", none, ⟨1, 9⟩⟩], ⟨1, 7⟩⟩,
      .table ⟨"S", [], [⟨"f", "F", false, some (.ident "R"), [], ⟨2, 11⟩⟩], ⟨2, 7⟩⟩]),
   ("flag", [.inNamespace ["n"], .enum ⟨"F", "ubyte", [], [⟨"R", none, ⟨1, 17⟩⟩], ⟨1, 6⟩⟩,
      .enum ⟨"G", "byte", [], [⟨"R", none, ⟨2, 16⟩⟩], ⟨2, 6⟩⟩])]

def harborReversed : List (String × Source.Schema) :=
  harborSchemas.reverse.map fun item => (item.1, item.2.reverse)

theorem sameSchemas_harborReversed : SameSchemas harborSchemas harborReversed := by
  refine ⟨harborSchemas.reverse, (List.reverse_perm _).symm, ?_⟩
  rw [harborReversed, List.forall₂_map_right_iff, List.forall₂_same]
  exact fun item _ => ⟨rfl, (List.reverse_perm item.2).symm⟩

theorem compileSchemas_harborReversed :
    SameSchemas harborSchemas harborReversed ∧ ∃ compiled compiled',
      compileSchemas harborSchemas {} = .ok compiled ∧
      compileSchemas harborReversed {} = .ok compiled' ∧
      compiled.order ≠ compiled'.order ∧ compiled.Alike compiled' := by
  obtain ⟨hsome, hsome', hne⟩ : (compileSchemas harborSchemas {}).toOption.isSome ∧
      (compileSchemas harborReversed {}).toOption.isSome ∧
      (compileSchemas harborSchemas {}).toOption.map (·.order) ≠
        (compileSchemas harborReversed {}).toOption.map (·.order) := by decide +kernel
  obtain ⟨compiled, hcompiled⟩ := Option.isSome_iff_exists.mp hsome
  obtain ⟨compiled', hcompiled'⟩ := Option.isSome_iff_exists.mp hsome'
  rw [hcompiled, hcompiled'] at hne
  refine ⟨sameSchemas_harborReversed, compiled, compiled', eq_ok_of_toOption hcompiled,
    eq_ok_of_toOption hcompiled', fun heq => hne (by simp [heq]), ?_⟩
  exact (compileSchemas_rearranged sameSchemas_harborReversed {}).2 _ _
    (eq_ok_of_toOption hcompiled) (eq_ok_of_toOption hcompiled')

end Session

end WireSchema
