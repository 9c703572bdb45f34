/-
WireSchema.Proofs.Code.Emission — compiled files have code, unless variants of a union share a name.

Two tables decide about defaults: the rules of a session say which literals a type takes, and
`Code.defaultValue?` says which can be written. They agree (`Code.exists_defaultValue?`), so every default
of a compiled field is written. What remains are unions whose variants have no names of their own
(`Resolved.Union.DistinctVariants`), the one reason why a compiled file has no code.

Main statement: `Session.text_ok_iff_distinctVariants`.
-/
import WireSchema.Code.Render
import WireSchema.Proofs.Compiled.Files

namespace WireSchema

open WireSchema.Outcome
open WireSchema.Resolved (Declaration)

/-! ## Variants -/

/-- Every variant of a union has a name of its own, also next to the one for no member. -/
def Resolved.Union.DistinctVariants (u : Resolved.Union) : Prop :=
  (Code.noMember :: Code.chosenVariants u.members).Nodup

namespace Code

theorem length_chosenVariants (members : List TypeName) :
    (chosenVariants members).length = members.length := by
  simp [chosenVariants]

/-- Nothing clashes where the names are distinct and none was taken before. -/
theorem clash?_eq_none_iff {taken : List String} {pairs : List (TypeName × String)} :
    clash? taken pairs = none ↔
      (pairs.map (·.2)).Nodup ∧
        ∀ variant ∈ pairs.map (·.2), variant ≠ noMember ∧ variant ∉ taken := by
  induction pairs generalizing taken with
  | nil => simp [clash?]
  | cons pair rest ih =>
    obtain ⟨member, variant⟩ := pair
    simp only [clash?, List.map_cons, List.nodup_cons, List.forall_mem_cons]
    by_cases hnew : variant ≠ noMember ∧ variant ∉ taken
    · -- The name is taken from here on: what the rest avoids is what keeps the names distinct.
      rw [if_neg (by simpa using hnew), ih]
      simp only [List.mem_cons, not_or]
      constructor
      · rintro ⟨hnodup, havoid⟩
        exact ⟨⟨fun hmem => (havoid variant hmem).2.1 rfl, hnodup⟩, hnew,
          fun other hother => ⟨(havoid other hother).1, (havoid other hother).2.2⟩⟩
      · rintro ⟨⟨hfresh, hnodup⟩, _, havoid⟩
        refine ⟨hnodup, fun other hother => ⟨(havoid other hother).1, ?_, (havoid other hother).2⟩⟩
        rintro rfl
        exact hfresh hother
    · have htaken : (variant == noMember || taken.contains variant) = true := by
        by_contra hfree
        exact hnew (by simpa using hfree)
      rw [if_pos htaken]
      simp [hnew]

theorem mem_of_clash? {taken : List String} {pairs : List (TypeName × String)} {member : TypeName}
    (h : clash? taken pairs = some member) : member ∈ pairs.map (·.1) := by
  induction pairs generalizing taken with
  | nil => cases h
  | cons pair rest ih =>
    rw [clash?] at h
    split at h
    · cases h
      exact List.mem_cons_self
    · exact List.mem_cons_of_mem _ (ih h)

theorem distinctVariants_iff {u : Resolved.Union} :
    u.DistinctVariants ↔ clash? [] (u.members.zip (chosenVariants u.members)) = none := by
  rw [clash?_eq_none_iff, List.map_snd_zip (length_chosenVariants u.members).le,
    Resolved.Union.DistinctVariants, List.nodup_cons, and_comm]
  refine and_congr_right fun _ => ?_
  constructor
  · intro hnone variant hvariant
    exact ⟨fun heq => hnone (heq ▸ hvariant), List.not_mem_nil⟩
  · intro havoid hmem
    exact (havoid noMember hmem).1 rfl

theorem unionVariants_eq_ok_iff {u : Resolved.Union} {variants : List String} :
    unionVariants u = .ok variants ↔ u.DistinctVariants ∧ variants = chosenVariants u.members := by
  rw [distinctVariants_iff, unionVariants]
  cases clash? [] (u.members.zip (chosenVariants u.members)) <;> simp [eq_comm]

theorem clash_of_unionVariants {u : Resolved.Union} {error : Error}
    (h : unionVariants u = .error error) :
    ¬ u.DistinctVariants ∧ ∃ member ∈ u.members, error = .variantClash u.name member := by
  rw [unionVariants] at h
  rw [distinctVariants_iff]
  cases hclash : clash? [] (u.members.zip (chosenVariants u.members)) with
  | none => simp [hclash] at h
  | some member =>
    simp only [hclash, Except.error.injEq] at h
    have hmem := mem_of_clash? hclash
    rw [List.map_fst_zip (length_chosenVariants u.members).ge] at hmem
    exact ⟨by simp, member, hmem, h.symm⟩

/-! ## Defaults -/

/-- The default of a field, if it has one, can be written. -/
def RendersDefault (f : Resolved.Field) (scopePath : List String) : Prop :=
  ∀ literal, f.default = some literal → ∃ value, defaultValue? f literal scopePath = some value

/-- A literal that a type takes as default can be written. -/
theorem exists_defaultValue? {f : Resolved.Field} {declared : Symbol.Declared} {literal : Literal}
    (hkind : f.type.kind = .ofDeclared declared) (hdefault : declared.TakesDefault literal)
    (scopePath : List String) : ∃ value, defaultValue? f literal scopePath = some value := by
  rcases hdefault with ⟨e, constant, rfl, rfl, _⟩ | ⟨p, rfl, hadmitted⟩
  · exact ⟨_, by rw [defaultValue?, hkind]; rfl⟩
  · simp only [defaultValue?, hkind, Resolved.TypeKind.ofDeclared]
    cases hadmitted with
    | bool value hclass => exact ⟨_, by rw [hclass]⟩
    | integer n hclass hrange => rcases hclass with hclass | hclass <;> exact ⟨_, by rw [hclass]⟩
    | whole n hclass => exact ⟨_, by rw [hclass]⟩
    | float x hclass hfinite => exact ⟨_, by rw [hclass]⟩
    | special name hclass hname => exact ⟨_, by rw [hclass]⟩
    | string text hclass => exact ⟨_, by rw [hclass]⟩

theorem exists_initials (wrap : Value → Initial) {scopePath : List String}
    {fields : List Resolved.Field} (h : ∀ f ∈ fields, RendersDefault f scopePath) :
    ∃ result, initials wrap scopePath fields = .ok result := by
  have hall : ∃ values, fields.mapM (initial wrap scopePath) = .ok values := by
    rw [exists_mapM_eq_ok_iff]
    intro f hf
    unfold initial
    cases hdefault : f.default with
    | none => exact ⟨_, rfl⟩
    | some literal =>
      obtain ⟨value, hvalue⟩ := h f hf literal hdefault
      exact ⟨(fieldIdent f.name, wrap value), by simp only [hvalue]⟩
  obtain ⟨values, hvalues⟩ := hall
  unfold initials
  split
  · exact ⟨some values, map_eq_ok_iff.mpr ⟨values, hvalues, rfl⟩⟩
  · exact ⟨none, rfl⟩

theorem mem_fields_of_mem_liveFields {t : Resolved.Compound} {f : Resolved.Field}
    (h : f ∈ (liveFields t).map (·.2)) : f ∈ t.fields := by
  obtain ⟨⟨index, _⟩, hlive, rfl⟩ := List.mem_map.mp h
  obtain ⟨⟨g, i⟩, hg, heq⟩ := List.mem_map.mp (List.mem_filter.mp hlive).1
  cases heq
  exact List.fst_mem_of_mem_zipIdx hg

/-! ## Items -/

section Item

variable {entry : Compiled.TypeEntry} {scopePath : List String} {discriminant : Primitive}
  {settings : CodeSettings}

/-- An item whose defaults can be written is missing only where variants clash. -/
theorem clash_of_item (hfields : ∀ f ∈ entry.declaration.fields, RendersDefault f scopePath)
    {error : Error} (h : item entry scopePath discriminant settings = .error error) :
    ∃ u, entry.declaration = .union u ∧ ¬ u.DistinctVariants ∧
      ∃ member ∈ u.members, error = .variantClash u.name member := by
  obtain ⟨declaration, layout⟩ := entry
  cases declaration with
  | enum e => cases h
  | union u =>
    rcases bind_eq_error_iff.mp (map_eq_error_iff.mp h) with hvariants | ⟨_, _, hpure⟩
    · exact ⟨u, rfl, clash_of_unionVariants hvariants⟩
    · cases hpure
  | struct s =>
    obtain ⟨values, hvalues⟩ := exists_initials .plain hfields
    rcases bind_eq_error_iff.mp (map_eq_error_iff.mp h) with hinitials | ⟨_, _, hpure⟩
    · cases hvalues.symm.trans hinitials
    · cases hpure
  | table t =>
    obtain ⟨values, hvalues⟩ := exists_initials .present fun f hf =>
      hfields f (mem_fields_of_mem_liveFields hf)
    rcases bind_eq_error_iff.mp (map_eq_error_iff.mp h) with hinitials | ⟨_, _, hpure⟩
    · cases hvalues.symm.trans hinitials
    · cases hpure

/-- How the item of a declaration shows its names and its fields. -/
inductive Shows (scopePath : List String) (settings : CodeSettings) : Declaration → Item → Prop
  | enum (e : Resolved.Enum) : Shows scopePath settings (.enum e) (.enum (enumItem e settings))
  | union {u : Resolved.Union} {i : UnionItem} (hdistinct : u.DistinctVariants)
      (hident : i.ident = typeIdent u.name.name)
      (hvariants : i.variants =
        (chosenVariants u.members).zip (u.members.map fun member => typePath member scopePath)) :
      Shows scopePath settings (.union u) (.union i)
  | struct {s : Resolved.Compound} {i : StructItem} (hident : i.ident = typeIdent s.name.name)
      (hfields : i.fields = s.fields.map fun f => ⟨fieldIdent f.name, .plain, baseType f scopePath⟩)
      (hinitials : initials .plain scopePath s.fields = .ok i.initials) :
      Shows scopePath settings (.struct s) (.struct i)
  | table {t : Resolved.Compound} {i : TableItem} (hident : i.ident = typeIdent t.name.name)
      (hfields : i.fields = ((liveFields t).map (·.2)).map fun f =>
        ⟨fieldIdent f.name, tableHolder f, baseType f scopePath⟩)
      (hinitials : initials .present scopePath ((liveFields t).map (·.2)) = .ok i.initials) :
      Shows scopePath settings (.table t) (.table i)

theorem shows_of_item {i : Item} (h : item entry scopePath discriminant settings = .ok i) :
    Shows scopePath settings entry.declaration i := by
  obtain ⟨declaration, layout⟩ := entry
  cases declaration with
  | enum e =>
    cases h
    exact .enum e
  | union u =>
    obtain ⟨_, hitem, rfl⟩ := map_eq_ok_iff.mp h
    obtain ⟨variants, hvariants, heq⟩ := bind_eq_ok_iff.mp hitem
    obtain ⟨hdistinct, rfl⟩ := unionVariants_eq_ok_iff.mp hvariants
    cases heq
    exact .union hdistinct rfl rfl
  | struct s =>
    obtain ⟨_, hitem, rfl⟩ := map_eq_ok_iff.mp h
    obtain ⟨values, hvalues, heq⟩ := bind_eq_ok_iff.mp hitem
    cases heq
    exact .struct rfl rfl hvalues
  | table t =>
    obtain ⟨_, hitem, rfl⟩ := map_eq_ok_iff.mp h
    obtain ⟨values, hvalues, heq⟩ := bind_eq_ok_iff.mp hitem
    cases heq
    exact .table rfl rfl hvalues

end Item

/-! ## Files -/

section File

variable {compiled : Compiled} {path : String} {file : Compiled.File}

/-- The item of a name in the order of a file. -/
def namedItem (compiled : Compiled) (scopePath : List String) (settings : CodeSettings)
    (name : TypeName) : Except Error Item :=
  match compiled.get? name with
  | none => .error (.internal (.neverCompiled name))
  | some entry => item entry scopePath compiled.unionDiscriminant settings

theorem namedItem_of_get? {name : TypeName} {entry : Compiled.TypeEntry}
    (h : compiled.get? name = some entry) (scopePath : List String) (settings : CodeSettings) :
    namedItem compiled scopePath settings name =
      item entry scopePath compiled.unionDiscriminant settings := by
  rw [namedItem, h]

theorem exists_entry_of_namedItem {scopePath : List String} {settings : CodeSettings}
    {name : TypeName} {i : Item} (h : namedItem compiled scopePath settings name = .ok i) :
    ∃ entry, compiled.get? name = some entry ∧
      item entry scopePath compiled.unionDiscriminant settings = .ok i := by
  cases hentry : compiled.get? name with
  | none =>
    rw [namedItem, hentry] at h
    cases h
  | some entry =>
    rw [namedItem_of_get? hentry] at h
    exact ⟨entry, rfl, h⟩

theorem ofCompiled_eq_bind (h : compiled.file? path = some file) (settings : CodeSettings) :
    SourceFile.ofCompiled compiled path settings =
      file.order.mapM (namedItem compiled file.scopePath settings) >>= fun items =>
        .ok ⟨path, file.scopePath.map moduleIdent, settings.deriveSerialize, file.fileIdentifier,
          file.fileExtension, items⟩ := by
  simp only [SourceFile.ofCompiled, h]
  rfl

/-- A file has code when each name in its order has an item. -/
theorem exists_text_iff (h : compiled.file? path = some file) (settings : CodeSettings) :
    (∃ code, text compiled path settings = .ok code) ↔
      ∀ name ∈ file.order, ∃ i, namedItem compiled file.scopePath settings name = .ok i := by
  rw [← exists_mapM_eq_ok_iff, text, ofCompiled_eq_bind h]
  cases file.order.mapM (namedItem compiled file.scopePath settings) <;>
    simp [bind, Except.bind, Functor.map, Except.map]

/-- A file without code has a name without item. -/
theorem exists_of_text_eq_error (h : compiled.file? path = some file) {settings : CodeSettings}
    {error : Error} (herror : text compiled path settings = .error error) :
    ∃ name ∈ file.order, namedItem compiled file.scopePath settings name = .error error := by
  rw [text, map_eq_error_iff, ofCompiled_eq_bind h, bind_eq_error_iff] at herror
  rcases herror with hitems | ⟨_, _, hpure⟩
  · exact exists_of_mapM_eq_error hitems
  · cases hpure

end File

end Code

/-- A file declares a union, and this is what it compiles to. -/
def Compiled.HasUnion (compiled : Compiled) (file : SymbolTable) (u : Resolved.Union) : Prop :=
  ∃ name written layout, file.Holds name (.union written) ∧
    compiled.get? ⟨file.scopePath, name⟩ = some ⟨.union u, layout⟩

namespace Session

variable {session : Session} {settings : CompilerSettings} {compiled : Compiled}
  {declarations : OrderedMap TypeName Declaration}

namespace Compiles

variable (h : session.Compiles settings declarations compiled)

include h

/-- Every field of an entry is written in a file, with a type that takes its default. -/
theorem exists_declared_of_mem_fields {key : TypeName} {entry : Compiled.TypeEntry}
    (hentry : compiled.get? key = some entry) {f : Resolved.Field}
    (hf : f ∈ entry.declaration.fields) :
    ∃ file ∈ session.files.values, ∃ written declared,
      Scope.resolve? ⟨session, file⟩ written = some (f.type.name, declared) ∧
      f.type.kind = .ofDeclared declared ∧
      ∀ literal, f.default = some literal → declared.TakesDefault literal := by
  obtain ⟨file, hfile, own, _, hfind, hmirrors⟩ := h.exists_source hentry
  obtain ⟨_, _, hwell⟩ := (Rules.session_eq_ok_iff.mp h.rules).2 file hfile
  obtain ⟨owner, written, hwritten, hsame⟩ := Resolved.exists_hasField_of_mirrors hmirrors hfind hf
  obtain ⟨declared, hresolve, hkind⟩ := hsame.type
  obtain ⟨target, other, hother, hadmits⟩ := hwell.fields owner written hwritten
  cases hresolve.symm.trans hother
  refine ⟨file, hfile, written.typeName, declared, hresolve, hkind, fun literal hliteral => ?_⟩
  exact (hadmits.default literal (hsame.default ▸ hliteral)).2

theorem rendersDefault {key : TypeName} {entry : Compiled.TypeEntry}
    (hentry : compiled.get? key = some entry) {f : Resolved.Field}
    (hf : f ∈ entry.declaration.fields) (scopePath : List String) :
    Code.RendersDefault f scopePath := by
  obtain ⟨_, _, _, declared, _, hkind, htakes⟩ := h.exists_declared_of_mem_fields hentry hf
  intro literal hliteral
  exact Code.exists_defaultValue? hkind (htakes literal hliteral) scopePath

section File

variable (hbuilt : ∀ file ∈ session.files.values, file.Built) {path : String} {file : SymbolTable}
  (hfile : session.file? path = some file) {result : Compiled.File}
  (hresult : Compiled.fileOf session compiled.order path file = .ok result)

include hbuilt hfile hresult

theorem hasUnion_iff {u : Resolved.Union} : compiled.HasUnion file u ↔
    ∃ name ∈ result.order, ∃ layout, compiled.get? name = some ⟨.union u, layout⟩ := by
  constructor
  · rintro ⟨name, written, layout, hholds, hget⟩
    exact ⟨_, (h.mem_order_iff hbuilt hfile hresult).mpr ⟨rfl, _, hholds⟩, layout, hget⟩
  · rintro ⟨name, hname, layout, hget⟩
    have hmem : file ∈ session.files.values := OrderedMap.mem_values_iff.mpr ⟨path, hfile⟩
    obtain ⟨hpath, declared, hholds⟩ := (h.mem_order_iff hbuilt hfile hresult).mp hname
    obtain ⟨entry, hentry, hmirrors⟩ :=
      h.exists_mirror hmem ((hbuilt file hmem).find?_eq_some_iff.mpr hholds)
    have hsame : compiled.get? ⟨file.scopePath, name.name⟩ = some ⟨.union u, layout⟩ := by
      rw [hpath]
      exact hget
    cases hsame.symm.trans hentry
    cases hmirrors with
    | union hmembers => exact ⟨name.name, _, layout, hholds, hsame⟩

/-- A name in the order of a file lacks an item only if it is a union whose variants clash. -/
theorem clash_of_namedItem {name : TypeName} (hname : name ∈ result.order)
    {scopePath : List String} {codeSettings : CodeSettings} {error : Error}
    (herror : Code.namedItem compiled scopePath codeSettings name = .error error) :
    ∃ u, compiled.HasUnion file u ∧ ¬ u.DistinctVariants ∧
      ∃ member ∈ u.members, error = .variantClash u.name member := by
  obtain ⟨entry, hentry⟩ := h.exists_entry_of_mem_order hresult hname
  rw [Code.namedItem_of_get? hentry] at herror
  obtain ⟨u, hu, hclash⟩ :=
    Code.clash_of_item (fun f hf => h.rendersDefault hentry hf scopePath) herror
  refine ⟨u, (h.hasUnion_iff hbuilt hfile hresult).mpr ⟨name, hname, entry.layout, ?_⟩, hclash⟩
  rw [hentry, ← hu]

theorem distinctVariants_of_namedItem {scopePath : List String} {codeSettings : CodeSettings}
    (hitems : ∀ name ∈ result.order, ∃ i,
      Code.namedItem compiled scopePath codeSettings name = .ok i)
    {u : Resolved.Union} (hu : compiled.HasUnion file u) : u.DistinctVariants := by
  obtain ⟨name, hname, layout, hget⟩ := (h.hasUnion_iff hbuilt hfile hresult).mp hu
  obtain ⟨i, hi⟩ := hitems name hname
  rw [Code.namedItem_of_get? hget] at hi
  cases Code.shows_of_item hi with
  | union hdistinct => exact hdistinct

end File

end Compiles

/-- **Emission.** A file of a compiled session of registered texts has code exactly when all variants
of its unions have names of their own. Otherwise the error is an invalid value and names such a union
with one of its members: each name in the file's order has an entry, and each default can be written. -/
theorem text_ok_iff_distinctVariants {texts : List (String × String)}
    (hregister : registerTexts {} texts = .ok session)
    (hcompile : session.compile settings = .ok compiled) {path : String} {file : SymbolTable}
    (hfile : session.file? path = some file) (codeSettings : CodeSettings) :
    ((∃ code, Code.text compiled path codeSettings = .ok code) ↔
      ∀ u, compiled.HasUnion file u → u.DistinctVariants) ∧
    (∀ error, Code.text compiled path codeSettings = .error error →
      error.kind = .value ∧ ∃ u, compiled.HasUnion file u ∧ ¬ u.DistinctVariants ∧
        ∃ member ∈ u.members, error = .variantClash u.name member) ∧
    ∃ result, compiled.file? path = some result ∧
      ∀ name ∈ result.order, ∃ entry, compiled.get? name = some entry ∧
        ∀ f ∈ entry.declaration.fields, Code.RendersDefault f result.scopePath := by
  have hbuilt := built_of_registerTexts hregister
  obtain ⟨declarations, h⟩ := compiles_of_compile hbuilt hcompile
  obtain ⟨result, hfound, hresult⟩ := h.exists_file? hfile
  refine ⟨?_, ?_, result, hfound, ?_⟩
  · rw [Code.exists_text_iff hfound]
    constructor
    · intro hitems u hu
      exact h.distinctVariants_of_namedItem hbuilt hfile hresult hitems hu
    · intro hdistinct name hname
      by_contra hnone
      obtain ⟨error, herror⟩ := exists_error_iff.mpr hnone
      obtain ⟨u, hu, hclash, _⟩ := h.clash_of_namedItem hbuilt hfile hresult hname herror
      exact hclash (hdistinct u hu)
  · intro error herror
    obtain ⟨name, hname, hitem⟩ := Code.exists_of_text_eq_error hfound herror
    obtain ⟨u, hu, hclash, member, hmember, rfl⟩ :=
      h.clash_of_namedItem hbuilt hfile hresult hname hitem
    exact ⟨rfl, u, hu, hclash, member, hmember, rfl⟩
  · intro name hname
    obtain ⟨entry, hentry⟩ := h.exists_entry_of_mem_order hresult hname
    exact ⟨entry, hentry, fun f hf => h.rendersDefault hentry hf _⟩

/-- Defaults of every class in one file; in another, two members of a union that become one name. -/
def quayTexts : List (String × String) :=
  [("quay", "namespace a; enum E: ubyte { R } union U { T }
      table T \x7b e: E = R; b: bool = true; n: int = 3; x: double = inf; s: string = \"q\"; \x7d"),
   ("shed", "namespace b; table Crane {} table crane {} union V { Crane, crane }")]

def quaySession : Session :=
  ((registerTexts {} quayTexts).toOption).getD {}

/-- Whether a file has code. -/
def emits (compiled : Compiled) (path : String) : Bool :=
  (Code.text compiled path {}).toOption.isSome

theorem quay_emits_shed_clashes :
    registerTexts {} quayTexts = .ok quaySession ∧ ∃ compiled quay shed,
      quaySession.compile {} = .ok compiled ∧
      quaySession.file? "quay" = some quay ∧ quaySession.file? "shed" = some shed ∧
      (∀ u, compiled.HasUnion quay u → u.DistinctVariants) ∧
      ∃ u member, compiled.HasUnion shed u ∧ ¬ u.DistinctVariants ∧
        Code.text compiled "shed" {} = .error (.variantClash u.name member) := by
  obtain ⟨hregisters, hquay, hshed, hcompiles⟩ :
      (registerTexts {} quayTexts).toOption.isSome = true ∧
      (quaySession.file? "quay").isSome = true ∧ (quaySession.file? "shed").isSome = true ∧
      ((quaySession.compile {}).toOption.map fun compiled =>
        (emits compiled "quay", emits compiled "shed")) = some (true, false) := by decide +kernel
  have hregister : registerTexts {} quayTexts = .ok quaySession := eq_ok_getD hregisters
  obtain ⟨compiled, hcompiled, hemits⟩ := Option.map_eq_some_iff.mp hcompiles
  obtain ⟨quay, hquay⟩ := Option.isSome_iff_exists.mp hquay
  obtain ⟨shed, hshed⟩ := Option.isSome_iff_exists.mp hshed
  have hcompile := eq_ok_of_toOption hcompiled
  refine ⟨hregister, compiled, quay, shed, hcompile, hquay, hshed, ?_, ?_⟩
  · have hok := eq_ok_getD (a := "") (Prod.mk.inj hemits).1
    exact (text_ok_iff_distinctVariants hregister hcompile hquay {}).1.mp ⟨_, hok⟩
  · cases herror : Code.text compiled "shed" {} with
    | ok code => simp [emits, herror, Except.toOption] at hemits
    | error error =>
      obtain ⟨_, u, hu, hclash, member, _, rfl⟩ :=
        (text_ok_iff_distinctVariants hregister hcompile hshed {}).2.1 error herror
      exact ⟨u, member, hu, hclash, rfl⟩

end Session

end WireSchema
