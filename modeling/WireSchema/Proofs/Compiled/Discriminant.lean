/-
WireSchema.Proofs.Compiled.Discriminant — what the choice of the discriminant changes.

A discriminant has a slot in unions and in tables with a union in use that is no array
(`Declaration.holdsTag`). Types held in place are enums and structs, so no other layout can come to
depend on it (`ReferenceLayout.of_discriminant`), and a tag is too small to decide the alignment of a
table (`ReferenceLayout.alignment_le`). Among the rules only the one that counts the members of unions
reads it: a greater discriminant passes what a smaller one does (`Rules.session_mono`), and where only
the greater one passes, a union is too large for the smaller (`Rules.tooLarge_of_session`).

Main statement: `Session.compile_discriminants_agree`.
-/
import WireSchema.Proofs.Compiled.Tables

namespace WireSchema

open WireSchema.Outcome
open WireSchema.Resolved (Declaration)

/-! ## Layouts -/

/-- Whether a declaration has a slot of the discriminant. -/
def Resolved.Declaration.holdsTag : Declaration → Bool
  | .union _ => true
  | .table t => t.fields.any fun f => !f.isDeprecated && !f.isArray && f.type.kind == .union
  | .enum _ | .struct _ => false

theorem Resolved.liveSlots_of_holdsTag {t : Resolved.Compound}
    (h : (Declaration.table t).holdsTag = false) (discriminant other : Primitive)
    (inner : TypeName → Layout) :
    liveSlots discriminant inner t.fields = liveSlots other inner t.fields := by
  refine List.flatMap_congr fun entry hentry => ?_
  obtain ⟨hmem, hlive⟩ := List.mem_filter.mp hentry
  have hfield : entry.1 ∈ t.fields := List.fst_mem_of_mem_zipIdx hmem
  have huntagged := List.any_eq_false.mp h _ hfield
  unfold Field.slots Field.tagSlot
  split
  · next hunion =>
    have harray : entry.1.isArray = true := by simpa [hlive, hunion] using huntagged
    rw [if_pos harray, if_pos harray]
  · rfl

section

variable {declared : TypeName → Option Declaration}
  (hclosed : ∀ name d, declared name = some d → ∀ f ∈ d.inlineFields, ∀ type,
    declared f.type.name = some type → type.holdsTag = false)

include hclosed

/-- A layout without a slot of the discriminant is the same under every one. -/
theorem ReferenceLayout.of_discriminant {discriminant : Primitive} {name : TypeName}
    {d : Declaration} {layout : Layout} (hd : declared name = some d)
    (h : ReferenceLayout declared discriminant d layout) (htag : d.holdsTag = false)
    (other : Primitive) : ReferenceLayout declared other d layout := by
  induction h generalizing name with
  | enum e => exact .enum e
  | union u => cases htag
  | struct inner type htype _ hlayout ih =>
    refine .struct inner type htype (fun f hf => ?_) hlayout
    exact ih f hf (htype f hf) (hclosed name _ hd f hf _ (htype f hf))
  | table inner type htype _ hlayout ih =>
    rw [Resolved.liveSlots_of_holdsTag htag discriminant other] at hlayout
    refine .table inner type htype (fun f hf => ?_) hlayout
    exact ih f hf (htype f hf) (hclosed name _ hd f hf _ (htype f hf))

/-- The alignment of a table comes from its values. -/
theorem ReferenceLayout.alignment_le {discriminant other : Primitive}
    (hdiscriminant : discriminant.isDiscriminant = true) {name : TypeName} {t : Resolved.Compound}
    (hd : declared name = some (.table t)) {layout layout' : Layout}
    (h : ReferenceLayout declared discriminant (.table t) layout)
    (h' : ReferenceLayout declared other (.table t) layout') :
    layout.alignment ≤ layout'.alignment := by
  cases h with
  | table inner type htype hinner hlayout =>
  cases h' with
  | table inner' type' htype' hinner' hlayout' =>
    have hfour : 4 ≤ layout'.alignment := hlayout'.alignment.2 (.inl rfl)
    rcases hlayout.alignment.1 with hleast | ⟨slot, hslot, halign⟩
    · exact hleast.trans_le hfour
    · obtain ⟨index, f, hf, hlive, hslot⟩ := Resolved.mem_liveSlots_iff.mp hslot
      rcases Resolved.Field.mem_slots_iff.mp hslot with ⟨_, rfl⟩ | rfl
      · exact halign ▸ ((f.tagSlot_alignment hdiscriminant).2.trans hfour)
      · have hsame : f.slot inner = f.slot inner' := by
          refine Resolved.Field.slot_congr fun hinline => ?_
          have hf' := Resolved.mem_inlineFields_table (List.mem_of_getElem? hf) hlive hinline
          have hdecl := Option.some.inj ((htype f hf').symm.trans (htype' f hf'))
          have huntagged := hclosed name _ hd f hf' _ (htype f hf')
          have hmoved := (hinner f hf').of_discriminant hclosed (htype f hf') huntagged other
          exact (hinner' f hf').unique (hdecl ▸ hmoved)
        refine hlayout'.alignment.2 (.inr ⟨⟨index, .value, f.slot inner'⟩, ?_, hsame ▸ halign⟩)
        exact Resolved.mem_liveSlots_iff.mpr
          ⟨index, f, hf, hlive, Resolved.Field.mem_slots_iff.mpr (.inr rfl)⟩

end

/-! ## Rules -/

/-- A greater discriminant counts more members. -/
theorem Scope.WellFormed.mono {scope : Scope} {discriminant other : Primitive}
    (h : scope.WellFormed discriminant) (hsize : discriminant.size ≤ other.size) :
    scope.WellFormed other :=
  { h with
    memberCount := fun name u hu => (h.memberCount name u hu).trans_le
      (Nat.pow_le_pow_right (by decide) (Nat.mul_le_mul_left 8 hsize)) }

namespace Rules

variable {session : Session} {scope : Scope} {discriminant other : Primitive}

theorem session_mono {settings settings' : CompilerSettings}
    (hsettings : settings.discriminant = .ok discriminant)
    (hsettings' : settings'.discriminant = .ok other) (hsize : discriminant.size ≤ other.size)
    (h : Rules.session session settings = .ok ()) : Rules.session session settings' = .ok () := by
  rw [session_eq_ok_iff] at h ⊢
  refine ⟨h.1, fun file hfile => ?_⟩
  obtain ⟨_, hsame, hwell⟩ := h.2 file hfile
  cases hsettings.symm.trans hsame
  exact ⟨other, hsettings', hwell.mono hsize⟩

/-- The error for a union with more members than a discriminant counts. -/
def IsTooLarge (file : SymbolTable) (discriminant : Primitive) (violation : Violation) : Prop :=
  ∃ name u, file.Holds name (.union u) ∧ memberLimit discriminant < u.members.length ∧
    violation = .unionTooLarge name u.members.length discriminant (memberLimit discriminant)

theorem tooLarge_of_union {name : String} {u : Symbol.Union} {violation : Violation}
    (hok : union scope other name u = .ok ())
    (herror : union scope discriminant name u = .error violation) :
    memberLimit discriminant < u.members.length ∧
      violation = .unionTooLarge name u.members.length discriminant (memberLimit discriminant) := by
  rw [union, guard_eq_ok_iff] at hok
  rw [union] at herror
  split at herror
  · next hlimit => exact ⟨hlimit, (Except.error.inj herror).symm⟩
  · cases hok.2.symm.trans herror

/-- What passes under one discriminant fails under another for the size of a union only. -/
theorem tooLarge_of_declarations {violation : Violation}
    (hok : declarations scope other = .ok ())
    (herror : declarations scope discriminant = .error violation) :
    IsTooLarge scope.file discriminant violation := by
  rw [declarations, seq_eq_ok_iff] at hok
  rw [declarations, bind_eq_error_iff] at herror
  rcases herror with herror | ⟨_, _, herror⟩
  · obtain ⟨⟨name, u⟩, hentry, hfails⟩ := exists_of_forM_eq_error herror
    have hpasses := forM_eq_ok_iff.mp hok.1 _ hentry
    exact ⟨name, u, OrderedMap.get?_eq_some_iff.mpr hentry, tooLarge_of_union hpasses hfails⟩
  · cases hok.2.symm.trans herror

theorem tooLarge_of_file {settings settings' : CompilerSettings}
    (hsettings : settings.discriminant = .ok discriminant)
    (hok : file scope settings' = .ok ()) {error : Error}
    (herror : file scope settings = .error error) :
    ∃ violation, IsTooLarge scope.file discriminant violation ∧ error = .rule violation := by
  rw [file, seq_eq_ok_iff, bind_eq_ok_iff] at hok
  obtain ⟨hroots, _, _, hpasses⟩ := hok
  rw [file, hsettings, bind_eq_error_iff] at herror
  rcases herror with herror | ⟨_, _, hfails⟩
  · cases hroots.symm.trans herror
  · obtain ⟨violation, hviolation, rfl⟩ := mapError_eq_error_iff.mp hfails
    exact ⟨violation, tooLarge_of_declarations (mapError_eq_ok_iff.mp hpasses) hviolation, rfl⟩

theorem tooLarge_of_session {settings settings' : CompilerSettings}
    (hsettings : settings.discriminant = .ok discriminant)
    (hok : Rules.session session settings' = .ok ()) {error : Error}
    (herror : Rules.session session settings = .error error) :
    ∃ file ∈ session.files.values, ∃ violation, IsTooLarge file discriminant violation ∧
      error = .rule violation := by
  rw [Rules.session, seq_eq_ok_iff] at hok
  rw [Rules.session, bind_eq_error_iff] at herror
  rcases herror with herror | ⟨_, _, herror⟩
  · cases hok.1.symm.trans herror
  · obtain ⟨table, htable, hfails⟩ := exists_of_forM_eq_error herror
    exact ⟨table, htable, tooLarge_of_file hsettings (forM_eq_ok_iff.mp hok.2 _ htable) hfails⟩

end Rules

/-! ## Two compilations -/

/-- Two compiled sessions that differ in the slots of their discriminants only. -/
structure Compiled.AgreesBesidesTags (compiled other : Compiled) : Prop where
  order : compiled.order = other.order
  files : compiled.files = other.files
  declarations : ∀ name, (compiled.get? name).map (·.declaration) =
    (other.get? name).map (·.declaration)
  layouts : ∀ name entry entry', compiled.get? name = some entry → other.get? name = some entry' →
    entry.declaration.holdsTag = false → entry.layout = entry'.layout
  unions : ∀ name entry entry' u, compiled.get? name = some entry → other.get? name = some entry' →
    entry.declaration = .union u →
      entry.layout = .plain (.ofPrimitive compiled.unionDiscriminant) ∧
        entry'.layout = .plain (.ofPrimitive other.unionDiscriminant)
  alignments : ∀ name entry entry' t, compiled.get? name = some entry →
    other.get? name = some entry' → entry.declaration = .table t →
      entry.layout.alignment = entry'.layout.alignment

/-- No name is declared that the file does not list. -/
def SymbolTable.ListsDeclared (file : SymbolTable) : Prop :=
  ∀ name declared, file.find? name = some declared → name ∈ file.declarationOrder

namespace Session

/-- The files of registered texts list what they declare. -/
theorem listsDeclared_of_registerTexts {texts : List (String × String)} {session : Session}
    (h : registerTexts {} texts = .ok session) :
    ∀ file ∈ session.files.values, file.ListsDeclared :=
  fun file hfile name declared hfind =>
    ((built_of_registerTexts h file hfile).listed name).mpr ⟨declared, hfind⟩

variable {session : Session} {settings settings' : CompilerSettings} {compiled other : Compiled}
  {declarations : OrderedMap TypeName Declaration}

/-- A name that is listed and not declared stops a compilation, so behind one the files list exactly
what they declare. -/
theorem Produces.compiles (h : session.Produces settings declarations compiled)
    (hlists : ∀ file ∈ session.files.values, file.ListsDeclared) :
    session.Compiles settings declarations compiled := by
  have hunique := (Rules.session_eq_ok_iff.mp h.rules).1
  refine h.compiles_of_listed fun file hfile name => ?_
  constructor
  · intro hname
    have hitem : (⟨session, file⟩, name) ∈ session.declared :=
      Resolved.mem_declared.mpr ⟨file, hfile, name, hname, rfl⟩
    have hresolved := Resolved.mapM_entryOf_declared h.declarations_eq hunique
    obtain ⟨entry, hentry⟩ := exists_mapM_eq_ok_iff.mp ⟨_, hresolved⟩ _ hitem
    exact Resolved.exists_find?_of_declaration (Resolved.entryOf_eq_ok_iff.mp hentry).2
  · rintro ⟨declared, hfind⟩
    exact hlists file hfile name declared hfind

namespace Compiles

variable (h : session.Compiles settings declarations compiled)

include h

/-- Types held in place are enums and structs. -/
theorem holdsTag_of_mem_inlineFields {name : TypeName} {d : Declaration}
    (hd : declarations.get? name = some d) {f : Resolved.Field} (hf : f ∈ d.inlineFields)
    {type : Declaration} (htype : declarations.get? f.type.name = some type) :
    type.holdsTag = false := by
  obtain ⟨c, hcompound, hmem, hinline⟩ := Resolved.mem_inlineFields hf
  obtain ⟨entry, hentry, rfl⟩ := h.produces.exists_entry hd
  have hfield : f ∈ entry.declaration.fields := by
    rcases hcompound with heq | heq <;> exact heq ▸ hmem
  have hkind : f.type.kind = .enum ∨ f.type.kind = .struct := by
    simpa using (Bool.and_eq_true_iff.mp hinline).2
  rcases h.exists_entry_of_mem_fields hentry hfield with ⟨p, hprimitive⟩ | ⟨target, htarget, hsame⟩
  · rw [hprimitive] at hkind
    rcases hkind with hkind | hkind <;> cases hkind
  · cases htype.symm.trans ((h.get?_iff _ target).mp htarget).1
    rw [← hsame] at hkind
    cases hdeclared : target.declaration with
    | enum e => rfl
    | struct s => rfl
    | union u => rcases hdeclared ▸ hkind with hkind | hkind <;> cases hkind
    | table t => rcases hdeclared ▸ hkind with hkind | hkind <;> cases hkind

/-- Two compilations of one session agree up to their discriminants. -/
theorem agreesBesidesTags (h' : session.Compiles settings' declarations other) :
    compiled.AgreesBesidesTags other := by
  have hclosed : ∀ name d, declarations.get? name = some d → ∀ f ∈ d.inlineFields, ∀ type,
      declarations.get? f.type.name = some type → type.holdsTag = false :=
    fun name d hd f hf type htype => h.holdsTag_of_mem_inlineFields hd hf htype
  have hsame : ∀ {name entry entry'}, compiled.get? name = some entry →
      other.get? name = some entry' → entry'.declaration = entry.declaration := by
    intro name entry entry' hentry hentry'
    obtain ⟨hd, _⟩ := (h.get?_iff name entry).mp hentry
    obtain ⟨hd', _⟩ := (h'.get?_iff name entry').mp hentry'
    exact Option.some.inj (hd'.symm.trans hd)
  have horder : compiled.order = other.order := Except.ok.inj (h.order.symm.trans h'.order)
  constructor
  case order => exact horder
  case files =>
    have hfiles := h.files
    rw [horder] at hfiles
    exact Except.ok.inj (hfiles.symm.trans h'.files)
  case declarations =>
    intro name
    exact congrFun (h.produces.declaration?_eq.trans h'.produces.declaration?_eq.symm) name
  case layouts =>
    intro name entry entry' hentry hentry' htag
    obtain ⟨hd, exact, hexact, hlayout⟩ := (h.get?_iff name entry).mp hentry
    obtain ⟨_, exact', hexact', hlayout'⟩ := (h'.get?_iff name entry').mp hentry'
    rw [hsame hentry hentry'] at hexact'
    rw [hlayout, hlayout', hexact'.unique (hexact.of_discriminant hclosed hd htag _)]
  case unions =>
    intro name entry entry' u hentry hentry' hunion
    obtain ⟨_, hlayout⟩ := (h.get?_iff name entry).mp hentry
    obtain ⟨_, hlayout'⟩ := (h'.get?_iff name entry').mp hentry'
    rw [hsame hentry hentry', hunion] at hlayout'
    rw [hunion] at hlayout
    exact ⟨(WordLayout.union u).unique hlayout, (WordLayout.union u).unique hlayout'⟩
  case alignments =>
    intro name entry entry' t hentry hentry' htable
    obtain ⟨hd, exact, hexact, hlayout⟩ := (h.get?_iff name entry).mp hentry
    obtain ⟨_, exact', hexact', hlayout'⟩ := (h'.get?_iff name entry').mp hentry'
    rw [hsame hentry hentry', htable] at hexact'
    rw [htable] at hd hexact
    rw [hlayout, hlayout']
    show exact.alignment = exact'.alignment
    exact le_antisymm (hexact.alignment_le hclosed h.produces.isDiscriminant hd hexact')
      (hexact'.alignment_le hclosed h'.produces.isDiscriminant hd hexact)

end Compiles

/-- **Discriminants.** Take two accepted discriminants, and a session whose files list what they
declare. What compiles under the smaller one compiles under the greater one, with a result that
agrees besides the slots of the discriminants. What compiles under the greater one and fails under the
smaller one has a union with too many members, and fails for it. -/
theorem compile_discriminants_agree {discriminant greater : Primitive}
    (hlists : ∀ file ∈ session.files.values, file.ListsDeclared)
    (hsettings : settings.discriminant = .ok discriminant)
    (hsettings' : settings'.discriminant = .ok greater)
    (hsize : discriminant.size ≤ greater.size) :
    (∀ compiled, session.compile settings = .ok compiled →
      ∃ other, session.compile settings' = .ok other ∧
        compiled.unionDiscriminant = discriminant ∧ other.unionDiscriminant = greater ∧
          compiled.AgreesBesidesTags other) ∧
    ∀ other error, session.compile settings' = .ok other →
      session.compile settings = .error error →
        error.kind = .value ∧ ∃ file ∈ session.files.values, ∃ name u,
          file.Holds name (.union u) ∧ 2 ^ (8 * discriminant.size) ≤ u.members.length ∧
            error = .rule (.unionTooLarge name u.members.length discriminant
              (Rules.memberLimit discriminant)) := by
  constructor
  · intro compiled hcompile
    obtain ⟨declarations, hproduces⟩ := produces_of_compile hcompile
    have h := hproduces.compiles hlists
    have hrules := Rules.session_mono hsettings hsettings' hsize h.rules
    obtain ⟨_, _, _, _, _, _, hother⟩ := h.resolves.exists_stages hsettings' hrules h.order
    obtain ⟨declarations', hproduces'⟩ := produces_of_compile hother
    cases h.resolves.declarations_eq.symm.trans hproduces'.declarations_eq
    exact ⟨_, hother, Except.ok.inj (h.discriminant.symm.trans hsettings), rfl,
      h.agreesBesidesTags (hproduces'.compiles hlists)⟩
  · intro other error hother hcompile
    obtain ⟨declarations, hproduces⟩ := produces_of_compile hother
    have h := hproduces.compiles hlists
    cases hrules : Rules.session session settings with
    | ok done =>
      obtain ⟨_, _, _, _, _, _, hcompiled⟩ := h.resolves.exists_stages hsettings hrules h.order
      cases hcompiled.symm.trans hcompile
    | error fault =>
      have hfails : session.compile settings = .error fault := by
        simp [compile, hsettings, hrules, bind, Except.bind]
      cases hfails.symm.trans hcompile
      obtain ⟨file, hfile, _, ⟨name, u, hholds, hlimit, rfl⟩, rfl⟩ :=
        Rules.tooLarge_of_session hsettings h.rules hrules
      have hcount := Rules.memberLimit_eq (Rules.isDiscriminant_of_settings hsettings)
      exact ⟨rfl, file, hfile, name, u, hholds, hcount.symm.le.trans hlimit, rfl⟩

/-- A table with a union and an array of unions behind a single byte. -/
def ferryTexts : List (String × String) :=
  [("ferry", "enum Deck: ushort { Low } struct Ramp { deck: Deck; width: ubyte; } table Car {}
      union Load { Car } table Ferry { lane: ubyte; load: Load; ramp: Ramp; loads: [Load]; }")]

def ferrySession : Session :=
  ((registerTexts {} ferryTexts).toOption).getD {}

theorem ferry_agreesBesidesTags :
    (∀ file ∈ ferrySession.files.values, file.ListsDeclared) ∧ ∃ compiled other,
      ferrySession.compile {} = .ok compiled ∧ ferrySession.compile ⟨"ushort"⟩ = .ok other ∧
      compiled.AgreesBesidesTags other ∧
      compiled.layout? ⟨[], "Ferry"⟩ =
        some ⟨4, 24, some [(0, 4), (1, 8), (2, 12), (3, 20)], [(1, 5), (3, 16)]⟩ ∧
      other.layout? ⟨[], "Ferry"⟩ =
        some ⟨4, 24, some [(0, 4), (1, 8), (2, 12), (3, 20)], [(1, 6), (3, 16)]⟩ := by
  obtain ⟨hregisters, hcompiles, hothers⟩ : (registerTexts {} ferryTexts).toOption.isSome = true ∧
      ((ferrySession.compile {}).toOption.bind fun compiled => compiled.layout? ⟨[], "Ferry"⟩) =
        some ⟨4, 24, some [(0, 4), (1, 8), (2, 12), (3, 20)], [(1, 5), (3, 16)]⟩ ∧
      ((ferrySession.compile ⟨"ushort"⟩).toOption.bind fun other =>
        other.layout? ⟨[], "Ferry"⟩) =
        some ⟨4, 24, some [(0, 4), (1, 8), (2, 12), (3, 20)], [(1, 6), (3, 16)]⟩ := by
    decide +kernel
  have hregister : registerTexts {} ferryTexts = .ok ferrySession := eq_ok_getD hregisters
  have hlists := listsDeclared_of_registerTexts hregister
  obtain ⟨compiled, hcompiled, hlayout⟩ := Option.bind_eq_some_iff.mp hcompiles
  obtain ⟨other, hother, hlayout'⟩ := Option.bind_eq_some_iff.mp hothers
  have hcompile := eq_ok_of_toOption hcompiled
  have hcompile' := eq_ok_of_toOption hother
  obtain ⟨hgreater, _⟩ := compile_discriminants_agree hlists
    (rfl : ({} : CompilerSettings).discriminant = .ok .ubyte)
    (rfl : (⟨"ushort"⟩ : CompilerSettings).discriminant = .ok .ushort) (by decide)
  obtain ⟨_, hsame, _, _, hagrees⟩ := hgreater compiled hcompile
  cases hsame.symm.trans hcompile'
  exact ⟨hlists, compiled, other, hcompile, hcompile', hagrees, hlayout, hlayout'⟩

end Session

end WireSchema
