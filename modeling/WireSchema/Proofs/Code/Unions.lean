/-
WireSchema.Proofs.Code.Unions — the variants and the tags of an emitted union.

Which name a variant has is said by the place of its member (`VariantAt`): the local name, or the one
with the namespace in front where another member has the same local name. A member may be listed
twice, so places are compared and not members. The names so chosen are those of the code
(`variantAt_iff`), and code is refused where two of them meet or one is the name for no member.
The tags count the members, and the rules of a session keep them in the bytes of a discriminant. Both
are read off the text of a union: a line for each variant and a line for each tag, and no others
(`UnionItem.code`).

Main statement: `Session.compile_union_represents`.
-/
import Mathlib.Data.List.NodupEquivFin
import WireSchema.Proofs.Code.Hygiene
import WireSchema.Proofs.Compiled.Tables

namespace WireSchema

open WireSchema.Outcome
open WireSchema.Resolved (Declaration)

namespace Code

/-! ## Names by place -/

/-- The variant of the member at a place: its local name, if no member elsewhere has it too. -/
inductive VariantAt (members : List TypeName) (place : Nat) : String → Prop
  | own {member : TypeName} (hmember : members[place]? = some member)
      (halone : ∀ other ≠ place, ∀ m, members[other]? = some m →
        pascalCase m.name ≠ pascalCase member.name) :
      VariantAt members place (escapeKeyword (pascalCase member.name))
  | qualified {member m : TypeName} {other : Nat} (hmember : members[place]? = some member)
      (hother : members[other]? = some m) (hne : other ≠ place)
      (hshared : pascalCase m.name = pascalCase member.name) :
      VariantAt members place
        (escapeKeyword (String.join (member.path.map pascalCase) ++ pascalCase member.name))

/-- What is counted more than once stands at another place too. -/
theorem one_lt_count_iff {names : List String} {place : Nat} {name : String}
    (h : names[place]? = some name) :
    1 < names.count name ↔ ∃ other ≠ place, names[other]? = some name := by
  rw [← Nat.succ_le_iff, ← List.duplicate_iff_two_le_count,
    List.duplicate_iff_exists_distinct_get]
  constructor
  · rintro ⟨n, m, hlt, hn, hm⟩
    by_cases hplace : n.val = place
    · exact ⟨m, by omega, by simp [hm]⟩
    · exact ⟨n, hplace, by simp [hn]⟩
  · rintro ⟨other, hne, hother⟩
    obtain ⟨hlength, hname⟩ := List.getElem?_eq_some_iff.mp h
    obtain ⟨hlength', hname'⟩ := List.getElem?_eq_some_iff.mp hother
    rcases Nat.lt_or_gt_of_ne hne with hlt | hlt
    · exact ⟨⟨other, hlength'⟩, ⟨place, hlength⟩, hlt, hname'.symm, hname.symm⟩
    · exact ⟨⟨place, hlength⟩, ⟨other, hlength'⟩, hlt, hname.symm, hname'.symm⟩

section

variable {members : List TypeName} {place : Nat} {variant : String}

theorem one_lt_count_typeIdent_iff {member : TypeName} (h : members[place]? = some member) :
    1 < (members.map fun m => typeIdent m.name).count (typeIdent member.name) ↔
      ∃ other ≠ place, ∃ m, members[other]? = some m ∧
        pascalCase m.name = pascalCase member.name := by
  have hplace : (members.map fun m => typeIdent m.name)[place]? = some (typeIdent member.name) := by
    rw [List.getElem?_map, h, Option.map_some]
  rw [one_lt_count_iff hplace]
  simp only [List.getElem?_map, Option.map_eq_some_iff, typeIdent_eq_iff]

/-- The names chosen for code are those of the places. -/
theorem variantAt_iff :
    VariantAt members place variant ↔ (chosenVariants members)[place]? = some variant := by
  rw [chosenVariants_eq_map, List.getElem?_map, Option.map_eq_some_iff]
  constructor
  · intro h
    cases h with
    | @own member hmember halone =>
      refine ⟨member, hmember, if_neg fun hcount => ?_⟩
      obtain ⟨other, hne, m, hm, heq⟩ := (one_lt_count_typeIdent_iff hmember).mp hcount
      exact halone other hne m hm heq
    | @qualified member m other hmember hother hne hshared =>
      exact ⟨member, hmember,
        if_pos ((one_lt_count_typeIdent_iff hmember).mpr ⟨other, hne, m, hother, hshared⟩)⟩
  · rintro ⟨member, hmember, rfl⟩
    unfold variantAmong
    split
    · next hcount =>
      obtain ⟨other, hne, m, hm, heq⟩ := (one_lt_count_typeIdent_iff hmember).mp hcount
      exact .qualified hmember hm hne heq
    · next hcount =>
      refine .own hmember fun other hne m hm heq => hcount ?_
      exact (one_lt_count_typeIdent_iff hmember).mpr ⟨other, hne, m, hm, heq⟩

theorem not_distinctVariants_iff {u : Resolved.Union} : ¬ u.DistinctVariants ↔
    (∃ place other variant, place ≠ other ∧ VariantAt u.members place variant ∧
      VariantAt u.members other variant) ∨ ∃ place, VariantAt u.members place noMember := by
  simp only [variantAt_iff]
  rw [Resolved.Union.DistinctVariants, List.nodup_cons, not_and_or, not_not, or_comm,
    List.mem_iff_getElem?, List.nodup_iff_getElem?_ne_getElem?]
  refine or_congr_left ?_
  constructor
  · intro h
    push Not at h
    obtain ⟨place, other, hlt, hlength, heq⟩ := h
    exact ⟨place, other, _, hlt.ne, heq.trans (List.getElem?_eq_getElem hlength),
      List.getElem?_eq_getElem hlength⟩
  · rintro ⟨place, other, variant, hne, hplace, hother⟩ hdistinct
    have hlength := (List.getElem?_eq_some_iff.mp hplace).1
    have hlength' := (List.getElem?_eq_some_iff.mp hother).1
    rcases Nat.lt_or_gt_of_ne hne with hlt | hlt
    · exact hdistinct place other hlt hlength' (hplace.trans hother.symm)
    · exact hdistinct other place hlt hlength (hother.trans hplace.symm)

end

/-! ## Tags -/

/-- An emitted union shows the members of a union: the variant for no member and one for each
member, in order and with different names, and a number for each that fits the type of the tag. They
are written in this order, the number of a member being one more than its place. -/
structure UnionItem.Represents (i : UnionItem) (u : Resolved.Union) (scopePath : List String)
    (discriminant : Primitive) : Prop where
  text : (Item.union i).text = i.code
  ident : i.ident = typeIdent u.name.name
  names : i.tags.map (·.1) = noMember :: i.variants.map (·.1)
  length : i.variants.length = u.members.length
  variants : ∀ place member, u.members[place]? = some member →
    ∃ variant, VariantAt u.members place variant ∧
      i.variants[place]? = some (variant, typePath member scopePath)
  distinct : (noMember :: i.variants.map (·.1)).Nodup
  absent : i.tags.lookup noMember = some 0
  present : ∀ place variant, VariantAt u.members place variant →
    i.tags.lookup variant = some (place + 1)
  injective : ∀ variant other tag, i.tags.lookup variant = some tag →
    i.tags.lookup other = some tag → variant = other
  tagType : i.tagType = "u" ++ toString (8 * discriminant.size)
  fits : ∀ variant tag, i.tags.lookup variant = some tag → tag < 2 ^ (8 * discriminant.size)

theorem map_fst_tags (i : UnionItem) : i.tags.map (·.1) = noMember :: i.variants.map (·.1) := by
  have hvariants : i.variants.map (·.1) = (i.variants.zipIdx.map (·.1)).map (·.1) := by
    rw [List.zipIdx_map_fst]
  rw [hvariants, UnionItem.tags, List.map_cons, List.map_map, List.map_map]
  rfl

/-- With names that differ, a variant has the tag of its place. -/
theorem lookup_tags_eq_some_iff {i : UnionItem}
    (hdistinct : (noMember :: i.variants.map (·.1)).Nodup) {variant : String} {tag : Nat} :
    i.tags.lookup variant = some tag ↔ (variant = noMember ∧ tag = 0) ∨
      ∃ place, (i.variants.map (·.1))[place]? = some variant ∧ tag = place + 1 := by
  rw [OrderedMap.lookup_eq_some_iff (by rwa [map_fst_tags]), UnionItem.tags, List.mem_cons,
    Prod.mk.injEq, List.mem_map]
  refine or_congr_right ?_
  constructor
  · rintro ⟨⟨entry, place⟩, hentry, heq⟩
    cases heq
    rw [List.mk_mem_zipIdx_iff_getElem?] at hentry
    exact ⟨place, by rw [List.getElem?_map, hentry, Option.map_some], rfl⟩
  · rintro ⟨place, hplace, rfl⟩
    rw [List.getElem?_map, Option.map_eq_some_iff] at hplace
    obtain ⟨entry, hentry, rfl⟩ := hplace
    exact ⟨(entry, place), List.mk_mem_zipIdx_iff_getElem?.mpr hentry, rfl⟩

section

variable {i : UnionItem} {members : List TypeName}
  (hnames : i.variants.map (·.1) = chosenVariants members)
  (hdistinct : (noMember :: chosenVariants members).Nodup)

include hnames hdistinct

theorem lookup_tags_iff_variantAt {variant : String} {tag : Nat} :
    i.tags.lookup variant = some tag ↔ (variant = noMember ∧ tag = 0) ∨
      ∃ place, VariantAt members place variant ∧ tag = place + 1 := by
  rw [lookup_tags_eq_some_iff (by rwa [hnames]), hnames]
  simp only [variantAt_iff]

theorem eq_of_lookup_tags {variant other : String} {tag : Nat}
    (hvariant : i.tags.lookup variant = some tag) (hother : i.tags.lookup other = some tag) :
    variant = other := by
  rw [lookup_tags_iff_variantAt hnames hdistinct] at hvariant hother
  rcases hvariant with ⟨rfl, rfl⟩ | ⟨place, hplace, rfl⟩
  · rcases hother with ⟨rfl, _⟩ | ⟨place, _, hzero⟩
    · rfl
    · cases hzero
  · rcases hother with ⟨_, hzero⟩ | ⟨place', hplace', heq⟩
    · cases hzero
    · cases heq
      rw [variantAt_iff] at hplace hplace'
      exact Option.some.inj (hplace.symm.trans hplace')

theorem tag_le_of_lookup_tags {variant : String} {tag : Nat}
    (h : i.tags.lookup variant = some tag) : tag ≤ members.length := by
  rcases (lookup_tags_iff_variantAt hnames hdistinct).mp h with ⟨_, rfl⟩ | ⟨place, hplace, rfl⟩
  · exact Nat.zero_le _
  · have hlength := (List.getElem?_eq_some_iff.mp (variantAt_iff.mp hplace)).1
    rwa [length_chosenVariants] at hlength

end

/-- A type that holds tags holds the numbers of its bytes. -/
theorem nativeName_eq {discriminant : Primitive} (h : discriminant.isDiscriminant = true) :
    discriminant.nativeName = "u" ++ toString (8 * discriminant.size) := by
  revert h
  cases discriminant <;> decide +kernel

section

variable {u : Resolved.Union} {scopePath : List String} {layout : Layout}
  {discriminant : Primitive} {settings : CodeSettings}

theorem unionItem_eq_ok_iff {i : UnionItem} :
    unionItem u scopePath layout discriminant settings = .ok i ↔ u.DistinctVariants ∧
      i = { derives := derives ["Debug", "Clone", "PartialEq"] true settings
            ident := typeIdent u.name.name
            variants := (chosenVariants u.members).zip
              (u.members.map fun member => typePath member scopePath)
            tagType := discriminant.nativeName
            extent := if settings.emitLayoutConstants then some layout.extent else none } := by
  rw [unionItem, bind_eq_ok_iff]
  constructor
  · rintro ⟨variants, hvariants, hitem⟩
    obtain ⟨hdistinct, rfl⟩ := unionVariants_eq_ok_iff.mp hvariants
    exact ⟨hdistinct, (Except.ok.inj hitem).symm⟩
  · rintro ⟨hdistinct, rfl⟩
    exact ⟨_, unionVariants_eq_ok_iff.mpr ⟨hdistinct, rfl⟩, rfl⟩

theorem represents_of_unionItem {i : UnionItem}
    (h : unionItem u scopePath layout discriminant settings = .ok i)
    (hdiscriminant : discriminant.isDiscriminant = true)
    (hcount : u.members.length < 2 ^ (8 * discriminant.size)) :
    i.Represents u scopePath discriminant := by
  obtain ⟨hdistinct, hitem⟩ := unionItem_eq_ok_iff.mp h
  have hvariants : i.variants =
      (chosenVariants u.members).zip (u.members.map fun member => typePath member scopePath) := by
    rw [hitem]
  have hnames : i.variants.map (·.1) = chosenVariants u.members := by
    rw [hvariants, List.map_fst_zip (by simp [length_chosenVariants])]
  refine ⟨(Item.union i).text_eq_code, by rw [hitem], map_fst_tags i, ?_, ?_, ?_, ?_, ?_, ?_, ?_, ?_⟩
  · rw [hvariants, List.length_zip, length_chosenVariants, List.length_map, Nat.min_self]
  · intro place member hmember
    have hlength : place < (chosenVariants u.members).length := by
      rw [length_chosenVariants]
      exact (List.getElem?_eq_some_iff.mp hmember).1
    refine ⟨_, variantAt_iff.mpr (List.getElem?_eq_getElem hlength), ?_⟩
    rw [hvariants, List.getElem?_zip_eq_some, List.getElem?_map, hmember]
    exact ⟨List.getElem?_eq_getElem hlength, rfl⟩
  · rw [hnames]
    exact hdistinct
  · exact (lookup_tags_iff_variantAt hnames hdistinct).mpr (.inl ⟨rfl, rfl⟩)
  · intro place variant hvariant
    exact (lookup_tags_iff_variantAt hnames hdistinct).mpr (.inr ⟨place, hvariant, rfl⟩)
  · intro variant other tag hvariant hother
    exact eq_of_lookup_tags hnames hdistinct hvariant hother
  · rw [hitem]
    exact nativeName_eq hdiscriminant
  · intro variant tag hvariant
    exact (tag_le_of_lookup_tags hnames hdistinct hvariant).trans_lt hcount

end

end Code

namespace Session

variable {session : Session} {settings : CompilerSettings} {compiled : Compiled}

/-- A union of a session has no more members than its discriminant counts. -/
theorem Produces.length_members {declarations : OrderedMap TypeName Declaration}
    (h : session.Produces settings declarations compiled) {name : TypeName} {u : Resolved.Union}
    (hu : declarations.get? name = some (.union u)) :
    u.members.length < 2 ^ (8 * compiled.unionDiscriminant.size) := by
  obtain ⟨file, hfile, own, declared, hholds, hmirrors⟩ := h.exists_source hu
  obtain ⟨discriminant, hsettings, hwell⟩ := (Rules.session_eq_ok_iff.mp h.rules).2 file hfile
  obtain rfl : discriminant = compiled.unionDiscriminant :=
    Except.ok.inj (hsettings.symm.trans h.discriminant)
  cases hmirrors with
  | union hmembers =>
    rw [← hmembers.length_eq]
    exact hwell.memberCount own _ hholds

/-- **Unions.** In every compiled session, the code of a union represents it where it exists, in the
variants and the tags that are written. It does not exist exactly where two members have one variant
name, or one has the name for no member. -/
theorem compile_union_represents (hcompile : session.compile settings = .ok compiled)
    {key : TypeName} {entry : Compiled.TypeEntry} {u : Resolved.Union}
    (hentry : compiled.get? key = some entry) (hunion : entry.declaration = .union u)
    (scopePath : List String) (codeSettings : CodeSettings) :
    settings.discriminant = .ok compiled.unionDiscriminant ∧
    (∀ item, Code.item entry scopePath compiled.unionDiscriminant codeSettings = .ok item →
      ∃ i, item = .union i ∧ i.Represents u scopePath compiled.unionDiscriminant) ∧
    ((∃ error, Code.item entry scopePath compiled.unionDiscriminant codeSettings = .error error) ↔
      (∃ place other variant, place ≠ other ∧ Code.VariantAt u.members place variant ∧
        Code.VariantAt u.members other variant) ∨
      ∃ place, Code.VariantAt u.members place Code.noMember) := by
  obtain ⟨declarations, h⟩ := produces_of_compile hcompile
  have hitem : Code.item entry scopePath compiled.unionDiscriminant codeSettings =
      .union <$> Code.unionItem u scopePath entry.layout compiled.unionDiscriminant codeSettings := by
    rw [Code.item, hunion]
  refine ⟨h.discriminant, fun item hok => ?_, ?_⟩
  · rw [hitem, map_eq_ok_iff] at hok
    obtain ⟨i, hi, rfl⟩ := hok
    obtain ⟨hdeclaration, _⟩ := (h.get?_iff key entry).mp hentry
    rw [hunion] at hdeclaration
    exact ⟨i, rfl, Code.represents_of_unionItem hi
      (Rules.isDiscriminant_of_settings h.discriminant) (h.length_members hdeclaration)⟩
  · rw [hitem, exists_error_iff, ← Code.not_distinctVariants_iff]
    simp only [map_eq_ok_iff, Code.unionItem_eq_ok_iff]
    refine not_congr ⟨?_, fun hdistinct => ⟨_, _, ⟨hdistinct, rfl⟩, rfl⟩⟩
    rintro ⟨_, _, ⟨hdistinct, _⟩, _⟩
    exact hdistinct

/-- Members of three namespaces: two share a local name, one is a keyword, one has a name of its
own. -/
def marinaTexts : List (String × String) :=
  [("pier", "namespace east.pier; table Boat {} table self {}"),
   ("quay", "namespace west; table boat {} table Sail {}
      union Berth { boat, east.pier.Boat, east.pier.self, Sail }")]

def marinaSession : Session :=
  ((registerTexts {} marinaTexts).toOption).getD {}

theorem marina_berth_represents :
    ∃ compiled u layout i, marinaSession.compile {} = .ok compiled ∧
      compiled.get? ⟨["west"], "Berth"⟩ = some ⟨.union u, layout⟩ ∧
      Code.item ⟨.union u, layout⟩ ["west"] compiled.unionDiscriminant {} = .ok (.union i) ∧
      i.Represents u ["west"] compiled.unionDiscriminant ∧
      i.tags = [("None", 0), ("WestBoat", 1), ("EastPierBoat", 2), ("Self_", 3), ("Sail", 4)] := by
  have hcompiles : ((marinaSession.compile {}).toOption.bind fun compiled =>
      (compiled.get? ⟨["west"], "Berth"⟩).bind fun entry =>
        (Code.item entry ["west"] compiled.unionDiscriminant {}).toOption.map fun item =>
          match entry.declaration, item with
          | .union _, .union i => i.tags
          | _, _ => []) =
      some [("None", 0), ("WestBoat", 1), ("EastPierBoat", 2), ("Self_", 3), ("Sail", 4)] := by
    decide +kernel
  obtain ⟨compiled, hcompiled, hfound⟩ := Option.bind_eq_some_iff.mp hcompiles
  obtain ⟨⟨declaration, layout⟩, hentry, hitems⟩ := Option.bind_eq_some_iff.mp hfound
  obtain ⟨item, hemits, htags⟩ := Option.map_eq_some_iff.mp hitems
  have hcompile := eq_ok_of_toOption hcompiled
  have hitem := eq_ok_of_toOption hemits
  cases declaration with
  | union u =>
    obtain ⟨_, hrepresents, _⟩ := compile_union_represents hcompile hentry rfl ["west"] {}
    obtain ⟨i, rfl, hi⟩ := hrepresents item hitem
    exact ⟨compiled, u, layout, i, hcompile, hentry, hitem, hi, htags⟩
  | enum e => cases htags
  | struct s => cases htags
  | table t => cases htags

end Session

end WireSchema
