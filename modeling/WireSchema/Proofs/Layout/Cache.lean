/-
WireSchema.Proofs.Layout.Cache — what the layout cache answers, in whatever order it is asked.

* `layoutOf_of_ready`, `layoutOf_of_not_ready` — a layout is computed exactly when the types its slots
  hold in place are cached, and it is the one made from their layouts.
* `run_resolve` — all that a call can do; read off it, `run_resolve_eq_ok_iff`,
  `run_resolve_error_iff` and `eq_of_run_resolve_eq_error`.
* `exists_run_resolveAll` — along an order that puts inline types in front, no call comes too early.
* `Sound` — the invariant: every cached layout is the reference layout of the declaration with that
  name, in machine words. A call keeps it (`Sound.afterCall`), so every sequence of calls does
  (`Sound.afterCalls`).
-/
import WireSchema.Proofs.Layout.Words
import WireSchema.Proofs.Outcome

namespace WireSchema

open WireSchema.Resolved (Declaration)
open WireSchema.Outcome

namespace LayoutCache

variable {cache : LayoutCache} {d : Declaration}

/-! ## One computation -/

/-- The types held in place are cached. -/
def Ready (cache : LayoutCache) (d : Declaration) : Prop :=
  ∀ f ∈ d.inlineFields, f.type.name ∈ cache.layouts.keys

/-- The cached layout of a name; any layout stands for one that is not cached. -/
def layoutD (cache : LayoutCache) (name : TypeName) : Layout :=
  (cache.layouts.get? name).getD (.plain .offset)

/-- The layout of a declaration from the cached layouts. -/
def computed (cache : LayoutCache) : Declaration → Layout
  | .enum e => .plain (.ofPrimitive e.underlying)
  | .union _ => .plain (.ofPrimitive cache.discriminant)
  | .struct s => .ofStruct (s.fields.map (·.slot cache.layoutD)) s.forceAlign
  | .table t => .ofTable (Resolved.liveSlots cache.discriminant cache.layoutD t.fields)

theorem valueExtent_of_cached {owner : TypeName} {f : Resolved.Field}
    (h : f.isInline = true → f.type.name ∈ cache.layouts.keys) :
    cache.valueExtent owner f = .ok (f.slot cache.layoutD) := by
  unfold valueExtent Resolved.Field.slot
  split
  · rfl
  · rename_i harray
    have hcached : f.type.kind = .enum ∨ f.type.kind = .struct →
        ∃ layout, cache.layouts.get? f.type.name = some layout := by
      intro hkind
      rw [← OrderedMap.mem_keys_iff]
      exact h (by simpa [Resolved.Field.isInline, harray] using hkind)
    cases hkind : f.type.kind with
    | primitive p => rfl
    | union => rfl
    | table => rfl
    | enum =>
      obtain ⟨layout, hlayout⟩ := hcached (.inl hkind)
      simp [layoutD, hlayout]
    | struct =>
      obtain ⟨layout, hlayout⟩ := hcached (.inr hkind)
      simp [layoutD, hlayout]

theorem valueExtent_of_not_cached {owner : TypeName} {f : Resolved.Field}
    (hinline : f.isInline = true) (h : f.type.name ∉ cache.layouts.keys) :
    cache.valueExtent owner f = .error (.layoutNotReady f.name owner f.type.name) := by
  have hnone := OrderedMap.get?_eq_none_iff.mpr h
  simp only [Resolved.Field.isInline, Bool.and_eq_true, Bool.not_eq_true', Bool.or_eq_true,
    beq_iff_eq] at hinline
  obtain ⟨harray, hkind | hkind⟩ := hinline
  · simp [valueExtent, harray, hkind, hnone]
  · simp [valueExtent, harray, hkind, hnone]

theorem fieldSlots_of_cached {owner : TypeName} {index : Nat} {f : Resolved.Field}
    (h : f.isDeprecated = false → f.isInline = true → f.type.name ∈ cache.layouts.keys) :
    cache.fieldSlots owner index f =
      .ok (if f.isDeprecated then [] else f.slots cache.discriminant cache.layoutD index) := by
  unfold fieldSlots
  cases hold : f.isDeprecated with
  | true => rfl
  | false =>
    rw [valueExtent_of_cached (h hold), Resolved.Field.slots]
    by_cases hunion : f.type.kind = .union
    · simp [hunion, bind, Except.bind, pure, Except.pure, tagExtent, Resolved.Field.tagSlot]
    · simp [hunion, bind, Except.bind, pure, Except.pure]

theorem fieldSlots_of_not_cached {owner : TypeName} {index : Nat} {f : Resolved.Field}
    (hlive : f.isDeprecated = false) (hinline : f.isInline = true)
    (h : f.type.name ∉ cache.layouts.keys) :
    cache.fieldSlots owner index f = .error (.layoutNotReady f.name owner f.type.name) := by
  unfold fieldSlots
  rw [hlive, valueExtent_of_not_cached hinline h]
  rfl

theorem tableSlots_of_cached {owner : TypeName} {fields : List Resolved.Field} (index : Nat)
    (h : ∀ f ∈ fields, f.isDeprecated = false → f.isInline = true →
      f.type.name ∈ cache.layouts.keys) :
    cache.tableSlots owner index fields =
      .ok (((fields.zipIdx index).filter fun entry => !entry.1.isDeprecated).flatMap fun entry =>
        entry.1.slots cache.discriminant cache.layoutD entry.2) := by
  induction fields generalizing index with
  | nil => rfl
  | cons f rest ih =>
    rw [List.forall_mem_cons] at h
    rw [tableSlots, fieldSlots_of_cached h.1, ih (index + 1) h.2, List.zipIdx_cons,
      List.filter_cons]
    cases f.isDeprecated <;> rfl

theorem tableSlots_of_not_cached (owner : TypeName) {fields : List Resolved.Field} (index : Nat)
    {f : Resolved.Field} (hf : f ∈ fields) (hlive : f.isDeprecated = false)
    (hinline : f.isInline = true) (h : f.type.name ∉ cache.layouts.keys) :
    ∃ fault, cache.tableSlots owner index fields = .error fault := by
  induction fields generalizing index with
  | nil => cases hf
  | cons g rest ih =>
    rw [tableSlots]
    rcases List.mem_cons.mp hf with rfl | hf
    · exact ⟨_, by rw [fieldSlots_of_not_cached hlive hinline h]; rfl⟩
    · obtain ⟨fault, hrest⟩ := ih (index + 1) hf
      cases cache.fieldSlots owner index g with
      | error fault => exact ⟨fault, rfl⟩
      | ok slots => exact ⟨fault, by rw [hrest]; rfl⟩

/-- With the types held in place cached, a layout is computed from theirs. -/
theorem layoutOf_of_ready (h : cache.Ready d) : cache.layoutOf d = .ok (cache.computed d) := by
  cases d with
  | enum e => rfl
  | union u => rfl
  | struct s =>
    have hfields : ∀ f ∈ s.fields,
        cache.valueExtent s.name f = .ok (f.slot cache.layoutD) := fun f hf =>
      valueExtent_of_cached fun hinline => h f (List.mem_filter.mpr ⟨hf, hinline⟩)
    rw [layoutOf, mapM_eq_ok_map hfields]
    rfl
  | table t =>
    have hfields : ∀ f ∈ t.fields, f.isDeprecated = false → f.isInline = true →
        f.type.name ∈ cache.layouts.keys := fun f hf hlive hinline =>
      h f (List.mem_filter.mpr ⟨hf, by simp [hlive, hinline]⟩)
    rw [layoutOf, tableSlots_of_cached 0 hfields]
    rfl

/-- Without one of them no layout is computed. -/
theorem layoutOf_of_not_ready (h : ¬ cache.Ready d) :
    ∃ fault, cache.layoutOf d = .error fault := by
  simp only [Ready, not_forall] at h
  obtain ⟨f, hf, hmissing⟩ := h
  cases d with
  | enum e => cases hf
  | union u => cases hf
  | struct s =>
    obtain ⟨hmem, hinline⟩ := List.mem_filter.mp hf
    have hfails : ∃ fault, s.fields.mapM (cache.valueExtent s.name) = .error fault := by
      rw [exists_error_iff, exists_mapM_eq_ok_iff]
      intro hok
      obtain ⟨e, he⟩ := hok f hmem
      rw [valueExtent_of_not_cached hinline hmissing] at he
      cases he
    obtain ⟨fault, hfault⟩ := hfails
    exact ⟨fault, by rw [layoutOf, hfault]; rfl⟩
  | table t =>
    obtain ⟨hmem, hneeded⟩ := List.mem_filter.mp hf
    simp only [Bool.and_eq_true, Bool.not_eq_true'] at hneeded
    obtain ⟨fault, hfault⟩ :=
      tableSlots_of_not_cached t.name 0 hmem hneeded.1 hneeded.2 hmissing
    exact ⟨fault, by rw [layoutOf, hfault]; rfl⟩

/-! ## One call -/

/-- A call answers from the cache, or computes a layout and keeps it, or fails and keeps nothing. -/
theorem run_resolve : (resolve d).run cache =
    match cache.layouts.get? d.name with
    | some layout => .ok layout cache
    | none =>
      match cache.layoutOf d with
      | .ok layout => .ok layout { cache with layouts := cache.layouts.insert d.name layout }
      | .error fault => .error fault cache := by
  cases hcached : cache.layouts.get? d.name with
  | some layout =>
    have hcontains : cache.layouts.contains d.name = true :=
      OrderedMap.contains_iff.mpr (OrderedMap.mem_keys_iff.mpr ⟨layout, hcached⟩)
    simp [resolve, hcontains, hcached]
  | none =>
    have hcontains : cache.layouts.contains d.name = false := by
      rw [Bool.eq_false_iff, ne_eq, OrderedMap.contains_iff]
      exact OrderedMap.get?_eq_none_iff.mp hcached
    cases hlayout : cache.layoutOf d with
    | ok layout => simp [resolve, hcontains, hlayout, ofExcept]
    | error fault =>
      simp only [resolve, EStateM.run_bind, EStateM.run_get, hcontains, Bool.false_eq_true,
        ↓reduceIte, hlayout]
      rfl

/-- What a successful call does: it answers from the cache and leaves it as it is, or it computes a
layout and keeps it. -/
theorem run_resolve_eq_ok_iff {layout : Layout} {after : LayoutCache} :
    (resolve d).run cache = .ok layout after ↔
      (cache.layouts.get? d.name = some layout ∧ after = cache) ∨
      (cache.layouts.get? d.name = none ∧ cache.Ready d ∧ layout = cache.computed d ∧
        after = { cache with layouts := cache.layouts.insert d.name layout }) := by
  rw [run_resolve]
  cases hcached : cache.layouts.get? d.name with
  | some known => simp [eq_comm]
  | none =>
    by_cases hready : cache.Ready d
    · rw [layoutOf_of_ready hready]
      simp only [EStateM.Result.ok.injEq, hready]
      constructor
      · rintro ⟨rfl, rfl⟩
        exact .inr ⟨trivial, trivial, rfl, rfl⟩
      · rintro (⟨hsome, _⟩ | ⟨_, _, rfl, rfl⟩)
        · cases hsome
        · exact ⟨rfl, rfl⟩
    · obtain ⟨fault, hfault⟩ := layoutOf_of_not_ready hready
      simp [hfault, hready]

/-- A call fails exactly when it has to compute a layout too early. -/
theorem run_resolve_error_iff :
    (∃ fault after, (resolve d).run cache = .error fault after) ↔
      cache.layouts.get? d.name = none ∧ ¬ cache.Ready d := by
  rw [run_resolve]
  cases hcached : cache.layouts.get? d.name with
  | some known => simp
  | none =>
    by_cases hready : cache.Ready d
    · simp [layoutOf_of_ready hready, hready]
    · obtain ⟨fault, hfault⟩ := layoutOf_of_not_ready hready
      simp [hfault, hready]

/-- A call that fails keeps nothing. -/
theorem eq_of_run_resolve_eq_error {fault : InternalFault} {after : LayoutCache}
    (h : (resolve d).run cache = .error fault after) : after = cache := by
  rw [run_resolve] at h
  split at h
  · cases h
  · split at h <;> cases h
    rfl

/-- A call for a declaration whose inline types are cached succeeds, and its name is cached then. -/
theorem exists_run_resolve_of_ready (h : cache.Ready d) :
    ∃ layout after, (resolve d).run cache = .ok layout after ∧
      ∀ name, name ∈ after.layouts.keys ↔ name = d.name ∨ name ∈ cache.layouts.keys := by
  cases hcached : cache.layouts.get? d.name with
  | some layout =>
    refine ⟨layout, cache, run_resolve_eq_ok_iff.mpr (.inl ⟨hcached, rfl⟩), fun name => ?_⟩
    have hmem : d.name ∈ cache.layouts.keys := OrderedMap.mem_keys_iff.mpr ⟨layout, hcached⟩
    exact (or_iff_right_of_imp fun heq => heq ▸ hmem).symm
  | none =>
    exact ⟨_, _, run_resolve_eq_ok_iff.mpr (.inr ⟨hcached, h, rfl, rfl⟩),
      fun _ => OrderedMap.mem_keys_insert⟩

/-! ## Calls along an order -/

variable {declarations : OrderedMap TypeName Declaration}

section Steps

variable {name : TypeName} {rest : List TypeName} {layout : Layout} {fault : InternalFault}
  {next : LayoutCache}

/-- A step along an order calls for one declaration and goes on. -/
theorem run_resolveAll_of_ok (hd : declarations.get? name = some d)
    (hcall : (resolve d).run cache = .ok layout next) :
    (resolveAll declarations (name :: rest)).run cache =
      (resolveAll declarations rest).run next := by
  simp only [resolveAll, hd, EStateM.run_bind, hcall]

theorem run_resolveAll_of_error (hd : declarations.get? name = some d)
    (hcall : (resolve d).run cache = .error fault next) :
    (resolveAll declarations (name :: rest)).run cache = .error fault next := by
  simp only [resolveAll, hd, EStateM.run_bind, hcall]

theorem run_resolveAll_of_none (hd : declarations.get? name = none) :
    (resolveAll declarations (name :: rest)).run cache = .error (.neverDeclared name) cache := by
  simp only [resolveAll, hd]
  rfl

end Steps

/-- An order that puts inline types in front can be laid out to its end. -/
theorem exists_run_resolveAll {order : List TypeName}
    (h : ∀ before name after, order = before ++ name :: after →
      ∃ d, declarations.get? name = some d ∧ d.name = name ∧
        ∀ f ∈ d.inlineFields, f.type.name ∈ cache.layouts.keys ∨ f.type.name ∈ before) :
    ∃ last, (resolveAll declarations order).run cache = .ok () last ∧
      ∀ name, name ∈ last.layouts.keys ↔ name ∈ cache.layouts.keys ∨ name ∈ order := by
  induction order generalizing cache with
  | nil => exact ⟨cache, rfl, by simp⟩
  | cons name rest ih =>
    obtain ⟨d, hd, hname, hinline⟩ := h [] name rest rfl
    have hready : cache.Ready d := fun f hf => by simpa using hinline f hf
    obtain ⟨layout, next, hcall, hkeys⟩ := exists_run_resolve_of_ready hready
    -- what stood in front of the rest is cached now
    have hrest : ∀ before name' after, rest = before ++ name' :: after →
        ∃ d, declarations.get? name' = some d ∧ d.name = name' ∧
          ∀ f ∈ d.inlineFields, f.type.name ∈ next.layouts.keys ∨ f.type.name ∈ before := by
      rintro before name' after rfl
      obtain ⟨d', hd', hname', hinline'⟩ := h (name :: before) name' after rfl
      refine ⟨d', hd', hname', fun f hf => ?_⟩
      rw [hkeys, hname]
      rcases hinline' f hf with hcached | hbefore
      · exact .inl (.inr hcached)
      · rcases List.mem_cons.mp hbefore with heq | hbefore
        · exact .inl (.inl heq)
        · exact .inr hbefore
    obtain ⟨last, hlast, hall⟩ := ih hrest
    refine ⟨last, ?_, fun other => ?_⟩
    · rw [run_resolveAll_of_ok hd hcall, hlast]
    · rw [hall, hkeys, hname, List.mem_cons, or_comm (a := other = name), or_assoc]

/-- The cache that a call leaves behind, whether it succeeds or fails. -/
def afterCall (cache : LayoutCache) (d : Declaration) : LayoutCache :=
  match (resolve d).run cache with
  | .ok _ after => after
  | .error _ after => after

/-- The cache after calls in a row. -/
def afterCalls (cache : LayoutCache) (calls : List Declaration) : LayoutCache :=
  calls.foldl afterCall cache

/-! ## Soundness -/

/-- Declarations that force only alignments which divide the number of words. -/
def AlignsToWords (declared : TypeName → Option Declaration) : Prop :=
  ∀ name s bytes, declared name = some (.struct s) → s.forceAlign = some bytes →
    bytes ∣ Wire.wordCount

variable {declared : TypeName → Option Declaration} {discriminant : Primitive}

/-- Then every alignment divides it. -/
theorem AlignsToWords.alignment_dvd (h : AlignsToWords declared) {name : TypeName}
    (hd : declared name = some d) {layout : Layout}
    (hlayout : ReferenceLayout declared discriminant d layout) :
    layout.alignment ∣ Wire.wordCount := by
  refine hlayout.alignment_induction (P := (· ∣ Wire.wordCount)) (fun p => ?_) h hd
  cases p <;> decide

/-- Every cached layout is, in machine words, the reference layout of the declaration with its
name. -/
structure Sound (declared : TypeName → Option Declaration) (discriminant : Primitive)
    (cache : LayoutCache) : Prop where
  discriminant_eq : cache.discriminant = discriminant
  reference : ∀ name layout, cache.layouts.get? name = some layout →
    ∃ d, declared name = some d ∧ WordLayout declared discriminant d layout

theorem Sound.empty : Sound declared discriminant ⟨discriminant, {}⟩ :=
  ⟨rfl, fun name layout h => by simp at h⟩

/-- The exact layouts behind what a declaration takes from a sound cache. -/
theorem Sound.exists_inner (h : Sound declared discriminant cache) (hready : cache.Ready d) :
    ∃ (type : TypeName → Declaration) (inner : TypeName → Layout), ∀ f ∈ d.inlineFields,
      declared f.type.name = some (type f.type.name) ∧
      ReferenceLayout declared discriminant (type f.type.name) (inner f.type.name) ∧
      cache.layoutD f.type.name = (inner f.type.name).wrap := by
  -- for names that are not cached any layout will do
  have hknown : ∀ name, ∃ type exact, name ∈ cache.layouts.keys → declared name = some type ∧
      ReferenceLayout declared discriminant type exact ∧ cache.layoutD name = exact.wrap := by
    intro name
    by_cases hname : name ∈ cache.layouts.keys
    · obtain ⟨layout, hlayout⟩ := OrderedMap.mem_keys_iff.mp hname
      obtain ⟨type, htype, exact, hexact, rfl⟩ := h.reference name layout hlayout
      exact ⟨type, exact, fun _ => ⟨htype, hexact, by rw [layoutD, hlayout, Option.getD_some]⟩⟩
    · exact ⟨d, cache.layoutD name, fun hmem => absurd hmem hname⟩
  choose type inner hknown using hknown
  exact ⟨type, inner, fun f hf => hknown _ (hready f hf)⟩

/-- Over sound entries, the computed layout is the reference layout in machine words. -/
theorem Sound.computed (h : Sound declared discriminant cache) (hwords : AlignsToWords declared)
    (hdiscriminant : discriminant.isDiscriminant = true) {name : TypeName}
    (hd : declared name = some d) (hready : cache.Ready d) :
    WordLayout declared discriminant d (cache.computed d) := by
  obtain ⟨type, inner, hinner⟩ := h.exists_inner hready
  have hdvd : ∀ f ∈ d.inlineFields, (inner f.type.name).alignment ∣ Wire.wordCount :=
    fun f hf => hwords.alignment_dvd (hinner f hf).1 (hinner f hf).2.1
  obtain ⟨rfl, _⟩ := h
  cases d with
  | enum e => exact .enum e
  | union u => exact .union u
  | struct s =>
    obtain ⟨exact, hexact⟩ := exists_isStructLayout
      (fun e he => Nat.pos_of_dvd_of_pos (Resolved.alignment_dvd_of_mem_slots hdvd e he) (by decide))
      s.forceAlign
    refine ⟨exact, .struct inner type (fun f hf => (hinner f hf).1)
      (fun f hf => (hinner f hf).2.1) hexact, ?_⟩
    exact (hexact.ofStruct_slots hdvd (fun bytes => hwords name s bytes hd)
      fun f hf => (hinner f hf).2.2)
  | table t =>
    have hslots := Resolved.alignment_dvd_of_mem_liveSlots hdiscriminant hdvd
    obtain ⟨exact, hexact⟩ := exists_isTableLayout (Resolved.tag_alignment_le hdiscriminant)
      fun slot hslot => Nat.pos_of_dvd_of_pos (hslots slot hslot) (by decide)
    refine ⟨exact, .table inner type (fun f hf => (hinner f hf).1)
      (fun f hf => (hinner f hf).2.1) hexact, ?_⟩
    exact hexact.ofTable_slots hdiscriminant hdvd fun f hf => (hinner f hf).2.2

section Calls

variable (h : Sound declared discriminant cache) (hwords : AlignsToWords declared)
  (hdiscriminant : discriminant.isDiscriminant = true)

include h hwords hdiscriminant

/-- A successful call gives the reference layout in machine words and keeps the cache sound. -/
theorem Sound.run_resolve (hd : declared d.name = some d) {layout : Layout} {after : LayoutCache}
    (hcall : (resolve d).run cache = .ok layout after) :
    WordLayout declared discriminant d layout ∧ Sound declared discriminant after := by
  rcases run_resolve_eq_ok_iff.mp hcall with ⟨hcached, rfl⟩ | ⟨_, hready, rfl, rfl⟩
  -- the entry was kept under the name of the same declaration
  · obtain ⟨d', hd', hreference⟩ := h.reference _ _ hcached
    cases hd.symm.trans hd'
    exact ⟨hreference, h⟩
  · have hreference := h.computed hwords hdiscriminant hd hready
    refine ⟨hreference, h.discriminant_eq, fun name layout hname => ?_⟩
    rw [OrderedMap.get?_insert] at hname
    split at hname
    · rename_i heq
      exact ⟨d, heq ▸ hd, Option.some.inj hname ▸ hreference⟩
    · exact h.reference name layout hname

theorem Sound.afterCall (hd : declared d.name = some d) :
    Sound declared discriminant (cache.afterCall d) := by
  unfold LayoutCache.afterCall
  split
  · rename_i hcall
    exact (h.run_resolve hwords hdiscriminant hd hcall).2
  · rename_i hcall
    exact eq_of_run_resolve_eq_error hcall ▸ h

/-- However declarations are called for, the cache stays sound. -/
theorem Sound.afterCalls {calls : List Declaration}
    (hcalls : ∀ d ∈ calls, declared d.name = some d) :
    Sound declared discriminant (cache.afterCalls calls) := by
  induction calls generalizing cache with
  | nil => exact h
  | cons d rest ih =>
    rw [List.forall_mem_cons] at hcalls
    exact ih (h.afterCall hwords hdiscriminant hcalls.1) hcalls.2

end Calls

/-- The cache stays sound along an order. -/
theorem Sound.run_resolveAll {last : LayoutCache}
    (h : Sound declarations.get? discriminant cache) (hwords : AlignsToWords declarations.get?)
    (hdiscriminant : discriminant.isDiscriminant = true)
    (hown : ∀ entry ∈ declarations.entries, entry.2.name = entry.1) {order : List TypeName}
    (hrun : (resolveAll declarations order).run cache = .ok () last) :
    Sound declarations.get? discriminant last := by
  induction order generalizing cache with
  | nil =>
    cases hrun
    exact h
  | cons name rest ih =>
    cases hd : declarations.get? name with
    | none =>
      rw [run_resolveAll_of_none hd] at hrun
      cases hrun
    | some d =>
      have hname : d.name = name := hown _ (OrderedMap.get?_eq_some_iff.mp hd)
      cases hcall : (resolve d).run cache with
      | ok layout next =>
        rw [run_resolveAll_of_ok hd hcall] at hrun
        exact ih (h.run_resolve hwords hdiscriminant (hname.symm ▸ hd) hcall).2 hrun
      | error fault after =>
        rw [run_resolveAll_of_error hd hcall] at hrun
        cases hrun

end LayoutCache

end WireSchema
