/-
WireSchema.Proofs.Order.Depth — the emission order sorts by dependency depth.

`IsDepth` says what the depth of a declaration is: nothing for one without declared dependencies,
else one more than its deepest dependency. The rounds take the layers of equal depth one after the
other, in declaration order inside a layer, which is what a stable sort by depth does
(`mergeSort_eq_flatMap_filter`). Only an acyclic map has a depth; a run that succeeds shows that
there is one.

Main statement: `establish_eq_sort_by_depth`.
-/
import Mathlib.Data.List.Nodup
import Mathlib.Data.Nat.Find
import WireSchema.Proofs.Order.Rounds
import WireSchema.Proofs.Outcome

namespace WireSchema.Order

open WireSchema.Resolved (Declaration)

/-! ## Stable sorting by a number -/

section StableSort

variable {α : Type} {key : α → Nat}

/-- Lists sorted by a key are equal when they agree on every single key. -/
theorem eq_of_filter_key_eq {first second : List α}
    (hfirst : first.Pairwise fun a b => key a ≤ key b)
    (hsecond : second.Pairwise fun a b => key a ≤ key b)
    (h : ∀ k, first.filter (key · == k) = second.filter (key · == k)) : first = second := by
  have hmem : ∀ a, a ∈ first ↔ a ∈ second := by
    intro a
    have := congrArg (a ∈ ·) (h (key a))
    simpa using this
  induction first generalizing second with
  | nil =>
    cases second with
    | nil => rfl
    | cons b rest => simpa using hmem b
  | cons a rest ih =>
    cases second with
    | nil => simpa using hmem a
    | cons b rest' =>
      rw [List.pairwise_cons] at hfirst hsecond
      have hab : key a ≤ key b := by
        rcases List.mem_cons.mp ((hmem b).mpr List.mem_cons_self) with rfl | hb
        · exact Nat.le_refl _
        · exact hfirst.1 b hb
      have hba : key b ≤ key a := by
        rcases List.mem_cons.mp ((hmem a).mp List.mem_cons_self) with rfl | ha
        · exact Nat.le_refl _
        · exact hsecond.1 a ha
      have hkey : key b = key a := Nat.le_antisymm hba hab
      -- the heads are the first elements of the least key
      have hhead := h (key a)
      simp only [List.filter_cons, hkey, beq_self_eq_true, if_true, List.cons.injEq] at hhead
      obtain ⟨rfl, _⟩ := hhead
      have hrest : ∀ k, rest.filter (key · == k) = rest'.filter (key · == k) := by
        intro k
        have hk := h k
        simp only [List.filter_cons] at hk
        split at hk
        · exact (List.cons.inj hk).2
        · exact hk
      have hmem' : ∀ x, x ∈ rest ↔ x ∈ rest' := by
        intro x
        have := congrArg (x ∈ ·) (hrest (key x))
        simpa using this
      rw [ih hfirst.2 hsecond.2 hrest hmem']

theorem le_key_trans (a b c : α) (hab : decide (key a ≤ key b) = true)
    (hbc : decide (key b ≤ key c) = true) : decide (key a ≤ key c) = true := by
  simp only [decide_eq_true_eq] at *
  exact Nat.le_trans hab hbc

theorem le_key_total (a b : α) : (decide (key a ≤ key b) || decide (key b ≤ key a)) = true := by
  simp only [Bool.or_eq_true, decide_eq_true_eq]
  exact Nat.le_total _ _

theorem pairwise_mergeSort_key (l : List α) :
    (l.mergeSort fun a b => decide (key a ≤ key b)).Pairwise fun a b => key a ≤ key b := by
  simpa only [decide_eq_true_eq] using List.pairwise_mergeSort le_key_trans le_key_total l

/-- Sorting keeps the elements of one key, in order. -/
theorem filter_mergeSort_key (l : List α) (k : Nat) :
    (l.mergeSort fun a b => decide (key a ≤ key b)).filter (key · == k) =
      l.filter (key · == k) := by
  have hsorted : (l.filter (key · == k)).Pairwise fun a b => decide (key a ≤ key b) = true := by
    refine List.pairwise_of_forall_mem_list fun a ha b hb => ?_
    have hka : key a = k := by simpa using (List.mem_filter.mp ha).2
    have hkb : key b = k := by simpa using (List.mem_filter.mp hb).2
    simp [hka, hkb]
  have hsub := (List.sublist_mergeSort le_key_trans le_key_total hsorted
    List.filter_sublist).filter (key · == k)
  simp only [List.filter_filter, Bool.and_self] at hsub
  have hperm := (List.mergeSort_perm l fun a b => decide (key a ≤ key b)).filter (key · == k)
  exact (hsub.eq_of_length hperm.length_eq.symm).symm

/-- Taking the elements of each key in turn leaves those of one key as they are. -/
theorem filter_flatMap_key (l : List α) (count k : Nat) :
    ((List.range count).flatMap fun j => l.filter (key · == j)).filter (key · == k) =
      if k < count then l.filter (key · == k) else [] := by
  induction count with
  | zero => simp
  | succ n ih =>
    rw [List.range_succ, List.flatMap_append, List.filter_append, ih]
    simp only [List.flatMap_cons, List.flatMap_nil, List.append_nil, List.filter_filter]
    rcases Nat.lt_trichotomy k n with hlt | rfl | hgt
    · have hempty : l.filter (fun a => key a == k && key a == n) = [] := by
        simp only [List.filter_eq_nil_iff, Bool.and_eq_true, beq_iff_eq, not_and]
        omega
      rw [if_pos hlt, if_pos (by omega), hempty, List.append_nil]
    · simp
    · have hempty : l.filter (fun a => key a == k && key a == n) = [] := by
        simp only [List.filter_eq_nil_iff, Bool.and_eq_true, beq_iff_eq, not_and]
        omega
      rw [if_neg (by omega), if_neg (by omega), hempty, List.append_nil]

/-- A stable sort takes the elements of each key in turn. -/
theorem mergeSort_eq_flatMap_filter (l : List α) {count : Nat} (h : ∀ a ∈ l, key a < count) :
    (l.mergeSort fun a b => decide (key a ≤ key b)) =
      (List.range count).flatMap fun k => l.filter (key · == k) := by
  apply eq_of_filter_key_eq (pairwise_mergeSort_key l)
  · rw [List.pairwise_flatMap]
    constructor
    · intro k _
      refine List.pairwise_of_forall_mem_list fun a ha b hb => ?_
      have hka : key a = k := by simpa using (List.mem_filter.mp ha).2
      have hkb : key b = k := by simpa using (List.mem_filter.mp hb).2
      omega
    · refine List.pairwise_lt_range.imp fun {j k} hjk a ha b hb => ?_
      have hka : key a = j := by simpa using (List.mem_filter.mp ha).2
      have hkb : key b = k := by simpa using (List.mem_filter.mp hb).2
      omega
  · intro k
    rw [filter_mergeSort_key, filter_flatMap_key]
    split
    · rfl
    · rename_i hk
      simp only [List.filter_eq_nil_iff, beq_iff_eq]
      intro a ha hka
      exact hk (hka ▸ h a ha)

/-- In a sorted list a lesser key stands before a greater one. -/
theorem idxOf_lt_idxOf_of_key [DecidableEq α] {l : List α}
    (hsorted : l.Pairwise fun a b => key a ≤ key b) {a b : α} (ha : a ∈ l) (hb : b ∈ l)
    (hlt : key a < key b) : l.idxOf a < l.idxOf b := by
  by_contra hnot
  have hle : l.idxOf b ≤ l.idxOf a := Nat.le_of_not_lt hnot
  have hkey : key b ≤ key a := by
    rcases Nat.lt_or_eq_of_le hle with hidx | hidx
    · have := List.pairwise_iff_getElem.mp hsorted _ _ (List.idxOf_lt_length_of_mem hb)
        (List.idxOf_lt_length_of_mem ha) hidx
      simpa using this
    · have hba : b = a := (List.idxOf_inj hb).mp hidx
      exact Nat.le_of_eq (congrArg key hba)
  omega

end StableSort

/-! ## Depth -/

variable {declarations : OrderedMap TypeName Declaration}

/-- The dependency depths of declarations: nothing without declared dependencies, else one more
than the depth of a deepest declared dependency. -/
structure IsDepth (declarations : OrderedMap TypeName Declaration) (depth : TypeName → Nat) :
    Prop where
  leaf : ∀ name ∈ declarations.keys, (∀ dep, ¬ DependsOn declarations name dep) → depth name = 0
  step : ∀ name ∈ declarations.keys, (∃ dep, DependsOn declarations name dep) →
    ∃ deepest, DependsOn declarations name deepest ∧
      (∀ dep, DependsOn declarations name dep → depth dep ≤ depth deepest) ∧
      depth name = 1 + depth deepest

theorem DependsOn.mem_keys {name dep : TypeName} (h : DependsOn declarations name dep) :
    name ∈ declarations.keys ∧ dep ∈ declarations.keys := by
  obtain ⟨d, hd, _, hdep⟩ := h
  exact ⟨OrderedMap.mem_keys_iff.mpr ⟨d, hd⟩, hdep⟩

/-- A declaration is deeper than `k` when a dependency is `k` deep. -/
theorem IsDepth.lt_iff {depth : TypeName → Nat} (h : IsDepth declarations depth)
    {name : TypeName} (hname : name ∈ declarations.keys) {k : Nat} :
    k < depth name ↔ ∃ dep, DependsOn declarations name dep ∧ k ≤ depth dep := by
  by_cases hdeps : ∃ dep, DependsOn declarations name dep
  · obtain ⟨deepest, hdeepest, hupper, hdepth⟩ := h.step name hname hdeps
    constructor
    · intro hk
      exact ⟨deepest, hdeepest, by omega⟩
    · rintro ⟨dep, hdep, hk⟩
      have := hupper dep hdep
      omega
  · have hzero := h.leaf name hname fun dep hdep => hdeps ⟨dep, hdep⟩
    constructor
    · intro hk
      omega
    · rintro ⟨dep, hdep, _⟩
      exact absurd ⟨dep, hdep⟩ hdeps

/-- Depth is the length of the longest chain of dependencies. -/
theorem isDepth_iff {depth : TypeName → Nat} :
    IsDepth declarations depth ↔ ∀ name ∈ declarations.keys, ∀ k,
      isDeep (graph declarations) k name = true ↔ k ≤ depth name := by
  constructor
  · intro h name hname k
    induction k generalizing name with
    | zero => simp [isDeep]
    | succ k ih =>
      rw [isDeep_graph_succ_iff, Nat.succ_le_iff, h.lt_iff hname]
      constructor
      · rintro ⟨dep, hdep, hdeep⟩
        exact ⟨dep, hdep, (ih dep hdep.mem_keys.2).mp hdeep⟩
      · rintro ⟨dep, hdep, hk⟩
        exact ⟨dep, hdep, (ih dep hdep.mem_keys.2).mpr hk⟩
  · intro h
    refine ⟨?_, ?_⟩
    · intro name hname hleaf
      by_contra hpos
      have hdeep := (h name hname 1).mpr (Nat.pos_of_ne_zero hpos)
      obtain ⟨dep, hdep, _⟩ := isDeep_graph_succ_iff.mp hdeep
      exact hleaf dep hdep
    · rintro name hname ⟨dep, hdep⟩
      have hone : 1 ≤ depth name :=
        (h name hname 1).mp (isDeep_graph_succ_iff.mpr ⟨dep, hdep, rfl⟩)
      -- the dependency a longest chain starts with is a deepest one
      obtain ⟨k, hk⟩ : ∃ k, depth name = k + 1 := ⟨depth name - 1, by omega⟩
      obtain ⟨deepest, hdeepest, hlong⟩ :=
        isDeep_graph_succ_iff.mp ((h name hname (k + 1)).mpr (Nat.le_of_eq hk.symm))
      have hlower : k ≤ depth deepest := (h deepest hdeepest.mem_keys.2 k).mp hlong
      have hupper : ∀ other, DependsOn declarations name other → depth other ≤ k := by
        intro other hother
        have hself := (h other hother.mem_keys.2 (depth other)).mpr (Nat.le_refl _)
        have := (h name hname _).mp (isDeep_graph_succ_iff.mpr ⟨other, hother, hself⟩)
        omega
      have hdepth : depth deepest = k := Nat.le_antisymm (hupper deepest hdeepest) hlower
      exact ⟨deepest, hdeepest, fun other hother => hdepth ▸ hupper other hother, by omega⟩

theorem IsDepth.unique {depth other : TypeName → Nat} (h : IsDepth declarations depth)
    (hother : IsDepth declarations other) {name : TypeName} (hname : name ∈ declarations.keys) :
    other name = depth name := by
  have hle := fun k => ((isDepth_iff.mp hother name hname k).symm.trans
    (isDepth_iff.mp h name hname k))
  exact Nat.le_antisymm ((hle _).mp (Nat.le_refl _)) ((hle _).mpr (Nat.le_refl _))

/-- Chains that end somewhere give every declaration a depth. -/
theorem exists_isDepth {count : Nat}
    (h : ∀ name ∈ declarations.keys, isDeep (graph declarations) count name = false) :
    ∃ depth, IsDepth declarations depth := by
  refine ⟨fun name => Nat.findGreatest (fun k => isDeep (graph declarations) k name = true) count,
    isDepth_iff.mpr fun name hname k => ?_⟩
  constructor
  · intro hdeep
    have hlt : k < count := by
      by_contra hle
      have := isDeep_of_le (Nat.le_of_not_lt hle) hdeep
      rw [h name hname] at this
      cases this
    exact Nat.le_findGreatest (Nat.le_of_lt hlt) hdeep
  · intro hk
    have hspec : isDeep (graph declarations) (Nat.findGreatest
        (fun k => isDeep (graph declarations) k name = true) count) name = true :=
      Nat.findGreatest_spec (P := fun k => isDeep (graph declarations) k name = true)
        (Nat.zero_le count) rfl
    exact isDeep_of_le hk hspec

/-- With depths at hand, a layer is what has one depth. -/
theorem layer_eq_filter_depth {depth : TypeName → Nat} (h : IsDepth declarations depth) (k : Nat) :
    layer (graph declarations) k = (composites declarations).filter (depth · == k) := by
  rw [layer, names_graph]
  refine List.filter_congr fun name hname => ?_
  obtain ⟨d, hd, _⟩ := mem_composites_iff.mp hname
  have hdeep := isDepth_iff.mp h name (OrderedMap.mem_keys_iff.mpr ⟨d, hd⟩)
  rw [Bool.eq_iff_iff]
  simp only [Bool.and_eq_true, Bool.not_eq_true', ← Bool.not_eq_true, hdeep, beq_iff_eq]
  omega

/-! ## The order -/

/-- The names of the enums, in order. -/
def enumKeys (declarations : OrderedMap TypeName Declaration) : List TypeName :=
  (declarations.entries.filter fun entry => entry.2.isEnum).map (·.1)

theorem mem_enumKeys_iff {name : TypeName} :
    name ∈ enumKeys declarations ↔ ∃ d, declarations.get? name = some d ∧ d.isEnum = true := by
  simp only [enumKeys, List.mem_map, List.mem_filter, OrderedMap.get?_eq_some_iff]
  constructor
  · rintro ⟨⟨name, d⟩, ⟨hmem, henum⟩, rfl⟩
    exact ⟨d, hmem, henum⟩
  · rintro ⟨d, hmem, henum⟩
    exact ⟨(name, d), ⟨hmem, henum⟩, rfl⟩

theorem enums_eq_enumKeys (hname : ∀ entry ∈ declarations.entries, entry.2.name = entry.1) :
    enums declarations = enumKeys declarations := by
  rw [enums, enumKeys, OrderedMap.values, List.filter_map, List.map_map]
  apply List.map_congr_left
  intro entry hentry
  exact hname entry (List.mem_filter.mp hentry).1

theorem enumKeys_append_composites_perm (declarations : OrderedMap TypeName Declaration) :
    (enumKeys declarations ++ composites declarations).Perm declarations.keys := by
  rw [enumKeys, composites, ← List.map_append, OrderedMap.keys]
  exact (List.filter_append_perm _ _).map _

/-- An order holds every key once, whatever the declarations depend on. -/
theorem perm_keys_of_establish (hname : ∀ entry ∈ declarations.entries, entry.2.name = entry.1)
    {order : List TypeName} (h : establish declarations = .ok order) :
    order.Perm declarations.keys := by
  unfold establish at h
  split at h
  · cases h
  · rename_i taken htaken
    cases h
    have hperm := perm_names_of_rounds htaken
    rw [names_graph] at hperm
    rw [enums_eq_enumKeys hname]
    exact (hperm.append_left _).trans (enumKeys_append_composites_perm declarations)

/-- Enums have depth nothing. -/
theorem IsDepth.enum_eq_zero {depth : TypeName → Nat} (h : IsDepth declarations depth)
    {name : TypeName} (hname : name ∈ enumKeys declarations) : depth name = 0 := by
  obtain ⟨d, hd, henum⟩ := mem_enumKeys_iff.mp hname
  refine h.leaf name (OrderedMap.mem_keys_iff.mpr ⟨d, hd⟩) fun dep hdep => ?_
  rw [hdep.isEnum_eq_false hd] at henum
  cases henum

/-- An order exists only if every declaration has a depth, and it is the sorted one. -/
theorem exists_depth_of_establish (hname : ∀ entry ∈ declarations.entries, entry.2.name = entry.1)
    (hfree : EnumFree declarations) {order : List TypeName}
    (h : establish declarations = .ok order) :
    ∃ depth, IsDepth declarations depth ∧
      order = enumKeys declarations ++
        (composites declarations).mergeSort fun a b => decide (depth a ≤ depth b) := by
  rw [establish] at h
  cases hrun : rounds (graph declarations) with
  | error left => rw [hrun] at h; cases h
  | ok taken =>
    rw [hrun] at h
    obtain rfl := Except.ok.inj h
    obtain ⟨count, hlast, rfl⟩ := rounds_eq_ok (closed_graph hfree) hrun
    rw [names_graph] at hlast
    have hbound : ∀ name ∈ declarations.keys,
        isDeep (graph declarations) (count + 1) name = false := by
      intro name hkey
      cases hdeep : isDeep (graph declarations) (count + 1) name with
      | false => rfl
      | true =>
        -- a name with a dependency is no enum, so the run has taken it
        obtain ⟨dep, hdep, _⟩ := isDeep_graph_succ_iff.mp hdeep
        obtain ⟨d, hd⟩ := OrderedMap.mem_keys_iff.mp hkey
        have hmem := mem_composites_iff.mpr ⟨d, hd, hdep.isEnum_eq_false hd⟩
        have := isDeep_of_succ hdeep
        rw [hlast name hmem] at this
        cases this
    obtain ⟨depth, hdepth⟩ := exists_isDepth hbound
    refine ⟨depth, hdepth, ?_⟩
    have hlt : ∀ name ∈ composites declarations, depth name < count := by
      intro name hmem
      obtain ⟨d, hd, _⟩ := mem_composites_iff.mp hmem
      have hdeep := isDepth_iff.mp hdepth name (OrderedMap.mem_keys_iff.mpr ⟨d, hd⟩) count
      rw [hlast name hmem] at hdeep
      exact Nat.lt_of_not_le fun hle => Bool.false_ne_true (hdeep.mpr hle)
    rw [enums_eq_enumKeys hname, mergeSort_eq_flatMap_filter _ hlt,
      funext (layer_eq_filter_depth hdepth)]

/-- The order holds every key once. -/
theorem perm_keys_of_sort (declarations : OrderedMap TypeName Declaration)
    (depth : TypeName → Nat) :
    (enumKeys declarations ++ (composites declarations).mergeSort
      fun a b => decide (depth a ≤ depth b)).Perm declarations.keys :=
  ((List.mergeSort_perm _ _).append_left _).trans (enumKeys_append_composites_perm declarations)

/-- Enums in front, the whole order is sorted by depth. -/
theorem pairwise_depth_of_sort {depth : TypeName → Nat} (h : IsDepth declarations depth) :
    (enumKeys declarations ++ (composites declarations).mergeSort
      fun a b => decide (depth a ≤ depth b)).Pairwise fun a b => depth a ≤ depth b := by
  rw [List.pairwise_append]
  refine ⟨?_, pairwise_mergeSort_key _, ?_⟩
  · refine List.pairwise_of_forall_mem_list fun a ha b _ => ?_
    rw [h.enum_eq_zero ha]
    exact Nat.zero_le _
  · intro a ha b _
    rw [h.enum_eq_zero ha]
    exact Nat.zero_le _

/-- What does not stand behind an element of a list stands in front of it. -/
theorem mem_before_of_pairwise {α : Type} {R : α → α → Prop} {before after : List α} {a b : α}
    (hpairs : (before ++ b :: after).Pairwise R) (ha : a ∈ before ++ b :: after) (hne : a ≠ b)
    (hnot : ¬ R b a) : a ∈ before := by
  rw [List.mem_append, List.mem_cons] at ha
  rcases ha with ha | rfl | ha
  · exact ha
  · exact absurd rfl hne
  · rw [List.pairwise_append, List.pairwise_cons] at hpairs
    exact absurd (hpairs.2.1.1 a ha) hnot

/-- In an established order, the dependencies of a name stand in front of it. -/
theorem mem_before_of_dependsOn (hname : ∀ entry ∈ declarations.entries, entry.2.name = entry.1)
    (hfree : EnumFree declarations) {before after : List TypeName} {name dep : TypeName}
    (h : establish declarations = .ok (before ++ name :: after))
    (hdep : DependsOn declarations name dep) : dep ∈ before := by
  obtain ⟨depth, hdepth, horder⟩ := exists_depth_of_establish hname hfree h
  have hpairs := pairwise_depth_of_sort hdepth
  have hperm := perm_keys_of_sort declarations depth
  rw [← horder] at hpairs hperm
  have hlt : depth dep < depth name :=
    (hdepth.lt_iff hdep.mem_keys.1).mpr ⟨dep, hdep, Nat.le_refl _⟩
  refine mem_before_of_pairwise hpairs (hperm.mem_iff.mpr hdep.mem_keys.2) ?_ (by omega)
  rintro rfl
  omega

/-- In an established order, the enums stand in front of everything else. -/
theorem mem_before_of_enum (hname : ∀ entry ∈ declarations.entries, entry.2.name = entry.1)
    (hfree : EnumFree declarations) {before after : List TypeName} {name enum : TypeName}
    (h : establish declarations = .ok (before ++ name :: after))
    (henum : enum ∈ enumKeys declarations) (hother : name ∉ enumKeys declarations) :
    enum ∈ before := by
  obtain ⟨depth, hdepth, horder⟩ := exists_depth_of_establish hname hfree h
  have hpairs : (before ++ name :: after).Pairwise fun a b =>
      b ∈ enumKeys declarations → a ∈ enumKeys declarations := by
    rw [horder, List.pairwise_append]
    refine ⟨List.pairwise_of_forall_mem_list fun a ha _ _ _ => ha,
      List.pairwise_of_forall_mem_list fun a _ b hb henums => ?_, fun a ha _ _ _ => ha⟩
    rw [List.mem_mergeSort, mem_composites_iff] at hb
    obtain ⟨d, hd, hfalse⟩ := hb
    obtain ⟨d', hd', htrue⟩ := mem_enumKeys_iff.mp henums
    rw [Option.some.inj (hd.symm.trans hd'), htrue] at hfalse
    cases hfalse
  have hmem : enum ∈ before ++ name :: after := by
    rw [horder]
    exact List.mem_append_left _ henum
  refine mem_before_of_pairwise hpairs hmem ?_ fun himp => hother (himp henum)
  rintro rfl
  exact hother henum

/-- **Emission order.** Enums come first, in order; unions, structs and tables follow, sorted by
depth and by their order among equals. Every key occurs once, and every dependency stands before
what depends on it. -/
theorem establish_eq_sort_by_depth
    (hname : ∀ entry ∈ declarations.entries, entry.2.name = entry.1)
    (hfree : EnumFree declarations) {order : List TypeName}
    (h : establish declarations = .ok order) :
    ∃ depth, IsDepth declarations depth ∧
      (∀ other, IsDepth declarations other → ∀ name ∈ declarations.keys,
        other name = depth name) ∧
      order = enumKeys declarations ++
        (composites declarations).mergeSort (fun a b => decide (depth a ≤ depth b)) ∧
      order.Perm declarations.keys ∧ order.Nodup ∧
      ∀ name dep, DependsOn declarations name dep → order.idxOf dep < order.idxOf name := by
  obtain ⟨depth, hdepth, rfl⟩ := exists_depth_of_establish hname hfree h
  have hperm := perm_keys_of_sort declarations depth
  refine ⟨depth, hdepth, fun other hother name hkey => hdepth.unique hother hkey, rfl, hperm,
    hperm.nodup_iff.mpr declarations.nodup, fun name dep hdep => ?_⟩
  have hkeys := hdep.mem_keys
  exact idxOf_lt_idxOf_of_key (pairwise_depth_of_sort hdepth) (hperm.mem_iff.mpr hkeys.2)
    (hperm.mem_iff.mpr hkeys.1) ((hdepth.lt_iff hkeys.1).mpr ⟨dep, hdep, Nat.le_refl _⟩)

/-- Declarations of every kind, each before what it depends on. -/
def drawing : OrderedMap TypeName Declaration where
  entries :=
    [(⟨[], "Any"⟩, .union ⟨⟨[], "Any"⟩, [⟨[], "Line"⟩], []⟩),
     (⟨[], "Line"⟩, .table ⟨⟨[], "Line"⟩,
       [⟨"start", ⟨⟨[], "Point"⟩, .struct⟩, false, none, []⟩,
        ⟨"style", ⟨⟨[], "Style"⟩, .enum⟩, false, none, []⟩], [], none⟩),
     (⟨[], "Style"⟩, .enum ⟨⟨[], "Style"⟩, .byte, [⟨"Solid", 0⟩], []⟩),
     (⟨[], "Point"⟩, .struct ⟨⟨[], "Point"⟩,
       [⟨"x", ⟨⟨[], "float"⟩, .primitive .float⟩, false, none, []⟩], [], none⟩)]
  nodup := by decide

theorem establish_drawing :
    establish drawing = .ok [⟨[], "Style"⟩, ⟨[], "Point"⟩, ⟨[], "Line"⟩, ⟨[], "Any"⟩] ∧
    ∃ depth, IsDepth drawing depth ∧
      [⟨[], "Style"⟩, ⟨[], "Point"⟩, ⟨[], "Line"⟩, ⟨[], "Any"⟩] = enumKeys drawing ++
        (composites drawing).mergeSort fun a b => decide (depth a ≤ depth b) := by
  have horder : establish drawing =
      .ok [⟨[], "Style"⟩, ⟨[], "Point"⟩, ⟨[], "Line"⟩, ⟨[], "Any"⟩] :=
    Outcome.eq_ok_of_toOption (by decide +kernel)
  obtain ⟨depth, hdepth, _, hsort, _⟩ :=
    establish_eq_sort_by_depth (by decide) (by decide) horder
  exact ⟨horder, depth, hdepth, hsort⟩

end WireSchema.Order
