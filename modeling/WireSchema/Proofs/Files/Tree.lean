/-
WireSchema.Proofs.Files.Tree — looking up, reading and writing in a tree of files.

A lookup goes from place to place (`FileTree.next`) and asks only that the places on its way are
directories. So it leads to the same place in every tree with more directories (`FileTree.walk_mono`),
a file is never found under a name that stays put or leads up (`FileTree.exists_name_of_readText`), and
a name under a directory is found one step below it (`FileTree.locate_join_iff`).

`FileTree.Grows` says that some directories were made and nothing else was done. Making a directory
with all that is missing above it does no more (`Desk.run_createDirectories`).
-/
import WireSchema.Files.Tree
import WireSchema.Proofs.Outcome

namespace WireSchema

open WireSchema.Outcome

/-! ## Names in paths -/

namespace Path

variable {directory name path : String}

/-- A name that leads one step down. -/
structure IsProper (name : String) : Prop where
  moves : staysPut name = false
  notUp : name ≠ ".."
  plain : '/' ∉ name.toList

theorem names_append_slash (front back : String) :
    names (front ++ "/" ++ back) = names front ++ names back := by
  have hlist : (front ++ "/" ++ back).toList = front.toList ++ '/' :: back.toList := by simp
  rw [names, hlist, Text.split_append_cons, List.map_append]
  rfl

theorem names_of_plain (h : '/' ∉ name.toList) : names name = [name] := by
  have hsplit : Text.split '/' name.toList = [name.toList] :=
    Text.split_eq_iff.mpr ⟨by simp, by simp, by simpa using h⟩
  rw [names, hsplit]
  simp

theorem slash_not_mem_of_mem_names (h : name ∈ names path) : '/' ∉ name.toList := by
  obtain ⟨piece, hpiece, rfl⟩ := List.mem_map.mp h
  rw [String.toList_ofList]
  exact fun hmem => (Text.mem_and_ne_of_mem_split hpiece hmem).2 rfl

/-- A slash is put between a directory and a name, unless it is there already. -/
theorem join_cases (directory name : String) :
    join directory name = directory ++ "/" ++ name ∨
      ∃ front, directory = front ++ "/" ∧ join directory name = front ++ "/" ++ name := by
  unfold join
  split
  · rename_i hslash
    rw [beq_iff_eq, List.getLast?_eq_some_iff] at hslash
    obtain ⟨front, hfront⟩ := hslash
    have hdirectory : directory = String.ofList front ++ "/" := by
      rw [← String.toList_inj, hfront, String.toList_append, String.toList_ofList]
      rfl
    exact .inr ⟨String.ofList front, hdirectory, by rw [← hdirectory]⟩
  · exact .inl rfl

theorem join_inj {other : String} : join directory name = join directory other ↔ name = other := by
  unfold join
  split <;> rw [String.append_right_inj]

theorem mem_of_mem_intercalate {sep c : Char} {pieces : List (List Char)}
    (h : c ∈ [sep].intercalate pieces) : c = sep ∨ ∃ piece ∈ pieces, c ∈ piece := by
  induction pieces with
  | nil => simp at h
  | cons piece pieces ih =>
    cases pieces with
    | nil => exact .inr ⟨piece, by simp, by simpa using h⟩
    | cons next rest =>
      rw [List.intercalate_cons_cons, List.mem_append, List.mem_append, List.mem_singleton] at h
      rcases h with (h | h) | h
      · exact .inr ⟨piece, List.mem_cons_self, h⟩
      · exact .inl h
      · refine (ih h).imp_right fun hpiece => ?_
        obtain ⟨other, hmem, hc⟩ := hpiece
        exact ⟨other, List.mem_cons_of_mem _ hmem, hc⟩

theorem mem_of_mem_withoutExtension {c : Char} (h : c ∈ (withoutExtension name).toList) :
    c = '.' ∨ c ∈ name.toList := by
  simp only [withoutExtension] at h
  split at h
  · exact .inr h
  · rw [String.toList_ofList] at h
    refine (mem_of_mem_intercalate h).imp_right fun hpiece => ?_
    obtain ⟨piece, hmem, hc⟩ := hpiece
    exact (Text.mem_and_ne_of_mem_split ((List.dropLast_subset _) hmem) hc).1

/-- The stem of a path is that of its last name. -/
theorem stem_of_names {front : List String} (h : names path = front ++ [name])
    (hname : IsProper name) : stem path = withoutExtension name := by
  have hlast : ((names path).filter fun name => !staysPut name).getLast? = some name := by
    simp [h, hname.moves]
  have hup : (name == "..") = false := beq_false_of_ne hname.notUp
  simp only [stem, hlast, hup, Bool.false_eq_true, if_false]

theorem isAbsolute_append (h : directory ≠ "") (rest : String) :
    isAbsolute (directory ++ rest) = isAbsolute directory := by
  obtain ⟨first, cs, hcs⟩ := List.exists_cons_of_ne_nil (fun hnil =>
    h (String.toList_inj.mp hnil) : directory.toList ≠ [])
  simp [isAbsolute, hcs]

end Path

namespace FileTree

open WireSchema.Path (IsProper staysPut)

variable {tree after : FileTree} {here place : Place} {node : Node} {name : String}
  {names : List String}

/-! ## Places -/

/-- The working directory, those above it and the root are always there. -/
def IsFixed (place : Place) : Prop :=
  (∀ name ∈ place, name = "..") ∨ place = ["/"]

theorem isFixed_iff : IsFixed place ↔ (place.all (· == "..") || place == ["/"]) = true := by
  simp [IsFixed]

theorem node?_of_isFixed (h : IsFixed place) : tree.node? place = some .directory := by
  rw [node?, if_pos (isFixed_iff.mp h)]

theorem not_isFixed_of_ne (h : tree.node? place ≠ some .directory) : ¬ IsFixed place :=
  fun hfixed => h (node?_of_isFixed hfixed)

theorem not_isFixed_append (here : Place) (h : IsProper name) : ¬ IsFixed (here ++ [name]) := by
  rintro (hup | hroot)
  · exact h.notUp (hup name (by simp))
  · have hname : name = "/" := (List.append_eq_singleton_iff.mp hroot).elim
      (fun hnil => by simpa using hnil.2) fun hcons => by simp at hcons
    exact h.plain (by simp [hname])

theorem node?_put (h : ¬ IsFixed here) :
    (tree.put here node).node? place = if place = here then some node else tree.node? place := by
  unfold node?
  split
  · rename_i hfixed
    rw [if_neg]
    rintro rfl
    exact h (isFixed_iff.mpr hfixed)
  · rw [put, OrderedMap.get?_insert]

/-- Putting something where no directory is keeps every directory. -/
theorem node?_put_of_directory (h : tree.node? here ≠ some .directory)
    (hplace : tree.node? place = some .directory) :
    (tree.put here node).node? place = some .directory := by
  have hne : place ≠ here := fun heq => h (heq ▸ hplace)
  rw [node?_put (not_isFixed_of_ne h), if_neg hne, hplace]

/-! ## Looking up -/

/-- Where a name leads from a place. -/
def next (here : Place) (name : String) : Place :=
  if staysPut name then here else if name = ".." then above here else here ++ [name]

theorem next_of_isProper (h : IsProper name) : next here name = here ++ [name] := by
  rw [next, h.moves, if_neg Bool.false_ne_true, if_neg h.notUp]

theorem expectDirectory_eq_ok_iff :
    tree.expectDirectory here = .ok () ↔ tree.node? here = some .directory := by
  unfold expectDirectory
  split <;> simp_all

theorem walk_nil : tree.walk here [] = .ok here :=
  rfl

theorem walk_cons_eq_ok_iff : tree.walk here (name :: names) = .ok place ↔
    tree.node? here = some .directory ∧ tree.walk (next here name) names = .ok place := by
  rw [walk, seq_eq_ok_iff, expectDirectory_eq_ok_iff]
  refine and_congr_right fun _ => ?_
  unfold next
  split
  · rfl
  · by_cases hup : name = ".." <;> simp [hup]

theorem walk_append_eq_ok_iff {rest : List String} : tree.walk here (names ++ rest) = .ok place ↔
    ∃ middle, tree.walk here names = .ok middle ∧ tree.walk middle rest = .ok place := by
  induction names generalizing here with
  | nil => simp [walk_nil]
  | cons name names ih =>
    rw [List.cons_append, walk_cons_eq_ok_iff, ih]
    simp only [walk_cons_eq_ok_iff, and_assoc, exists_and_left]

theorem walk_concat_eq_ok_iff : tree.walk here (names ++ [name]) = .ok place ↔
    ∃ home, tree.walk here names = .ok home ∧ tree.node? home = some .directory ∧
      next home name = place := by
  rw [walk_append_eq_ok_iff]
  simp only [walk_cons_eq_ok_iff, walk_nil, Except.ok.injEq]

/-- More directories do not change where a path leads. -/
theorem walk_mono (h : ∀ place, tree.node? place = some .directory →
      after.node? place = some .directory)
    (hwalk : tree.walk here names = .ok place) : after.walk here names = .ok place := by
  induction names generalizing here with
  | nil => exact hwalk
  | cons name names ih =>
    rw [walk_cons_eq_ok_iff] at hwalk ⊢
    exact ⟨h here hwalk.1, ih hwalk.2⟩

/-- A way to a directory starts at one. -/
theorem node?_of_walk (h : tree.walk here names = .ok place)
    (hplace : tree.node? place = some .directory) : tree.node? here = some .directory := by
  cases names with
  | nil =>
    obtain rfl : here = place := Except.ok.inj h
    exact hplace
  | cons name names => exact (walk_cons_eq_ok_iff.mp h).1

/-- On the way to a directory empty names can be put in. -/
theorem walk_of_walk_filter (h : tree.walk here (names.filter fun name => name != "") = .ok place)
    (hplace : tree.node? place = some .directory) : tree.walk here names = .ok place := by
  induction names generalizing here with
  | nil => exact h
  | cons name names ih =>
    rw [walk_cons_eq_ok_iff]
    by_cases hname : name = ""
    · subst hname
      rw [List.filter_cons_of_neg (by simp)] at h
      exact ⟨node?_of_walk h hplace, ih h⟩
    · rw [List.filter_cons_of_pos (by simpa using hname), walk_cons_eq_ok_iff] at h
      exact ⟨h.1, ih h.2⟩

/-- A name under a directory leads one step below the place of the directory. -/
theorem locate_join_iff {directory : String} (hdirectory : directory ≠ "") (hname : IsProper name) :
    tree.locate (Path.join directory name) = .ok place ↔ ∃ home,
      tree.locate directory = .ok home ∧ tree.node? home = some .directory ∧
        home ++ [name] = place := by
  have horigin : ∀ rest, origin (directory ++ rest) = origin directory := fun rest => by
    rw [origin, Path.isAbsolute_append hdirectory]
    rfl
  simp only [locate]
  rcases Path.join_cases directory name with hjoin | ⟨front, hfront, hjoin⟩
  · rw [hjoin, Path.names_append_slash, Path.names_of_plain hname.plain, String.append_assoc, horigin,
      walk_concat_eq_ok_iff]
    simp only [next_of_isProper hname]
  · -- the name takes the place of the empty one behind the last slash
    have hnames : Path.names directory = Path.names front ++ [""] := by
      have happend := Path.names_append_slash front ""
      rwa [String.append_empty, ← hfront] at happend
    rw [hjoin, Path.names_append_slash, Path.names_of_plain hname.plain, ← hfront, horigin, hnames,
      walk_concat_eq_ok_iff]
    simp only [walk_concat_eq_ok_iff, next_of_isProper hname]
    constructor
    · rintro ⟨home, hwalk, hhome, hplace⟩
      exact ⟨home, ⟨home, hwalk, hhome, rfl⟩, hhome, hplace⟩
    · rintro ⟨_, ⟨home, hwalk, hhome, rfl⟩, _, hplace⟩
      exact ⟨home, hwalk, hhome, hplace⟩

/-! ## Reading -/

/-- All places above a place are directories. -/
def Reached (tree : FileTree) (here : Place) : Prop :=
  ∀ place, place <+: here → place ≠ here → tree.node? place = some .directory

theorem reached_origin (tree : FileTree) (path : String) : tree.Reached (origin path) := by
  intro place hfront hne
  have hnil : place = [] := by
    unfold origin at hfront hne
    split at hfront
    · rename_i habsolute
      rw [if_pos habsolute] at hne
      have hroot : place <+: [] ++ ["/"] := hfront
      rcases List.prefix_concat_iff.mp hroot with heq | hnil
      · exact absurd heq hne
      · exact List.prefix_nil.mp hnil
    · exact List.prefix_nil.mp hfront
  exact node?_of_isFixed (.inl (by simp [hnil]))

theorem Reached.push (h : tree.Reached here) (hhere : tree.node? here = some .directory)
    (name : String) : tree.Reached (here ++ [name]) := by
  intro place hfront hne
  rcases List.prefix_concat_iff.mp hfront with rfl | hfront
  · exact absurd rfl hne
  · by_cases heq : place = here
    · exact heq ▸ hhere
    · exact h place hfront heq

/-- The place above a directory is a directory that can be reached. -/
theorem Reached.above (h : tree.Reached here) (hhere : tree.node? here = some .directory) :
    tree.Reached (above here) ∧ tree.node? (FileTree.above here) = some .directory := by
  unfold FileTree.above
  split
  · rename_i hup
    refine ⟨h.push hhere "..", node?_of_isFixed (.inl ?_)⟩
    rw [List.forall_mem_append]
    exact ⟨by simpa using hup, by simp⟩
  · rename_i hup
    split
    · exact ⟨h, hhere⟩
    · have hlength : here.dropLast.length < here.length := by
        have hpos : here ≠ [] := fun hnil => hup (by simp [hnil])
        have := List.length_pos_iff.mpr hpos
        rw [List.length_dropLast]
        omega
      have hbelow : ∀ place, place <+: here.dropLast → tree.node? place = some .directory := by
        intro place hfront
        refine h place (hfront.trans ( List.dropLast_prefix here)) fun heq => ?_
        have := hfront.length_le
        rw [heq] at this
        omega
      exact ⟨fun place hfront _ => hbelow place hfront, hbelow _ List.prefix_rfl⟩

theorem Reached.walk (h : tree.Reached here) (hwalk : tree.walk here names = .ok place) :
    tree.Reached place := by
  induction names generalizing here with
  | nil => exact Except.ok.inj hwalk ▸ h
  | cons name names ih =>
    obtain ⟨hhere, hrest⟩ := walk_cons_eq_ok_iff.mp hwalk
    refine ih ?_ hrest
    unfold next
    split
    · exact h
    · split
      · exact (h.above hhere).1
      · exact h.push hhere name

theorem readText_eq_ok_iff {path text : String} : tree.readText path = .ok text ↔
    ∃ place, tree.locate path = .ok place ∧ tree.node? place = some (.file (some text)) := by
  rw [readText, bind_eq_ok_iff]
  refine exists_congr fun place => and_congr_right fun _ => ?_
  split <;> simp_all

/-- A path that a file is read at ends with a name that leads to it. -/
theorem exists_name_of_readText {path text : String} (h : tree.readText path = .ok text) :
    ∃ front name, Path.names path = front ++ [name] ∧ IsProper name := by
  obtain ⟨place, hlocate, hfile⟩ := readText_eq_ok_iff.mp h
  obtain ⟨front, name, hnames⟩ : ∃ front name, Path.names path = front ++ [name] := by
    have hne : Path.names path ≠ [] := by simp [Path.names, Text.split_ne_nil]
    exact ⟨_, _, (List.dropLast_concat_getLast hne).symm⟩
  rw [locate, hnames, walk_concat_eq_ok_iff] at hlocate
  obtain ⟨home, hwalk, hhome, rfl⟩ := hlocate
  have hreached := (reached_origin tree path).walk hwalk
  have hmem : name ∈ Path.names path := by simp [hnames]
  refine ⟨front, name, hnames, ?_, ?_, Path.slash_not_mem_of_mem_names hmem⟩
  · -- a name that stays put leads to the directory it is looked up in
    rw [Bool.eq_false_iff]
    intro hput
    rw [next, if_pos hput, hhome] at hfile
    cases hfile
  · rintro rfl
    rw [next, if_neg (by decide), if_pos rfl, (hreached.above hhome).2] at hfile
    cases hfile

/-! ## Writing -/

theorem writeText_eq_ok_iff {path text : String} : tree.writeText path text = .ok after ↔
    ∃ place, tree.locate path = .ok place ∧ tree.node? place ≠ some .directory ∧
      tree.put place (.file (some text)) = after := by
  rw [writeText, bind_eq_ok_iff]
  refine exists_congr fun place => and_congr_right fun _ => ?_
  split <;> simp_all [pure, Except.pure]

/-- Directories were made where some paths lead, and nothing else was done. -/
structure Grows (paths : List String) (tree after : FileTree) : Prop where
  kept : ∀ place node, tree.node? place = some node → after.node? place = some node
  made : ∀ place node, after.node? place = some node → tree.node? place = some node ∨
    node = .directory ∧ ∃ path ∈ paths, after.locate path = .ok place

namespace Grows

variable {paths : List String}

theorem refl (paths : List String) (tree : FileTree) : Grows paths tree tree :=
  ⟨fun _ _ h => h, fun _ _ h => .inl h⟩

theorem locate {path : String} (h : Grows paths tree after) (hlocate : tree.locate path = .ok place) :
    after.locate path = .ok place :=
  walk_mono (fun place => h.kept place .directory) hlocate

theorem trans {last : FileTree} (h : Grows paths tree after) (hlast : Grows paths after last) :
    Grows paths tree last where
  kept place node hnode := hlast.kept place node (h.kept place node hnode)
  made place node hnode := by
    rcases hlast.made place node hnode with hafter | hmade
    · rcases h.made place node hafter with hbefore | ⟨hdirectory, path, hpath, hplace⟩
      · exact .inl hbefore
      · exact .inr ⟨hdirectory, path, hpath, hlast.locate hplace⟩
    · exact .inr hmade

theorem mono {more : List String} (h : Grows paths tree after) (hsub : paths ⊆ more) :
    Grows more tree after where
  kept := h.kept
  made place node hnode := by
    refine (h.made place node hnode).imp_right fun hmade => ?_
    obtain ⟨hdirectory, path, hpath, hplace⟩ := hmade
    exact ⟨hdirectory, path, hsub hpath, hplace⟩

end Grows

theorem isDirectory_iff {path : String} : tree.isDirectory path = true ↔
    ∃ place, tree.locate path = .ok place ∧ tree.node? place = some .directory := by
  unfold isDirectory
  split <;> simp_all

/-- A directory is made under a name that leads nowhere yet. -/
theorem exists_of_createDirectory {path : String} (h : tree.createDirectory path = .ok after) :
    ∃ front name here, ((Path.names path).filter fun name => name != "") = front ++ [name] ∧
      tree.walk (origin path) front = .ok here ∧ tree.node? here = some .directory ∧
      next here name = here ++ [name] ∧ tree.node? (here ++ [name]) = none ∧
      tree.put (here ++ [name]) .directory = after := by
  simp only [createDirectory] at h
  split at h
  · cases h
  rename_i name hlast
  obtain ⟨front, hnames⟩ := List.getLast?_eq_some_iff.mp hlast
  obtain ⟨here, hwalk, h⟩ := bind_eq_ok_iff.mp h
  obtain ⟨hhere, h⟩ := seq_eq_ok_iff.mp h
  rw [hnames, List.dropLast_concat] at hwalk
  rw [expectDirectory_eq_ok_iff] at hhere
  split at h
  · cases h
  rename_i hfree
  simp only [Bool.or_eq_true, beq_iff_eq, not_or, Option.not_isSome_iff_eq_none] at hfree
  obtain ⟨⟨hdot, hup⟩, hnone⟩ := hfree
  have hempty : name ≠ "" := by
    have hmem : name ∈ (Path.names path).filter fun name => name != "" := by simp [hnames]
    simpa using (List.mem_filter.mp hmem).2
  have hmoves : staysPut name = false := by simp [staysPut, hempty, hdot]
  refine ⟨front, name, here, hnames, hwalk, hhere, ?_, hnone, Except.ok.inj h⟩
  rw [next, hmoves, if_neg Bool.false_ne_true, if_neg hup]

/-- A directory is made where there was nothing, and is found there. -/
theorem grows_of_createDirectory {path : String} (h : tree.createDirectory path = .ok after) :
    Grows [path] tree after ∧ after.isDirectory path = true := by
  obtain ⟨front, name, here, hnames, hwalk, hhere, hnext, hnone, rfl⟩ :=
    exists_of_createDirectory h
  have hempty : tree.node? (here ++ [name]) ≠ some .directory := by simp [hnone]
  have hfree := not_isFixed_of_ne hempty
  have hkept : ∀ place node, tree.node? place = some node →
      (tree.put (here ++ [name]) .directory).node? place = some node := by
    intro place node hnode
    rw [node?_put hfree, if_neg, hnode]
    rintro rfl
    rw [hnone] at hnode
    cases hnode
  have hmade : (tree.put (here ++ [name]) .directory).node? (here ++ [name]) = some .directory := by
    rw [node?_put hfree, if_pos rfl]
  have hlocate : (tree.put (here ++ [name]) .directory).locate path = .ok (here ++ [name]) := by
    refine walk_of_walk_filter ?_ hmade
    rw [hnames, walk_concat_eq_ok_iff]
    exact ⟨here, walk_mono (fun place => hkept place .directory) hwalk, hkept _ _ hhere, hnext⟩
  refine ⟨⟨hkept, fun place node hnode => ?_⟩, isDirectory_iff.mpr ⟨_, hlocate, hmade⟩⟩
  rw [node?_put hfree] at hnode
  split at hnode
  · rename_i hplace
    cases hnode
    exact .inr ⟨rfl, path, List.mem_singleton_self path, hplace ▸ hlocate⟩
  · exact .inl hnode

end FileTree

/-! ## Making directories -/

namespace Desk

open FileTree (Grows)

variable {desk after : Desk} {path : String} {result : Except IoFault Unit}

theorem run_change (f : FileTree → Except IoFault FileTree) (desk : Desk) :
    (change f).run desk = match f desk.tree with
      | .ok tree => (.ok (), { desk with tree })
      | .error fault => (.error fault, desk) := by
  rw [change, StateT.run_bind]
  change (match f desk.tree with | .ok tree => _ | .error fault => _ : StateM Desk _).run desk = _
  cases f desk.tree <;> rfl

/-- What making a directory leaves behind, whether it succeeds or not. -/
structure Makes (paths : List String) (path : String) (desk : Desk) (result : Except IoFault Unit)
    (after : Desk) : Prop where
  grows : Grows paths desk.tree after.tree
  printed : after.printed = desk.printed
  present : result = .ok () → after.tree.isDirectory path = true

theorem makes_of_createDirectory
    (h : (Host.createDirectory path : StateM Desk _).run desk = (result, after)) :
    Makes [path] path desk result after := by
  change (change fun tree => tree.createDirectory path).run desk = _ at h
  rw [run_change] at h
  split at h
  · rename_i tree htree
    cases h
    obtain ⟨hgrows, hpresent⟩ := FileTree.grows_of_createDirectory htree
    exact ⟨hgrows, rfl, fun _ => hpresent⟩
  · cases h
    exact ⟨.refl _ _, rfl, fun hok => by cases hok⟩

/-- A failure is forgiven where the directory is there. -/
theorem Makes.orPresent {paths : List String} {first last : Desk} {before : Except IoFault Unit}
    (h : Makes paths path first before desk)
    (hrun : (Host.orPresent path before : StateM Desk _).run desk = (result, last)) :
    Makes paths path first result last := by
  cases before with
  | ok value =>
    cases hrun
    exact h
  | error fault =>
    cases hrun
    refine ⟨h.grows, h.printed, fun hok => ?_⟩
    by_contra hmissing
    rw [if_neg hmissing] at hok
    cases hok

theorem Makes.trans {paths : List String} {other : String} {first : Desk}
    {before : Except IoFault Unit} (h : Makes paths other first before desk)
    (hafter : Makes paths path desk result after) : Makes paths path first result after :=
  ⟨h.grows.trans hafter.grows, hafter.printed.trans h.printed, hafter.present⟩

theorem Makes.mono {paths more : List String} (h : Makes paths path desk result after)
    (hsub : paths ⊆ more) : Makes more path desk result after :=
  ⟨h.grows.mono hsub, h.printed, h.present⟩

theorem run_bind_of_run {α β : Type} {x : StateM Desk α} {f : α → StateM Desk β} {a : α}
    (h : x.run desk = (a, after)) : (x >>= f).run desk = (f a).run after := by
  rw [StateT.run_bind, h]
  rfl

theorem makes_of_createBelow {ancestors : List String}
    (h : (Host.createBelow path ancestors : StateM Desk _).run desk = (result, after)) :
    Makes (path :: ancestors) path desk result after := by
  induction ancestors generalizing path desk result after with
  | nil => exact (makes_of_createDirectory rfl).orPresent h
  | cons parent ancestors ih =>
    have hpath : [path] ⊆ path :: parent :: ancestors := by simp
    rcases hcreate : (Host.createDirectory path : StateM Desk _).run desk with ⟨tried, first⟩
    have htried := (makes_of_createDirectory hcreate).mono hpath
    rw [Host.createBelow, run_bind_of_run hcreate] at h
    by_cases hmissing : tried = .error .notFound
    · -- the directory above is made, and this one is tried again
      rw [hmissing] at h
      dsimp only at h
      rcases hbelow : (Host.createBelow parent ancestors : StateM Desk _).run first with
        ⟨made, second⟩
      have hmade := htried.trans ((ih hbelow).mono (List.subset_cons_self path _))
      rw [run_bind_of_run hbelow] at h
      cases made with
      | ok value =>
        have hagain : Makes [path] path second _ _ := makes_of_createDirectory rfl
        exact hmade.trans ((hagain.mono hpath).orPresent h)
      | error fault =>
        cases h
        exact ⟨hmade.grows, hmade.printed, fun hok => by cases hok⟩
    · have hkept : (Host.orPresent path tried : StateM Desk _).run first = (result, after) := by
        split at h
        · exact absurd rfl hmissing
        · exact h
      exact htried.orPresent hkept

/-- Making a directory with all that is missing above it makes directories and nothing else. -/
theorem run_createDirectories
    (h : (Host.createDirectories path : StateM Desk _).run desk = (result, after)) :
    Makes (path :: Path.ancestors path) path desk result after :=
  makes_of_createBelow h

end Desk

end WireSchema
