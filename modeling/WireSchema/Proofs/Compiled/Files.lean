/-
WireSchema.Proofs.Compiled.Files — the files of a compiled session.

They stand in registration order under their paths, and the order of each lists what the file declares.
In `Session.Compiles`, `exists_file?` finds the compiled form of a file, `mem_files_iff` the file behind
a compiled one, `mem_order_iff` says which names it lists, and `exists_file_of_get?` finds the file that
lists a type.
-/
import WireSchema.Proofs.Compiled.Closed
import WireSchema.Proofs.Compiled.Rearranged

namespace WireSchema

open WireSchema.Outcome
open WireSchema.Resolved (Declaration)

namespace Session

variable {session : Session} {settings : CompilerSettings} {compiled : Compiled}
  {declarations : OrderedMap TypeName Declaration}

namespace Compiles

variable (h : session.Compiles settings declarations compiled)

include h

/-- Files are compiled one by one, under their paths. -/
theorem map_path_files : compiled.files.map (·.path) = session.files.keys := by
  have hpaths : List.Forall₂ (fun path path' => path = path')
      (session.files.entries.map (·.1)) (compiled.files.map (·.path)) := by
    rw [List.forall₂_map_left_iff, List.forall₂_map_right_iff]
    refine (mapM_eq_ok_iff.mp h.files).imp fun entry result hresult => ?_
    obtain ⟨roots, _, rfl⟩ := Compiled.fileOf_eq_ok_iff.mp hresult
    rfl
  rw [List.forall₂_eq_eq_eq] at hpaths
  exact hpaths.symm

/-- No two files share a path, so a path leads to the one file that has it. -/
theorem file?_eq_some_iff {path : String} {result : Compiled.File} :
    compiled.file? path = some result ↔ result ∈ compiled.files ∧ result.path = path := by
  have hnodup : (compiled.files.map (·.path)).Nodup := h.map_path_files ▸ session.files.nodup
  constructor
  · intro hfound
    exact ⟨List.mem_of_find?_eq_some hfound, by simpa using List.find?_some hfound⟩
  · rintro ⟨hmem, rfl⟩
    have hsome : (compiled.file? result.path).isSome = true :=
      List.find?_isSome.mpr ⟨result, hmem, by simp⟩
    obtain ⟨other, hother⟩ := Option.isSome_iff_exists.mp hsome
    have hpath : other.path = result.path := by simpa using List.find?_some hother
    rw [hother, List.inj_on_of_nodup_map hnodup (List.mem_of_find?_eq_some hother) hmem hpath]

theorem mem_files_iff {result : Compiled.File} :
    result ∈ compiled.files ↔ ∃ file, session.file? result.path = some file ∧
      Compiled.fileOf session compiled.order result.path file = .ok result := by
  rw [mem_iff_of_mapM_eq_ok h.files]
  constructor
  · rintro ⟨⟨path, file⟩, hentry, hresult⟩
    obtain ⟨roots, _, rfl⟩ := Compiled.fileOf_eq_ok_iff.mp hresult
    exact ⟨file, OrderedMap.get?_eq_some_iff.mpr hentry, hresult⟩
  · rintro ⟨file, hfile, hresult⟩
    exact ⟨_, OrderedMap.get?_eq_some_iff.mp hfile, hresult⟩

/-- Every file has a compiled form. -/
theorem exists_file? {path : String} {file : SymbolTable} (hfile : session.file? path = some file) :
    ∃ result, compiled.file? path = some result ∧
      Compiled.fileOf session compiled.order path file = .ok result := by
  have hpath : path ∈ compiled.files.map (·.path) := by
    rw [h.map_path_files]
    exact OrderedMap.mem_keys_iff.mpr ⟨file, hfile⟩
  obtain ⟨result, hmem, rfl⟩ := List.mem_map.mp hpath
  obtain ⟨file', hfile', hresult⟩ := h.mem_files_iff.mp hmem
  cases hfile.symm.trans hfile'
  exact ⟨result, h.file?_eq_some_iff.mpr ⟨hmem, rfl⟩, hresult⟩

/-- The order of a file lists the names it declares. -/
theorem mem_order_iff (hbuilt : ∀ file ∈ session.files.values, file.Built) {path : String}
    {file : SymbolTable} (hfile : session.file? path = some file) {result : Compiled.File}
    (hresult : Compiled.fileOf session compiled.order path file = .ok result) {name : TypeName} :
    name ∈ result.order ↔
      file.scopePath = name.path ∧ ∃ declared, file.Holds name.name declared := by
  have hmem : file ∈ session.files.values := OrderedMap.mem_values_iff.mpr ⟨path, hfile⟩
  obtain ⟨roots, _, rfl⟩ := Compiled.fileOf_eq_ok_iff.mp hresult
  rw [List.mem_filter, List.contains_iff_mem, Rules.mem_ownNames_iff (hbuilt file hmem)]
  refine and_iff_right_of_imp ?_
  rintro ⟨hpath, declared, hholds⟩
  obtain ⟨entry, hentry, _⟩ :=
    h.exists_mirror hmem ((hbuilt file hmem).find?_eq_some_iff.mpr hholds)
  rw [hpath] at hentry
  rw [← h.keys, OrderedMap.mem_keys_iff]
  exact ⟨entry, hentry⟩

theorem exists_entry_of_mem_order {path : String} {file : SymbolTable} {result : Compiled.File}
    (hresult : Compiled.fileOf session compiled.order path file = .ok result) {name : TypeName}
    (hname : name ∈ result.order) : ∃ entry, compiled.get? name = some entry := by
  obtain ⟨roots, _, rfl⟩ := Compiled.fileOf_eq_ok_iff.mp hresult
  have horder : name ∈ compiled.order := (List.mem_filter.mp hname).1
  rw [← h.keys] at horder
  exact OrderedMap.mem_keys_iff.mp horder

/-- Every entry is listed by some file, whose namespace its name is in. -/
theorem exists_file_of_get? (hbuilt : ∀ file ∈ session.files.values, file.Built)
    {name : TypeName} {entry : Compiled.TypeEntry} (hentry : compiled.get? name = some entry) :
    ∃ result ∈ compiled.files, name ∈ result.order ∧ result.scopePath = name.path := by
  obtain ⟨file, hmem, declared, hpath, hfind, _⟩ := h.exists_source hentry
  obtain ⟨path, hfile⟩ := OrderedMap.mem_values_iff.mp hmem
  obtain ⟨result, hfound, hresult⟩ := h.exists_file? hfile
  refine ⟨result, (h.file?_eq_some_iff.mp hfound).1, ?_, ?_⟩
  · exact (h.mem_order_iff hbuilt hfile hresult).mpr
      ⟨hpath, declared, SymbolTable.holds_of_find? hfind⟩
  · obtain ⟨roots, _, rfl⟩ := Compiled.fileOf_eq_ok_iff.mp hresult
    exact hpath

end Compiles

end Session

end WireSchema
