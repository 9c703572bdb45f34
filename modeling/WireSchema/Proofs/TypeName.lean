/-
WireSchema.Proofs.TypeName — a text spells one qualified name.

`TypeName.Spells` says how a name is written: its pieces joined with points, and no point inside a
piece. Cutting a text at its points gives the one name that it spells (`TypeName.spells_iff`).
-/
import WireSchema.TypeName

namespace WireSchema.TypeName

variable {n : TypeName} {written : String}

/-- A text is a name as it is written. -/
structure Spells (n : TypeName) (written : String) : Prop where
  text_eq : n.text = written
  plain : ∀ piece ∈ n.path ++ [n.name], '.' ∉ piece.toList

/-- Cutting a text gives pieces, and the name keeps them all. -/
theorem pieces_ofText (written : String) : (ofText written).path ++ [(ofText written).name] =
    (Text.split '.' written.toList).map String.ofList := by
  have hne : (Text.split '.' written.toList).map String.ofList ≠ [] := by
    simp [Text.split_ne_nil]
  rw [ofText, List.getLast?_eq_some_getLast hne, Option.getD_some]
  exact List.dropLast_concat_getLast hne

theorem eq_of_pieces {m : TypeName} (h : n.path ++ [n.name] = m.path ++ [m.name]) : n = m := by
  obtain ⟨path, name⟩ := n
  obtain ⟨path', name'⟩ := m
  simpa using h

/-- Every text spells one name, which cutting it at its points finds. -/
theorem spells_iff : n.Spells written ↔ n = ofText written := by
  have hpieces : n = ofText written ↔
      Text.split '.' written.toList = (n.path ++ [n.name]).map String.toList := by
    constructor
    · intro h
      rw [h, pieces_ofText, List.map_map]
      simp [Function.comp_def]
    · intro h
      refine eq_of_pieces ?_
      rw [pieces_ofText, h, List.map_map]
      simp [Function.comp_def]
  have htext : n.text = written ↔
      ['.'].intercalate ((n.path ++ [n.name]).map String.toList) = written.toList := by
    rw [← String.toList_inj, text, dotted, String.toList_intercalate]
    rfl
  rw [hpieces, Text.split_eq_iff, ← htext, List.forall_mem_map]
  constructor
  · intro h
    exact ⟨by simp, h.text_eq, h.plain⟩
  · intro h
    exact ⟨h.2.1, h.2.2⟩

theorem text_ofText (written : String) : (ofText written).text = written :=
  (spells_iff.mpr rfl).text_eq

/-- A name without points inside its pieces is found again in its text. -/
theorem ofText_text (h : ∀ piece ∈ n.path ++ [n.name], '.' ∉ piece.toList) : ofText n.text = n :=
  (spells_iff.mp ⟨rfl, h⟩).symm

theorem ofText_inj {other : String} : ofText written = ofText other ↔ written = other := by
  constructor
  · intro h
    rw [← text_ofText written, h, text_ofText]
  · intro h
    rw [h]

/-- A text without a point is the local name of a name without path. -/
theorem ofText_of_plain (h : '.' ∉ written.toList) : ofText written = ⟨[], written⟩ := by
  refine (spells_iff.mp ⟨?_, by simpa using h⟩).symm
  simp [text, dotted]

end WireSchema.TypeName
