/-
WireSchema.Text.Split — cutting a text at every occurrence of a character.
-/

namespace WireSchema.Text

/-- The pieces between occurrences of `sep`: one more than there are occurrences. -/
def split (sep : Char) : List Char → List (List Char)
  | [] => [[]]
  | c :: cs =>
    if c == sep then [] :: split sep cs
    else
      match split sep cs with
      | [] => [[c]]
      | piece :: pieces => (c :: piece) :: pieces

theorem split_ne_nil (sep : Char) (cs : List Char) : split sep cs ≠ [] := by
  cases cs with
  | nil => simp [split]
  | cons c cs =>
    unfold split
    split
    · simp
    · split <;> simp

variable {sep c : Char} {cs : List Char}

@[simp] theorem split_cons_self : split sep (sep :: cs) = [] :: split sep cs := by
  simp [split]

theorem split_cons_of_ne (h : c ≠ sep) {piece : List Char} {pieces : List (List Char)}
    (hsplit : split sep cs = piece :: pieces) :
    split sep (c :: cs) = (c :: piece) :: pieces := by
  simp [split, h, hsplit]

/-- What stands in a piece stands in the text, and the separator in none. -/
theorem mem_and_ne_of_mem_split {piece : List Char} (hpiece : piece ∈ split sep cs)
    (hc : c ∈ piece) : c ∈ cs ∧ c ≠ sep := by
  induction cs generalizing piece with
  | nil =>
    rw [split, List.mem_singleton] at hpiece
    subst hpiece
    cases hc
  | cons first rest ih =>
    by_cases hfirst : first = sep
    · subst hfirst
      rw [split_cons_self, List.mem_cons] at hpiece
      rcases hpiece with rfl | hpiece
      · cases hc
      · obtain ⟨hmem, hne⟩ := ih hpiece hc
        exact ⟨List.mem_cons_of_mem _ hmem, hne⟩
    · obtain ⟨head, tail, hsplit⟩ := List.exists_cons_of_ne_nil (split_ne_nil sep rest)
      rw [split_cons_of_ne hfirst hsplit, List.mem_cons] at hpiece
      rcases hpiece with rfl | hpiece
      · rcases List.mem_cons.mp hc with rfl | hc
        · exact ⟨List.mem_cons_self, hfirst⟩
        · obtain ⟨hmem, hne⟩ := ih (hsplit ▸ List.mem_cons_self) hc
          exact ⟨List.mem_cons_of_mem _ hmem, hne⟩
      · obtain ⟨hmem, hne⟩ := ih (hsplit ▸ List.mem_cons_of_mem _ hpiece) hc
        exact ⟨List.mem_cons_of_mem _ hmem, hne⟩

/-- A separator between two texts keeps their pieces apart. -/
theorem split_append_cons (front back : List Char) :
    split sep (front ++ sep :: back) = split sep front ++ split sep back := by
  induction front with
  | nil => simp [split]
  | cons first rest ih =>
    by_cases hfirst : first = sep
    · subst hfirst
      simp [ih]
    · obtain ⟨head, tail, hsplit⟩ := List.exists_cons_of_ne_nil (split_ne_nil sep rest)
      rw [List.cons_append, split_cons_of_ne hfirst (ih.trans (by rw [hsplit, List.cons_append])),
        split_cons_of_ne hfirst hsplit, List.cons_append]

theorem split_eq_splitOn : split sep cs = cs.splitOn sep := by
  induction cs with
  | nil => rfl
  | cons c cs ih =>
    rw [split, ih, List.splitOn, List.splitOn, List.splitOnP_cons_eq_if_modifyHead]
    split
    · rfl
    · cases hsplit : List.splitOnP (· == sep) cs with
      | nil => exact absurd hsplit (List.splitOnP_ne_nil _ _)
      | cons piece pieces => rfl

/-- The pieces are the one way to join the text without a separator inside a piece. -/
theorem split_eq_iff {pieces : List (List Char)} : split sep cs = pieces ↔
    pieces ≠ [] ∧ [sep].intercalate pieces = cs ∧ ∀ piece ∈ pieces, sep ∉ piece := by
  constructor
  · intro h
    subst h
    refine ⟨split_ne_nil sep cs, ?_, fun piece hpiece hsep => ?_⟩
    · rw [split_eq_splitOn]
      exact List.intercalate_splitOn sep
    · exact (mem_and_ne_of_mem_split hpiece hsep).2 rfl
  · intro h
    obtain ⟨hne, hjoin, hplain⟩ := h
    rw [split_eq_splitOn, ← hjoin]
    exact List.splitOn_intercalate sep hplain hne

end WireSchema.Text
