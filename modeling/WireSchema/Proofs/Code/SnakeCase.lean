/-
WireSchema.Proofs.Code.SnakeCase — small letters with underscores put in.

`Spaces` relates a name to its characters in small letters with underscores between them: none is put
at the start, and none behind another one. What is left without the underscores is then the same on
both sides (`Spaces.filter_eq`), and no character of the name is lost (`Spaces.sublist`). `snakeFrom`
tells the end of its result from a flag; the flag is right as long as it says whether the character
in front is an underscore (`spaces_snakeFrom`).

Main statement: `snakeCase_spaces_identifier`.
-/
import WireSchema.Proofs.Code.Identifier

namespace WireSchema

open WireSchema.Grammar (IsIdentifier)

namespace Text

variable {c : Char} (h : c.toNat < 128)

include h

theorem toLower_eq_underscore_iff : c.toLower = '_' ↔ c = '_' :=
  forall_ascii (P := fun c => c.toLower = '_' ↔ c = '_') (by decide +kernel) h

theorem toLower_of_isUpper_eq_false (hupper : c.isUpper = false) : c.toLower = c :=
  forall_ascii (P := fun c => c.isUpper = false → c.toLower = c) (by decide +kernel) h hupper

end Text

namespace Code

open WireSchema.Text (IsWordChar)

/-- A text in small letters with underscores put in. `before` is the character in front of the result;
an underscore is put only in front of a large letter and behind something that is no underscore. -/
inductive Spaces : (before : Option Char) → (cs result : List Char) → Prop
  | nil {before : Option Char} : Spaces before [] []
  | keep {before : Option Char} {c : Char} {cs result : List Char}
      (hrest : Spaces (some c.toLower) cs result) : Spaces before (c :: cs) (c.toLower :: result)
  | put {b c : Char} {cs result : List Char} (hb : b ≠ '_') (hc : c.isUpper = true)
      (hrest : Spaces (some c.toLower) cs result) :
      Spaces (some b) (c :: cs) ('_' :: c.toLower :: result)

namespace Spaces

variable {before : Option Char} {cs result : List Char}

/-- Every character is kept, underscores among them. -/
theorem sublist (h : Spaces before cs result) : (cs.map Char.toLower).Sublist result := by
  induction h with
  | nil => exact List.nil_sublist []
  | keep _ ih => exact ih.cons_cons _
  | put _ _ _ ih => exact (ih.cons_cons _).cons _

/-- Without underscores both sides are the same letters. -/
theorem filter_eq (h : Spaces before cs result) :
    result.filter (· != '_') = (cs.map Char.toLower).filter (· != '_') := by
  induction h with
  | nil => rfl
  | keep _ ih => rw [List.map_cons, List.filter_cons, List.filter_cons, ih]
  | put _ _ _ ih =>
    rw [List.filter_cons_of_neg (by decide), List.map_cons, List.filter_cons, List.filter_cons, ih]

end Spaces

/-! ## Names -/

/-- Putting in underscores goes on as `Spaces` does, if the flag tells an underscore in front. -/
theorem spaces_snakeFrom (before : Option Char) {cs : List Char} (h : ∀ c ∈ cs, IsWordChar c)
    (hbefore : ∀ b ∈ before, b.toNat < 128) :
    Spaces (before.map Char.toLower) cs (snakeFrom before (before == some '_') cs) := by
  induction cs generalizing before with
  | nil => exact .nil
  | cons c cs ih =>
    rw [List.forall_mem_cons] at h
    have hascii := h.1.lt
    obtain ⟨hupper, _, hlower⟩ := Text.forms_of_ascii hascii
    have hrest := ih (some c) h.2 (by simpa using hascii)
    have hflag : (some c == some '_') = (c == '_') := rfl
    rw [hflag] at hrest
    rw [snakeFrom, hupper, hlower]
    split
    · rename_i hlarge
      have hend : ([c.toLower].getLast? == some '_') = (c == '_') :=
        Bool.eq_iff_iff.mpr (by simpa using Text.toLower_eq_underscore_iff hascii)
      rw [hend]
      split
      · rename_i hstart
        simp only [Bool.and_eq_true, Bool.not_eq_true', beq_eq_false_iff_ne] at hstart
        cases before with
        | none => simp [startsWord] at hstart
        | some b =>
          refine .put (fun heq => hstart.2 ?_) hlarge hrest
          rw [(Text.toLower_eq_underscore_iff (hbefore b rfl)).mp heq]
      · exact .keep hrest
    · rename_i hsmall
      have hsame : c.toLower = c :=
        Text.toLower_of_isUpper_eq_false hascii (Bool.eq_false_iff.mpr hsmall)
      have hkeep : Spaces (before.map Char.toLower) (c :: cs) (c.toLower :: _) := .keep hrest
      rwa [hsame] at hkeep

/-- Nothing is done to a text without large letters. -/
theorem snakeFrom_of_small {before : Option Char} {spaced : Bool} {cs : List Char}
    (h : ∀ c ∈ cs, Text.isUppercase c = false) : snakeFrom before spaced cs = cs := by
  induction cs generalizing before spaced with
  | nil => rfl
  | cons c cs ih =>
    rw [List.forall_mem_cons] at h
    rw [snakeFrom, if_neg (by simp [h.1]), ih h.2]

section

variable {name : String} (h : IsIdentifier name)

include h

theorem isUpper_of_mem_snakeCase : ∀ c ∈ (snakeCase name).toList, c.isUpper = false := by
  rw [snakeCase, String.toList_ofList]
  exact isUpper_of_mem_snakeFrom (isWordChar_of_isIdentifier h)

theorem snakeCase_snakeCase : snakeCase (snakeCase name) = snakeCase name := by
  have hword := isWordChar_of_isIdentifier (isIdentifier_snakeCase h)
  have hsmall : ∀ c ∈ (snakeCase name).toList, Text.isUppercase c = false := by
    intro c hc
    rw [(Text.forms_of_ascii (hword c hc).lt).1]
    exact isUpper_of_mem_snakeCase h c hc
  rw [snakeCase, snakeFrom_of_small hsmall, String.ofList_toList]

theorem spaces_snakeCase : Spaces none name.toList (snakeCase name).toList := by
  rw [snakeCase, String.toList_ofList]
  exact spaces_snakeFrom none (isWordChar_of_isIdentifier h) (by simp)

end

/-- **Snake case.** The snake case of an identifier has no large letter and is its own snake case. It
is the identifier in small letters with underscores put in: without underscores the two are the same,
every underscore stays, and none is put at the start or behind another one. So the constants of two
identifiers are the same exactly when their snake cases are. -/
theorem snakeCase_spaces_identifier {name : String} (h : IsIdentifier name) :
    (∀ c ∈ (snakeCase name).toList, c.isUpper = false) ∧
    snakeCase (snakeCase name) = snakeCase name ∧
    (snakeCase name).toList.filter (· != '_') =
      (name.toList.map Char.toLower).filter (· != '_') ∧
    (name.toList.map Char.toLower).Sublist (snakeCase name).toList ∧
    Spaces none name.toList (snakeCase name).toList ∧
    ∀ other, IsIdentifier other →
      (constIdent name = constIdent other ↔ snakeCase name = snakeCase other) := by
  have hspaces := spaces_snakeCase h
  refine ⟨isUpper_of_mem_snakeCase h, snakeCase_snakeCase h, hspaces.filter_eq, hspaces.sublist,
    hspaces, ?_⟩
  intro other hother
  exact constIdent_eq_iff h hother

/-- Runs of large letters, underscores of its own and a digit in one name, and another name that
becomes the same constant. -/
theorem snakeCase_getHTTPServer :
    IsIdentifier "_getHTTPServer_IDs2" ∧ IsIdentifier "_GetHttpServer_iDs2" ∧
    snakeCase "_getHTTPServer_IDs2" = "_get_http_server_i_ds2" ∧
    snakeCase "_get_http_server_i_ds2" = "_get_http_server_i_ds2" ∧
    Spaces none "_getHTTPServer_IDs2".toList "_get_http_server_i_ds2".toList ∧
    constIdent "_getHTTPServer_IDs2" = constIdent "_GetHttpServer_iDs2" := by
  obtain ⟨hname, hother, hsnake, hsame⟩ :
      Source.isIdentifier "_getHTTPServer_IDs2" = true ∧
      Source.isIdentifier "_GetHttpServer_iDs2" = true ∧
      snakeCase "_getHTTPServer_IDs2" = "_get_http_server_i_ds2" ∧
      snakeCase "_GetHttpServer_iDs2" = "_get_http_server_i_ds2" := by decide +kernel
  rw [Grammar.isIdentifier_iff] at hname hother
  obtain ⟨_, hagain, _, _, hspaces, hconst⟩ := snakeCase_spaces_identifier hname
  rw [hsnake] at hagain hspaces
  exact ⟨hname, hother, hsnake, hagain, hspaces, (hconst _ hother).mpr (hsnake.trans hsame.symm)⟩

end Code

end WireSchema
