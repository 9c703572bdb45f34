/-
WireSchema.Proofs.Code.Identifier — what becomes of the identifiers of a schema.

Schema names are ASCII words, and on these the two letter cases are those of the alphabet
(`Text.forms_of_ascii`). `snakeCase` turns words into words (`isIdent_fieldIdent`); `pascalCase`
drops underscores, so its result is a word only if a letter comes first (`isIdent_typeIdent_iff`).
Escaping keywords makes two fields meet only where one is the other with an underscore behind
(`escapeKeyword_eq_iff`). It never makes two types meet, since no alphabet has the underscore for a
large or small form of something else (`typeIdent_eq_iff`). `snakeCase` leaves no large letter, so
writing its result in large letters for a constant loses nothing (`constIdent_eq_iff`).
-/
import WireSchema.Code.Identifier
import WireSchema.Proofs.Source.Lexical
import WireSchema.Proofs.Text.Characters

namespace WireSchema

open WireSchema.Grammar (IsIdentifier)

/-! ## Underscores -/

namespace Text

theorem eq_of_ofNat_eq_underscore {code : Nat} (h : Char.ofNat code = '_') : code = 0x5f := by
  by_cases hvalid : code.isValidChar
  · have hchar : Char.ofNat code = Char.ofNatAux code hvalid := dif_pos hvalid
    exact congrArg Char.toNat (hchar.symm.trans h)
  · have hchar : Char.ofNat code = Char.ofNat 0 := dif_neg hvalid
    exact absurd (hchar.symm.trans h) (by decide)

section

variable {c : Char} (h : c ≠ '_')

include h

/-- The tables of forms leave the underscore out. -/
theorem underscore_not_mem_form {expansions : List (Nat × List Nat)} {shifts : List CodeShift}
    (hexpansions : ∀ entry ∈ expansions, 0x5f ∉ entry.2)
    (hshifts : ∀ run ∈ shifts, run.last + run.distance < 0x5f ∨ 0x5f < run.first + run.distance) :
    '_' ∉ match expansions.lookup c.toNat with
      | some codes => codes.map Char.ofNat
      | none => [((CodeShift.target? shifts c.toNat).map Char.ofNat).getD c] := by
  split
  · next codes hcodes =>
    intro hmem
    obtain ⟨code, hcode, heq⟩ := List.mem_map.mp hmem
    obtain ⟨before, after, rfl, _⟩ := List.lookup_eq_some_iff.mp hcodes
    have hentry := hexpansions _ (List.mem_append_right before List.mem_cons_self)
    exact hentry (eq_of_ofNat_eq_underscore heq ▸ hcode)
  · rw [List.mem_singleton]
    cases htarget : CodeShift.target? shifts c.toNat with
    | none => exact h.symm
    | some target =>
      intro heq
      exact CodeShift.ne_of_target? (by decide) hshifts htarget (eq_of_ofNat_eq_underscore heq.symm)

theorem underscore_not_mem_forms : '_' ∉ uppercase c ∧ '_' ∉ lowercase c := by
  obtain ⟨⟨hlarge, hlarges⟩, hsmall, hsmalls⟩ :
      ((∀ entry ∈ uppercaseExpansions, 0x5f ∉ entry.2) ∧ ∀ run ∈ uppercaseShifts,
        run.last + run.distance < 0x5f ∨ 0x5f < run.first + run.distance) ∧
      (∀ entry ∈ lowercaseExpansions, 0x5f ∉ entry.2) ∧ ∀ run ∈ lowercaseShifts,
        run.last + run.distance < 0x5f ∨ 0x5f < run.first + run.distance := by decide +kernel
  exact ⟨underscore_not_mem_form h hlarge hlarges, underscore_not_mem_form h hsmall hsmalls⟩

end

theorem underscore_not_mem_toLowercase {cs : List Char} (h : '_' ∉ cs) :
    '_' ∉ toLowercase cs := by
  suffices ∀ before, '_' ∉ toLowercaseAfter before cs from this []
  induction cs with
  | nil => exact fun _ => List.not_mem_nil
  | cons c cs ih =>
    intro before
    obtain ⟨hc, hcs⟩ := List.ne_and_not_mem_of_not_mem_cons h
    rw [toLowercaseAfter, List.mem_append, not_or]
    refine ⟨?_, ih hcs _⟩
    split
    · rw [lowercaseSigma]
      split <;> decide
    · exact (underscore_not_mem_forms (Ne.symm hc)).2

end Text

/-! ## Letters of ASCII -/

namespace Text

/-- Below 128 the tables of letters have the alphabet. -/
theorem forms_of_ascii {c : Char} (h : c.toNat < 128) : isUppercase c = c.isUpper ∧
    uppercase c = [c.toUpper] ∧ lowercase c = [c.toLower] :=
  forall_ascii (P := fun c => isUppercase c = c.isUpper ∧ uppercase c = [c.toUpper] ∧
    lowercase c = [c.toLower]) (by decide +kernel) h

/-- Changing the case of an ASCII letter keeps it a letter, and a small one comes back. -/
theorem letterCase_of_ascii {c : Char} (h : c.toNat < 128) :
    (c.toUpper.isAlpha = c.isAlpha ∧ c.toUpper.isAlphanum = c.isAlphanum) ∧
      (c.toLower.isAlpha = c.isAlpha ∧ c.toLower.isAlphanum = c.isAlphanum) ∧
        c.toLower.isUpper = false ∧ (c.isUpper = false → c.toUpper.toLower = c) :=
  forall_ascii (P := fun c =>
    (c.toUpper.isAlpha = c.isAlpha ∧ c.toUpper.isAlphanum = c.isAlphanum) ∧
      (c.toLower.isAlpha = c.isAlpha ∧ c.toLower.isAlphanum = c.isAlphanum) ∧
        c.toLower.isUpper = false ∧ (c.isUpper = false → c.toUpper.toLower = c))
    (by decide +kernel) h

theorem isAlpha_toUpper {c : Char} (h : c.toNat < 128) : c.toUpper.isAlpha = c.isAlpha :=
  (letterCase_of_ascii h).1.1

theorem isAlphanum_toUpper {c : Char} (h : c.toNat < 128) :
    c.toUpper.isAlphanum = c.isAlphanum :=
  (letterCase_of_ascii h).1.2

theorem isAlpha_toLower {c : Char} (h : c.toNat < 128) : c.toLower.isAlpha = c.isAlpha :=
  (letterCase_of_ascii h).2.1.1

theorem isAlphanum_toLower {c : Char} (h : c.toNat < 128) :
    c.toLower.isAlphanum = c.isAlphanum :=
  (letterCase_of_ascii h).2.1.2

theorem IsWordChar.toLower {c : Char} (h : IsWordChar c) : IsWordChar c.toLower := by
  rcases h with halnum | rfl
  · exact .inl ((isAlphanum_toLower (IsWordChar.lt (.inl halnum))).trans halnum)
  · exact .inr rfl

theorem isUpper_toLower {c : Char} (h : c.toNat < 128) : c.toLower.isUpper = false :=
  (letterCase_of_ascii h).2.2.1

theorem toLower_toUpper {c : Char} (h : c.toNat < 128) (hupper : c.isUpper = false) :
    c.toUpper.toLower = c :=
  (letterCase_of_ascii h).2.2.2 hupper

theorem toUppercase_eq {cs : List Char} (h : ∀ c ∈ cs, IsWordChar c) :
    toUppercase cs = cs.map Char.toUpper := by
  have hforms : cs.map uppercase = cs.map fun c => [c.toUpper] :=
    List.map_congr_left fun c hc => (forms_of_ascii (h c hc).lt).2.1
  rw [toUppercase, List.flatMap_def, hforms, ← List.flatMap_def, List.map_eq_flatMap]

/-- Words have no sigma, so their small form is taken letter by letter. -/
theorem toLowercase_eq {cs : List Char} (h : ∀ c ∈ cs, IsWordChar c) :
    toLowercase cs = cs.map Char.toLower := by
  have hafter : ∀ before, toLowercaseAfter before cs = cs.map Char.toLower := by
    induction cs with
    | nil => intro before; rfl
    | cons c cs ih =>
      intro before
      rw [List.forall_mem_cons] at h
      have hsigma : c ≠ 'Σ' := fun heq => absurd h.1.lt (by rw [heq]; decide)
      simp [toLowercaseAfter, hsigma, (forms_of_ascii h.1.lt).2.2, ih h.2]
  exact hafter []

end Text

namespace Code

open WireSchema.Text (IsWordChar)

theorem isWordChar_of_isIdentifier {name : String} (h : IsIdentifier name) :
    ∀ c ∈ name.toList, IsWordChar c := by
  obtain ⟨first, rest, hname, hfirst, hrest⟩ := h
  rw [hname, List.forall_mem_cons]
  refine ⟨hfirst.imp_left fun halpha => ?_, hrest⟩
  rw [Char.isAlphanum, halpha, Bool.true_or]

/-! ## Large first letters -/

section Pascal

variable {cs : List Char}

theorem underscore_not_mem_capitalize {lowerRest : Bool} (h : '_' ∉ cs) :
    '_' ∉ capitalize lowerRest cs := by
  cases cs with
  | nil => exact List.not_mem_nil
  | cons first rest =>
    obtain ⟨hfirst, hrest⟩ := List.ne_and_not_mem_of_not_mem_cons h
    rw [capitalize, List.mem_append, not_or]
    refine ⟨(Text.underscore_not_mem_forms (Ne.symm hfirst)).1, ?_⟩
    split
    · exact Text.underscore_not_mem_toLowercase hrest
    · exact hrest

/-- No underscore remains, whatever the characters are. -/
theorem underscore_not_mem_pascalChars (cs : List Char) : '_' ∉ pascalChars cs := by
  unfold pascalChars
  split
  · intro hmem
    obtain ⟨word, hword, hmem⟩ := List.mem_flatMap.mp hmem
    refine underscore_not_mem_capitalize (fun hunderscore => ?_) hmem
    exact (Text.mem_and_ne_of_mem_split (List.mem_filter.mp hword).1 hunderscore).2 rfl
  · rename_i hplain
    exact underscore_not_mem_capitalize (by simpa using hplain)

theorem isAlphanum_of_mem_capitalize {lowerRest : Bool} (h : ∀ c ∈ cs, c.isAlphanum = true) :
    ∀ c ∈ capitalize lowerRest cs, c.isAlphanum = true := by
  cases cs with
  | nil => simp [capitalize]
  | cons first rest =>
    rw [List.forall_mem_cons] at h
    have hword : ∀ c ∈ rest, IsWordChar c := fun c hc => .inl (h.2 c hc)
    have hfirst : first.toNat < 128 := IsWordChar.lt (.inl h.1)
    intro c hc
    rw [capitalize, (Text.forms_of_ascii hfirst).2.1, Text.toLowercase_eq hword] at hc
    rcases List.mem_cons.mp hc with rfl | hc
    · rw [Text.isAlphanum_toUpper hfirst, h.1]
    · split at hc
      · obtain ⟨d, hd, rfl⟩ := List.mem_map.mp hc
        rw [Text.isAlphanum_toLower (hword d hd).lt, h.2 d hd]
      · exact h.2 c hc

theorem head?_capitalize {lowerRest : Bool} (h : ∀ c ∈ cs, IsWordChar c) :
    (capitalize lowerRest cs).head? = cs.head?.map Char.toUpper := by
  cases cs with
  | nil => rfl
  | cons first rest =>
    have hfirst := (h first List.mem_cons_self).lt
    simp [capitalize, (Text.forms_of_ascii hfirst).2.1]

/-- Letters and digits remain, underscores do not. -/
theorem isAlphanum_of_mem_pascalChars (h : ∀ c ∈ cs, IsWordChar c) :
    ∀ c ∈ pascalChars cs, c.isAlphanum = true := by
  intro c hc
  unfold pascalChars at hc
  split at hc
  · obtain ⟨word, hword, hc⟩ := List.mem_flatMap.mp hc
    refine isAlphanum_of_mem_capitalize (fun d hd => ?_) c hc
    obtain ⟨hmem, hne⟩ := Text.mem_and_ne_of_mem_split (List.mem_filter.mp hword).1 hd
    exact (h d hmem).resolve_right hne
  · rename_i hplain
    refine isAlphanum_of_mem_capitalize (fun d hd => (h d hd).resolve_right ?_) c hc
    rintro rfl
    exact hplain (by simpa using hd)

/-- The words of a name start with its first character that is no underscore. -/
theorem head?_words (h : ∀ c ∈ cs, IsWordChar c) :
    (((Text.split '_' cs).filter fun word => !word.isEmpty).flatMap (capitalize true)).head? =
      (cs.find? (· != '_')).map Char.toUpper := by
  induction cs with
  | nil => rfl
  | cons c cs ih =>
    rw [List.forall_mem_cons] at h
    by_cases hc : c = '_'
    · subst hc
      simpa using ih h.2
    · obtain ⟨piece, pieces, hsplit⟩ := List.exists_cons_of_ne_nil (Text.split_ne_nil '_' cs)
      simp [Text.split_cons_of_ne hc hsplit, capitalize, (Text.forms_of_ascii h.1.lt).2.1, hc]

theorem head?_pascalChars (h : ∀ c ∈ cs, IsWordChar c) :
    (pascalChars cs).head? = (cs.find? (· != '_')).map Char.toUpper := by
  unfold pascalChars
  split
  · exact head?_words h
  · rename_i hplain
    rw [head?_capitalize h]
    cases cs with
    | nil => rfl
    | cons first rest =>
      have hfirst : first ≠ '_' := fun heq => hplain (by simp [heq])
      simp [hfirst]

end Pascal

/-! ## Small letters -/

theorem isWordChar_of_mem_snakeFrom {before : Option Char} {spaced : Bool} {cs : List Char}
    (h : ∀ c ∈ cs, IsWordChar c) : ∀ c ∈ snakeFrom before spaced cs, IsWordChar c := by
  induction cs generalizing before spaced with
  | nil => simp [snakeFrom]
  | cons first rest ih =>
    rw [List.forall_mem_cons] at h
    obtain ⟨_, _, hlower⟩ := Text.forms_of_ascii h.1.lt
    intro c hc
    rw [snakeFrom] at hc
    split at hc
    · rw [hlower, List.mem_append, List.mem_append, List.mem_singleton] at hc
      rcases hc with (hc | rfl) | hc
      · split at hc
        · exact .inr (List.mem_singleton.mp hc)
        · cases hc
      · exact h.1.toLower
      · exact ih h.2 c hc
    · rcases List.mem_cons.mp hc with rfl | hc
      · exact h.1
      · exact ih h.2 c hc

theorem isUpper_of_mem_snakeFrom {before : Option Char} {spaced : Bool} {cs : List Char}
    (h : ∀ c ∈ cs, IsWordChar c) : ∀ c ∈ snakeFrom before spaced cs, c.isUpper = false := by
  induction cs generalizing before spaced with
  | nil => simp [snakeFrom]
  | cons first rest ih =>
    rw [List.forall_mem_cons] at h
    obtain ⟨hupper, _, hlower⟩ := Text.forms_of_ascii h.1.lt
    intro c hc
    rw [snakeFrom, hupper, hlower] at hc
    split at hc
    · rw [List.mem_append, List.mem_append, List.mem_singleton] at hc
      rcases hc with (hc | rfl) | hc
      · split at hc
        · rw [List.mem_singleton.mp hc]
          decide
        · cases hc
      · exact Text.isUpper_toLower h.1.lt
      · exact ih h.2 c hc
    · rename_i hsmall
      rcases List.mem_cons.mp hc with rfl | hc
      · exact Bool.eq_false_iff.mpr hsmall
      · exact ih h.2 c hc

theorem isIdentifier_snakeCase {name : String} (h : IsIdentifier name) :
    IsIdentifier (snakeCase name) := by
  have hword := isWordChar_of_isIdentifier h
  obtain ⟨first, rest, hname, hfirst, _⟩ := h
  rw [hname, List.forall_mem_cons] at hword
  obtain ⟨_, _, hlower⟩ := Text.forms_of_ascii hword.1.lt
  rw [IsIdentifier, snakeCase, String.toList_ofList, hname, snakeFrom]
  split
  · -- nothing is in front of the first letter, so no word ends there
    rw [hlower]
    refine ⟨first.toLower, _, rfl, ?_, isWordChar_of_mem_snakeFrom hword.2⟩
    rcases hfirst with halpha | rfl
    · exact .inl ((Text.isAlpha_toLower hword.1.lt).trans halpha)
    · exact .inr rfl
  · exact ⟨first, _, rfl, hfirst, isWordChar_of_mem_snakeFrom hword.2⟩

/-! ## Keywords -/

/-- An identifier that is no keyword. -/
def IsIdent (text : String) : Prop :=
  IsIdentifier text ∧ text ∉ keywords

instance : DecidablePred IsIdent := fun text =>
  decidable_of_iff (Source.isIdentifier text = true ∧ text ∉ keywords)
    (and_congr_left' Grammar.isIdentifier_iff)

theorem isIdent_of_keyword : ∀ word ∈ keywords, IsIdentifier word ∧ IsIdent (word ++ "_") := by
  have hwords : ∀ word ∈ keywords, Source.isIdentifier word = true ∧
      Source.isIdentifier (word ++ "_") = true ∧ word ++ "_" ∉ keywords := by decide +kernel
  intro word hword
  obtain ⟨hplain, hescaped, hnew⟩ := hwords word hword
  exact ⟨Grammar.isIdentifier_iff.mp hplain, Grammar.isIdentifier_iff.mp hescaped, hnew⟩

/-- Escaping keeps identifiers and leaves no keyword. -/
theorem isIdent_escapeKeyword_iff {text : String} :
    IsIdent (escapeKeyword text) ↔ IsIdentifier text := by
  unfold escapeKeyword
  split
  · rename_i hword
    obtain ⟨hidentifier, hescaped⟩ := isIdent_of_keyword text (by simpa using hword)
    exact iff_of_true hescaped hidentifier
  · rename_i hword
    exact and_iff_left (by simpa using hword)

theorem isWordChar_of_mem_escapeKeyword {text : String} (h : ∀ c ∈ text.toList, IsWordChar c) :
    ∀ c ∈ (escapeKeyword text).toList, IsWordChar c := by
  unfold escapeKeyword
  split
  · intro c hc
    rw [String.toList_append, List.mem_append] at hc
    rcases hc with hc | hc
    · exact h c hc
    · exact .inr (by simpa using hc)
  · exact h

/-- Two texts are escaped alike where one of them is the other, or a keyword with an underscore. -/
theorem escapeKeyword_eq_iff {a b : String} : escapeKeyword a = escapeKeyword b ↔
    a = b ∨ (a ∈ keywords ∧ b = a ++ "_") ∨ (b ∈ keywords ∧ a = b ++ "_") := by
  have hnew : ∀ word ∈ keywords, word ++ "_" ∉ keywords :=
    fun word hword => (isIdent_of_keyword word hword).2.2
  simp only [escapeKeyword, List.contains_iff_mem]
  by_cases ha : a ∈ keywords
  · by_cases hb : b ∈ keywords
    · simp only [ha, hb, if_true, true_and]
      constructor
      · intro h
        exact .inl (by simpa using h)
      · rintro (rfl | rfl | rfl)
        · rfl
        · exact absurd hb (hnew a ha)
        · exact absurd ha (hnew b hb)
    · simp only [ha, hb, if_true, if_false, true_and, false_and, or_false]
      constructor
      · intro h
        exact .inr h.symm
      · rintro (rfl | rfl)
        · exact absurd ha hb
        · rfl
  · by_cases hb : b ∈ keywords
    · simp only [ha, hb, if_true, if_false, true_and, false_and, false_or]
      constructor
      · intro h
        exact .inr h
      · rintro (rfl | rfl)
        · exact absurd hb ha
        · rfl
    · simp [ha, hb]

/-! ## Identifiers -/

/-- The first character of some names together that is no underscore is a letter. -/
def StartsWithLetter (names : List String) : Prop :=
  ∃ c, (names.flatMap String.toList).find? (· != '_') = some c ∧ c.isAlpha = true

instance : DecidablePred StartsWithLetter := fun names =>
  decidable_of_iff (((names.flatMap String.toList).find? (· != '_')).any Char.isAlpha = true)
    (Option.any_eq_true _ _)

/-- Names of fields or modules that get one identifier. -/
def Meet (a b : String) : Prop :=
  snakeCase a = snakeCase b ∨ (snakeCase a ∈ keywords ∧ snakeCase b = snakeCase a ++ "_") ∨
    (snakeCase b ∈ keywords ∧ snakeCase a = snakeCase b ++ "_")

instance : DecidableRel Meet := fun _ _ =>
  inferInstanceAs (Decidable (_ ∨ _))

theorem fieldIdent_eq_iff {a b : String} : fieldIdent a = fieldIdent b ↔ Meet a b :=
  escapeKeyword_eq_iff

theorem moduleIdent_eq_iff {a b : String} : moduleIdent a = moduleIdent b ↔ Meet a b :=
  escapeKeyword_eq_iff

theorem isIdent_fieldIdent {name : String} (h : IsIdentifier name) : IsIdent (fieldIdent name) :=
  isIdent_escapeKeyword_iff.mpr (isIdentifier_snakeCase h)

theorem isIdent_moduleIdent {segment : String} (h : IsIdentifier segment) :
    IsIdent (moduleIdent segment) :=
  isIdent_escapeKeyword_iff.mpr (isIdentifier_snakeCase h)

theorem toList_pascalCase (name : String) : (pascalCase name).toList = pascalChars name.toList :=
  String.toList_ofList

section

variable {names : List String} (h : ∀ name ∈ names, IsIdentifier name)

include h

theorem isAlphanum_of_mem_pascal :
    ∀ c ∈ names.flatMap fun name => pascalChars name.toList, c.isAlphanum = true := by
  intro c hc
  obtain ⟨name, hname, hc⟩ := List.mem_flatMap.mp hc
  exact isAlphanum_of_mem_pascalChars (isWordChar_of_isIdentifier (h name hname)) c hc

theorem head?_pascal : (names.flatMap fun name => pascalChars name.toList).head? =
    ((names.flatMap String.toList).find? (· != '_')).map Char.toUpper := by
  induction names with
  | nil => rfl
  | cons name rest ih =>
    rw [List.forall_mem_cons] at h
    simp only [List.flatMap_cons, List.head?_append, List.find?_append, ih h.2,
      head?_pascalChars (isWordChar_of_isIdentifier h.1)]
    cases List.find? (· != '_') name.toList <;> rfl

/-- Joined in large first letters, names make an identifier if a letter comes first. -/
theorem isIdentifier_pascal_iff {text : String}
    (htext : text.toList = names.flatMap fun name => pascalChars name.toList) :
    IsIdentifier text ↔ StartsWithLetter names := by
  have halnum := isAlphanum_of_mem_pascal h
  have hhead := head?_pascal h
  rw [← htext] at halnum hhead
  have hascii : ∀ c, (names.flatMap String.toList).find? (· != '_') = some c → c.toNat < 128 := by
    intro c hc
    obtain ⟨name, hname, hmem⟩ := List.mem_flatMap.mp (List.mem_of_find?_eq_some hc)
    exact (isWordChar_of_isIdentifier (h name hname) c hmem).lt
  constructor
  · intro hidentifier
    obtain ⟨first, rest, hlist, hfirst, _⟩ := hidentifier
    rw [hlist, List.forall_mem_cons] at halnum
    have halpha : first.isAlpha = true :=
      hfirst.resolve_right fun heq => absurd halnum.1 (by rw [heq]; decide)
    rw [hlist, List.head?_cons, eq_comm, Option.map_eq_some_iff] at hhead
    obtain ⟨c, hc, rfl⟩ := hhead
    exact ⟨c, hc, (Text.isAlpha_toUpper (hascii c hc)).symm.trans halpha⟩
  · intro hstarts
    obtain ⟨c, hc, halpha⟩ := hstarts
    rw [hc, Option.map_some] at hhead
    obtain ⟨rest, hlist⟩ := List.head?_eq_some_iff.mp hhead
    rw [hlist, List.forall_mem_cons] at halnum
    exact ⟨c.toUpper, rest, hlist, .inl ((Text.isAlpha_toUpper (hascii c hc)).trans halpha),
      fun d hd => .inl (halnum.2 d hd)⟩

end

theorem isIdent_typeIdent_iff {name : String} (h : IsIdentifier name) :
    IsIdent (typeIdent name) ↔ StartsWithLetter [name] := by
  rw [typeIdent, isIdent_escapeKeyword_iff]
  exact isIdentifier_pascal_iff (by simpa using h) (by simp [toList_pascalCase])

/-- Identifiers have no colon inside, nor has what stands for a type without letters. -/
theorem colon_not_mem_idents {name : String} (h : IsIdentifier name) :
    ':' ∉ (typeIdent name).toList ∧ ':' ∉ (moduleIdent name).toList := by
  have hcolon : ¬ IsWordChar ':' := by unfold IsWordChar; decide
  have hpascal : ∀ c ∈ (pascalCase name).toList, IsWordChar c := by
    rw [toList_pascalCase]
    exact fun c hc => .inl (isAlphanum_of_mem_pascalChars (isWordChar_of_isIdentifier h) c hc)
  exact ⟨fun hmem => hcolon (isWordChar_of_mem_escapeKeyword hpascal _ hmem),
    fun hmem => hcolon (isWordChar_of_isIdentifier (isIdent_moduleIdent h).1 _ hmem)⟩

/-- Large first letters leave no underscore, so no keyword is met by escaping another. -/
theorem typeIdent_eq_iff {a b : String} :
    typeIdent a = typeIdent b ↔ pascalCase a = pascalCase b := by
  have hplain : ∀ name : String, '_' ∉ (pascalCase name).toList := by
    intro name
    rw [toList_pascalCase]
    exact underscore_not_mem_pascalChars _
  rw [typeIdent, typeIdent, escapeKeyword_eq_iff]
  refine or_iff_left ?_
  rintro (⟨_, heq⟩ | ⟨_, heq⟩)
  · exact hplain b (by simp [heq])
  · exact hplain a (by simp [heq])

/-! ## Constants -/

section

variable {name : String} (h : IsIdentifier name)

include h

theorem toList_constIdent :
    (constIdent name).toList = (snakeCase name).toList.map Char.toUpper := by
  rw [constIdent, String.toList_ofList,
    Text.toUppercase_eq (isWordChar_of_isIdentifier (isIdentifier_snakeCase h))]

theorem map_toLower_constIdent :
    (constIdent name).toList.map Char.toLower = (snakeCase name).toList := by
  have hword := isWordChar_of_isIdentifier h
  rw [toList_constIdent h, List.map_map, snakeCase, String.toList_ofList]
  refine Eq.trans (List.map_congr_left fun c hc => ?_) (List.map_id _)
  exact Text.toLower_toUpper (isWordChar_of_mem_snakeFrom hword c hc).lt
    (isUpper_of_mem_snakeFrom hword c hc)

end

section

variable {a b : String} (ha : IsIdentifier a) (hb : IsIdentifier b)

include ha hb

/-- A constant is another one with something behind it just where the small names are so. -/
theorem constIdent_eq_append_iff {small large : String}
    (hlarge : small.toList.map Char.toUpper = large.toList)
    (hsmall : large.toList.map Char.toLower = small.toList) :
    constIdent b = constIdent a ++ large ↔ snakeCase b = snakeCase a ++ small := by
  simp only [← String.toList_inj, String.toList_append]
  constructor
  · intro heq
    rw [← map_toLower_constIdent ha, ← map_toLower_constIdent hb, heq, List.map_append, hsmall]
  · intro heq
    rw [toList_constIdent ha, toList_constIdent hb, heq, List.map_append, hlarge]

theorem constIdent_eq_iff : constIdent a = constIdent b ↔ snakeCase a = snakeCase b := by
  have hiff : constIdent a = constIdent b ++ "" ↔ snakeCase a = snakeCase b ++ "" :=
    constIdent_eq_append_iff hb ha rfl rfl
  simpa using hiff

end

end Code

end WireSchema
