/-
WireSchema.Proofs.Text.Characters — how the classes of characters lie to each other.

Identifiers are ASCII, so a fact about their characters is a fact about 128 codes (`forall_ascii`).
The other classes are tables of runs. What holds of all codes in the runs holds of every character
of the class (`CodeRun.forall_of_covers`), and a class holds another one if each run of the smaller
lies in one run of the greater (`CodeRun.covers_of_spans`).
-/
import WireSchema.Lexeme

namespace WireSchema

namespace Text

/-! ## Tables -/

namespace CodeRun

variable {runs : List CodeRun} {code : Nat}

theorem exists_of_covers (h : covers runs code = true) :
    ∃ run ∈ runs, run.first ≤ code ∧ code ≤ run.last := by
  induction runs with
  | nil => simp [covers] at h
  | cons run rest ih =>
    rw [covers] at h
    split at h
    · rename_i hle
      simp only [Bool.and_eq_true, decide_eq_true_eq] at h
      exact ⟨run, List.mem_cons_self, h.1, hle⟩
    · obtain ⟨other, hmem, hrange⟩ := ih h
      exact ⟨other, List.mem_cons_of_mem _ hmem, hrange⟩

theorem forall_of_covers {P : Nat → Prop}
    (h : ∀ run ∈ runs, ∀ i < run.last + 1 - run.first, P (run.first + i))
    (hcode : covers runs code = true) : P code := by
  obtain ⟨run, hrun, hfirst, hlast⟩ := exists_of_covers hcode
  have hplace := h run hrun (code - run.first) (by omega)
  rwa [Nat.add_sub_cancel' hfirst] at hplace

/-- Whether the first run that does not end before a stretch of codes has the whole of it. -/
def spans (first last : Nat) : List CodeRun → Bool
  | [] => false
  | run :: runs =>
    if first ≤ run.last then run.first ≤ first && last ≤ run.last && run.step == 1
    else spans first last runs

theorem covers_of_spans {first last : Nat} (h : spans first last runs = true)
    (hfirst : first ≤ code) (hlast : code ≤ last) : covers runs code = true := by
  induction runs with
  | nil => simp [spans] at h
  | cons run rest ih =>
    rw [spans] at h
    rw [covers]
    split at h
    · simp only [Bool.and_eq_true, decide_eq_true_eq, beq_iff_eq] at h
      obtain ⟨⟨hbegin, hend⟩, hstep⟩ := h
      have hle : code ≤ run.last := by omega
      have hbegin' : run.first ≤ code := by omega
      simp [hle, hbegin', hstep, Nat.mod_one]
    · have hgt : ¬ code ≤ run.last := by omega
      rw [if_neg hgt]
      exact ih h

end CodeRun

/-- A table whose runs move no code to `goal` sends nothing there. -/
theorem CodeShift.ne_of_target? {runs : List CodeShift} {goal : Nat} (hgoal : 0 < goal)
    (hruns : ∀ run ∈ runs, run.last + run.distance < goal ∨ goal < run.first + run.distance)
    {code target : Nat} (h : target? runs code = some target) : target ≠ goal := by
  induction runs with
  | nil => cases h
  | cons run rest ih =>
    obtain ⟨hrun, hrest⟩ := List.forall_mem_cons.mp hruns
    rw [target?] at h
    split at h
    · split at h
      · rename_i hlast hmoved
        simp only [Bool.and_eq_true, decide_eq_true_eq] at hmoved
        obtain ⟨hfirst, _⟩ := hmoved
        cases h
        omega
      · cases h
    · exact ih hrest h

/-- A number is a word. -/
theorem isWord_of_isDecimalDigit {c : Char} (h : isDecimalDigit c = true) : isWord c = true := by
  have hspans : (decimalDigitRuns.all fun run => CodeRun.spans run.first run.last wordRuns) =
      true := by decide +kernel
  obtain ⟨run, hrun, hfirst, hlast⟩ := CodeRun.exists_of_covers h
  exact CodeRun.covers_of_spans (List.all_eq_true.mp hspans run hrun) hfirst hlast

/-! ## ASCII -/

theorem forall_ascii {P : Char → Prop} (h : ∀ n : Fin 128, P (Char.ofNat n)) {c : Char}
    (hc : c.toNat < 128) : P c := by
  have hcode := h ⟨c.toNat, hc⟩
  rwa [Char.ofNat_toNat] at hcode

/-- A letter, a digit or an underscore. -/
def IsWordChar (c : Char) : Prop :=
  c.isAlphanum = true ∨ c = '_'

theorem IsWordChar.lt {c : Char} (h : IsWordChar c) : c.toNat < 128 := by
  have hbelow : ∀ bound : Char, c.val ≤ bound.val → bound.toNat < 128 → c.toNat < 128 :=
    fun bound hle hbound => Nat.lt_of_le_of_lt (UInt32.le_iff_toNat_le.mp hle) hbound
  rcases h with halnum | rfl
  · rcases (Bool.or_eq_true _ _).mp halnum with halpha | hdigit
    · rcases (Bool.or_eq_true _ _).mp halpha with hupper | hlower
      · exact hbelow 'Z' (of_decide_eq_true hupper).2 (by decide)
      · exact hbelow 'z' (of_decide_eq_true ((Bool.and_eq_true _ _).mp hlower).2) (by decide)
    · exact hbelow '9' (of_decide_eq_true ((Bool.and_eq_true _ _).mp hdigit).2) (by decide)
  · decide

theorem isWordChar_iff {c : Char} : Lexeme.isIdentifierPart c = true ↔ IsWordChar c := by
  rw [Lexeme.isIdentifierPart, Bool.or_eq_true, beq_iff_eq]
  rfl

/-- What an identifier is made of continues words. -/
theorem IsWordChar.isWord {c : Char} (h : IsWordChar c) : Text.isWord c = true :=
  forall_ascii (P := fun c => Lexeme.isIdentifierPart c = true → Text.isWord c = true)
    (by decide +kernel) h.lt (isWordChar_iff.mpr h)

end Text

end WireSchema
