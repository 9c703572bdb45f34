/-
WireSchema.Proofs.Source.Lexical — the tests on token texts decide the classes of the grammar.

The tests measure the longest numeral at the front of a text. Each part of a numeral ends where the next
cannot be mistaken for it, so the measured parts are the parts of the grammar: `wholeLength_append`,
`fractionLength_append`, `exponentLength_append`.
-/
import WireSchema.Proofs.Source.Grammar

namespace WireSchema.Grammar

open WireSchema.Lexeme
open WireSchema.Text (isDecimalDigit)

/-! ## Runs of digits -/

section

variable {cs rest : List Char}

/-- No digit stands at the front. -/
def DigitsEnd (cs : List Char) : Prop :=
  ∀ c ∈ cs.head?, isDecimalDigit c = false

theorem digitsEnd_nil : DigitsEnd [] := by
  simp [DigitsEnd]

/-- A run ends where its characters do. -/
theorem run_eq_length {p : Char → Bool} (h : ∀ c ∈ cs, p c = true)
    (hrest : ∀ c ∈ rest.head?, p c = false) : run p (cs ++ rest) = cs.length := by
  have hnone : rest.takeWhile p = [] := by
    cases rest with
    | nil => rfl
    | cons c rest => simp [hrest c rfl]
  rw [run, List.takeWhile_append_of_pos h, hnone, List.append_nil]

theorem run_append (h : IsDigits cs) (hrest : DigitsEnd rest) :
    run isDecimalDigit (cs ++ rest) = cs.length :=
  run_eq_length h.2 hrest

/-- A text is its run and what comes behind it. -/
theorem exists_run_append (p : Char → Bool) (cs : List Char) :
    ∃ front rest, cs = front ++ rest ∧ front.length = run p cs ∧ ∀ c ∈ front, p c = true :=
  ⟨cs.takeWhile p, cs.dropWhile p, List.takeWhile_append_dropWhile.symm, rfl,
    fun c hc => List.all_eq_true.mp List.all_takeWhile c hc⟩

/-- The front of a text up to its first character that is no digit. -/
theorem exists_run (h : run isDecimalDigit cs ≠ 0) :
    ∃ digits rest, cs = digits ++ rest ∧ digits.length = run isDecimalDigit cs ∧
      IsDigits digits := by
  obtain ⟨digits, rest, hcs, hlength, hdigits⟩ := exists_run_append isDecimalDigit cs
  refine ⟨digits, rest, hcs, hlength, ?_, hdigits⟩
  rintro rfl
  exact h hlength.symm

end

/-! ## Parts of numerals -/

section

variable {cs rest whole fraction exponent digits sign : List Char} {mark : Char}

theorem IsDigits.exists_cons (h : IsDigits digits) :
    ∃ c tail, digits = c :: tail ∧ c ≠ '-' ∧ c ≠ '+' := by
  obtain ⟨c, tail, rfl⟩ := List.exists_cons_of_ne_nil h.1
  have hc := h.2 c List.mem_cons_self
  refine ⟨c, tail, rfl, ?_, ?_⟩
  · rintro rfl
    exact absurd hc (by decide)
  · rintro rfl
    exact absurd hc (by decide)

theorem IsDigits.length_ne_zero (h : IsDigits digits) : digits.length ≠ 0 :=
  fun hzero => h.1 (List.length_eq_zero_iff.mp hzero)

theorem exists_sign (cs : List Char) :
    ∃ sign rest, cs = sign ++ rest ∧ sign ∈ [[], ['-']] ∧ sign.length = signLength cs := by
  unfold signLength
  split
  · exact ⟨['-'], _, rfl, by simp, rfl⟩
  · exact ⟨[], cs, rfl, by simp, rfl⟩

theorem signLength_append (hsign : sign ∈ [[], ['-']]) (h : IsDigits digits) :
    signLength (sign ++ (digits ++ rest)) = sign.length := by
  obtain ⟨c, tail, rfl, hc, _⟩ := h.exists_cons
  simp only [List.mem_cons, List.not_mem_nil, or_false] at hsign
  rcases hsign with rfl | rfl
  · simp [signLength, hc]
  · rfl

theorem wholeLength_append (h : IsWhole whole) (hrest : DigitsEnd rest) :
    wholeLength (whole ++ rest) = whole.length := by
  obtain ⟨sign, digits, rfl, hsign, hdigits⟩ := h
  rw [List.append_assoc, wholeLength, signLength_append hsign hdigits, List.drop_left,
    run_append hdigits hrest]
  simp [hdigits.length_ne_zero]

theorem exists_whole (h : wholeLength cs ≠ 0) :
    ∃ whole rest, cs = whole ++ rest ∧ whole.length = wholeLength cs ∧ IsWhole whole := by
  obtain ⟨sign, tail, hcs, hsign, hlength⟩ := exists_sign cs
  have hdrop : cs.drop (signLength cs) = tail := by rw [← hlength, hcs, List.drop_left]
  simp only [wholeLength, hdrop] at h ⊢
  by_cases hrun : run isDecimalDigit tail = 0
  · simp [hrun] at h
  · obtain ⟨digits, rest, rfl, hdigits, hclass⟩ := exists_run hrun
    refine ⟨sign ++ digits, rest, by rw [hcs, List.append_assoc], ?_, sign, digits, rfl, hsign, hclass⟩
    simp [hrun, hlength, hdigits]

theorem exists_fraction (cs : List Char) :
    ∃ fraction rest, cs = fraction ++ rest ∧ fraction.length = fractionLength cs ∧
      IsFraction fraction := by
  unfold fractionLength
  split
  · rename_i tail
    by_cases hrun : run isDecimalDigit tail = 0
    · exact ⟨[], _, rfl, by simp [hrun], .inl rfl⟩
    · obtain ⟨digits, rest, htail, hdigits, hclass⟩ := exists_run hrun
      refine ⟨'.' :: digits, rest, by rw [htail]; rfl, ?_, .inr ⟨digits, rfl, hclass⟩⟩
      simp [hrun, hdigits, Nat.add_comm]
  · exact ⟨[], cs, rfl, rfl, .inl rfl⟩

theorem exists_mark (h : exponentMarkLength cs ≠ 0) :
    ∃ mark sign rest, cs = mark :: (sign ++ rest) ∧ mark ∈ ['e', 'E'] ∧
      sign ∈ [[], ['+'], ['-']] ∧ 1 + sign.length = exponentMarkLength cs := by
  unfold exponentMarkLength at h ⊢
  split at h
  · exact ⟨'e', ['+'], _, rfl, by simp, by simp, rfl⟩
  · exact ⟨'e', ['-'], _, rfl, by simp, by simp, rfl⟩
  · exact ⟨'E', ['+'], _, rfl, by simp, by simp, rfl⟩
  · exact ⟨'E', ['-'], _, rfl, by simp, by simp, rfl⟩
  · exact ⟨'e', [], _, rfl, by simp, by simp, by simp_all⟩
  · exact ⟨'E', [], _, rfl, by simp, by simp, by simp_all⟩
  · exact absurd rfl h

theorem exponentMarkLength_append (hmark : mark ∈ ['e', 'E']) (hsign : sign ∈ [[], ['+'], ['-']])
    (h : IsDigits digits) :
    exponentMarkLength (mark :: (sign ++ (digits ++ rest))) = 1 + sign.length := by
  obtain ⟨c, tail, rfl, hminus, hplus⟩ := h.exists_cons
  simp only [List.mem_cons, List.not_mem_nil, or_false] at hmark hsign
  rcases hmark with rfl | rfl <;> rcases hsign with rfl | rfl | rfl <;>
    simp [exponentMarkLength, hminus, hplus]

theorem exists_exponent (cs : List Char) :
    ∃ exponent rest, cs = exponent ++ rest ∧ exponent.length = exponentLength cs ∧
      IsExponent exponent := by
  by_cases hmark : exponentMarkLength cs = 0
  · exact ⟨[], cs, rfl, by simp [exponentLength, hmark], .inl rfl⟩
  · obtain ⟨mark, sign, tail, hcs, hm, hs, hlength⟩ := exists_mark hmark
    have hdrop : cs.drop (exponentMarkLength cs) = tail := by
      rw [← hlength, hcs, Nat.add_comm, List.drop_succ_cons, List.drop_left]
    by_cases hrun : run isDecimalDigit tail = 0
    · exact ⟨[], cs, rfl, by simp [exponentLength, hdrop, hrun], .inl rfl⟩
    · obtain ⟨digits, rest, rfl, hdigits, hclass⟩ := exists_run hrun
      refine ⟨mark :: (sign ++ digits), rest, by simp [hcs], ?_,
        .inr ⟨mark, sign, digits, rfl, hm, hs, hclass⟩⟩
      have htotal : exponentLength cs =
          exponentMarkLength cs + run isDecimalDigit (digits ++ rest) := by
        simp [exponentLength, hdrop, hmark, hrun]
      rw [htotal, ← hlength, ← hdigits, List.length_cons, List.length_append]
      omega

/-- An exponent ends with its digits; where there is none, no mark stands in its place. -/
theorem exponentLength_append (h : IsExponent exponent) (hrest : DigitsEnd rest)
    (hnone : exponent = [] → exponentMarkLength rest = 0) :
    exponentLength (exponent ++ rest) = exponent.length := by
  rcases h with rfl | ⟨mark, sign, digits, rfl, hmark, hsign, hdigits⟩
  · simp [exponentLength, hnone rfl]
  · have hlength : exponentMarkLength (mark :: (sign ++ (digits ++ rest))) = 1 + sign.length :=
      exponentMarkLength_append hmark hsign hdigits
    simp only [exponentLength, List.cons_append, List.append_assoc, hlength, Nat.add_comm 1,
      List.drop_succ_cons, List.drop_left, run_append hdigits hrest]
    simp [hdigits.length_ne_zero]
    omega

theorem IsExponent.digitsEnd (h : IsExponent exponent) (hrest : DigitsEnd rest) :
    DigitsEnd (exponent ++ rest) := by
  rcases h with rfl | ⟨mark, _, _, rfl, hmark, _⟩
  · exact hrest
  · simp only [List.mem_cons, List.not_mem_nil, or_false] at hmark
    rcases hmark with rfl | rfl <;>
      simp only [DigitsEnd, List.cons_append, List.head?_cons, Option.mem_some_iff] <;>
        rintro _ rfl <;> decide

theorem IsFraction.digitsEnd (h : IsFraction fraction) (hrest : DigitsEnd rest) :
    DigitsEnd (fraction ++ rest) := by
  rcases h with rfl | ⟨digits, rfl, _⟩
  · exact hrest
  · simp only [DigitsEnd, List.cons_append, List.head?_cons, Option.mem_some_iff]
    rintro _ rfl
    decide

/-- A fraction ends with its digits; where there is none, no point stands in its place. -/
theorem fractionLength_append (h : IsFraction fraction) (hrest : DigitsEnd rest)
    (hnone : fraction = [] → rest.head? ≠ some '.') :
    fractionLength (fraction ++ rest) = fraction.length := by
  rcases h with rfl | ⟨digits, rfl, hdigits⟩
  · unfold fractionLength
    split
    · rename_i tail hpoint
      rw [List.nil_append] at hpoint
      exact absurd (by simp [hpoint]) (hnone rfl)
    · rfl
  · simp only [fractionLength, List.cons_append, run_append hdigits hrest]
    simp [hdigits.length_ne_zero, Nat.add_comm]

/-- No exponent begins with a point. -/
theorem IsExponent.head?_ne (h : IsExponent exponent)
    (hrest : exponent = [] → rest.head? ≠ some '.') : (exponent ++ rest).head? ≠ some '.' := by
  rcases h with rfl | ⟨mark, _, _, rfl, hmark, _⟩
  · exact hrest rfl
  · simp only [List.mem_cons, List.not_mem_nil, or_false] at hmark
    rcases hmark with rfl | rfl <;> simp

theorem IsWhole.length_ne_zero (h : IsWhole whole) : whole.length ≠ 0 := by
  obtain ⟨sign, digits, rfl, _, hdigits⟩ := h
  have hne := hdigits.length_ne_zero
  rw [List.length_append]
  omega

/-- A numeral is measured up to its end where neither a part that it lacks nor more digits
follow. -/
theorem numeralLength_append (hwhole : IsWhole whole) (hfraction : IsFraction fraction)
    (hexponent : IsExponent exponent) (hrest : DigitsEnd rest)
    (hpoint : fraction = [] → exponent = [] → rest.head? ≠ some '.')
    (hmark : exponent = [] → exponentMarkLength rest = 0) :
    numeralLength (whole ++ (fraction ++ (exponent ++ rest))) =
      (whole ++ (fraction ++ exponent)).length := by
  have hends := hexponent.digitsEnd hrest
  have hlength := wholeLength_append hwhole (hfraction.digitsEnd hends)
  have hdrop : (whole ++ (fraction ++ (exponent ++ rest))).drop (whole.length + fraction.length) =
      exponent ++ rest := by
    rw [← List.drop_drop, List.drop_left, List.drop_left]
  have hfraction' := fractionLength_append hfraction hends fun hnone =>
    hexponent.head?_ne (hpoint hnone)
  simp only [numeralLength, hlength, List.drop_left, hfraction', hdrop,
    exponentLength_append hexponent hrest hmark]
  simp [hwhole.length_ne_zero, Nat.add_assoc]

theorem exists_numeral (h : numeralLength cs ≠ 0) :
    ∃ whole fraction exponent rest, cs = whole ++ (fraction ++ (exponent ++ rest)) ∧
      numeralLength cs = (whole ++ (fraction ++ exponent)).length ∧ IsWhole whole ∧
        IsFraction fraction ∧ IsExponent exponent := by
  have hne : wholeLength cs ≠ 0 := fun hzero => h (by simp [numeralLength, hzero])
  obtain ⟨whole, afterWhole, hcs, hwhole, hclass⟩ := exists_whole hne
  have hdrop : cs.drop (wholeLength cs) = afterWhole := by rw [← hwhole, hcs, List.drop_left]
  obtain ⟨fraction, afterFraction, hsplit, hfraction, hclass'⟩ := exists_fraction afterWhole
  have hdrop' : cs.drop (wholeLength cs + fractionLength afterWhole) = afterFraction := by
    rw [← List.drop_drop, hdrop, ← hfraction, hsplit, List.drop_left]
  obtain ⟨exponent, rest, rfl, hexponent, hclass''⟩ := exists_exponent afterFraction
  refine ⟨whole, fraction, exponent, rest, by rw [hcs, hsplit], ?_, hclass, hclass', hclass''⟩
  simp only [numeralLength, hdrop, hdrop']
  simp [hne, hwhole, hfraction, hexponent, Nat.add_assoc]

end

/-! ## Tests -/

section

variable {text body : String}

theorem isIdentifier_iff : Source.isIdentifier text = true ↔ IsIdentifier text := by
  unfold Source.isIdentifier IsIdentifier
  cases htext : text.toList with
  | nil => simp
  | cons c cs =>
    simp only [isIdentifierStart, isIdentifierPart, Bool.and_eq_true, Bool.or_eq_true, beq_iff_eq,
      List.all_eq_true, List.cons.injEq]
    constructor
    · intro h
      exact ⟨c, cs, ⟨rfl, rfl⟩, h⟩
    · rintro ⟨_, _, ⟨rfl, rfl⟩, h⟩
      exact h

theorem IsIdentifier.ne_empty (h : IsIdentifier text) : text ≠ "" := by
  rintro rfl
  obtain ⟨c, cs, htext, _⟩ := h
  cases htext

theorem IsIdentifier.ne {other : String} (h : IsIdentifier text)
    (hother : Source.isIdentifier other = false) : text ≠ other := by
  rintro rfl
  rw [isIdentifier_iff.mpr h] at hother
  cases hother

theorem isInteger_iff : Source.isInteger text = true ↔ IsInteger text := by
  simp only [Source.isInteger, IsInteger, Bool.and_eq_true, decide_eq_true_eq, beq_iff_eq,
    ← String.length_toList]
  constructor
  · rintro ⟨hpos, hlength⟩
    obtain ⟨whole, rest, hcs, hwhole, hclass⟩ := exists_whole (Nat.ne_of_gt hpos)
    have hrest : rest = [] := by
      have htotal := congrArg List.length hcs
      rw [List.length_append] at htotal
      exact List.length_eq_zero_iff.mp (by omega)
    rw [hcs, hrest, List.append_nil]
    exact hclass
  · intro h
    have hlength : wholeLength text.toList = text.toList.length := by
      simpa using wholeLength_append h digitsEnd_nil
    exact ⟨by rw [hlength]; exact Nat.pos_of_ne_zero h.length_ne_zero, hlength⟩

theorem IsInteger.ne_empty (h : IsInteger text) : text ≠ "" := by
  rintro rfl
  exact IsWhole.length_ne_zero h rfl

theorem isNumeral_iff : Source.isNumeral text = true ↔ IsFloat text := by
  simp only [Source.isNumeral, IsFloat, Bool.and_eq_true, decide_eq_true_eq, beq_iff_eq,
    ← String.length_toList]
  constructor
  · rintro ⟨hpos, hlength⟩
    obtain ⟨whole, fraction, exponent, rest, hcs, hnumeral, hclass⟩ :=
      exists_numeral (Nat.ne_of_gt hpos)
    have hrest : rest = [] := by
      have htotal := congrArg List.length hcs
      simp only [List.length_append] at htotal hnumeral
      exact List.length_eq_zero_iff.mp (by omega)
    exact ⟨whole, fraction, exponent, by rw [hcs, hrest, List.append_nil], hclass⟩
  · rintro ⟨whole, fraction, exponent, hcs, hwhole, hfraction, hexponent⟩
    have hlength := numeralLength_append hwhole hfraction hexponent digitsEnd_nil (by simp)
      fun _ => rfl
    rw [List.append_nil, ← hcs] at hlength
    have hpos := hwhole.length_ne_zero
    refine ⟨?_, hlength⟩
    rw [hlength, hcs, List.length_append]
    omega

theorem IsInteger.isFloat (h : IsInteger text) : IsFloat text :=
  ⟨text.toList, [], [], by simp, h, .inl rfl, .inl rfl⟩

theorem IsQuoted.ne_empty (h : IsQuoted text body) : text ≠ "" := by
  rintro rfl
  cases h.1

theorem IsIdentifier.not_isQuoted (h : IsIdentifier text) : ¬ IsQuoted text body := by
  rintro ⟨hquoted, _⟩
  obtain ⟨c, cs, htext, hc, _⟩ := h
  obtain ⟨rfl, _⟩ := List.cons.inj (htext.symm.trans hquoted)
  revert hc
  decide

theorem unquote?_eq_some_iff : Source.unquote? text = some body ↔ IsQuoted text body := by
  unfold Source.unquote? IsQuoted
  constructor
  · intro h
    split at h
    · rename_i cs htext
      simp only [Option.ite_none_right_eq_some, Bool.and_eq_true, beq_iff_eq, Bool.not_eq_true',
        Option.some.injEq] at h
      obtain ⟨⟨hlast, hinner⟩, rfl⟩ := h
      obtain ⟨inner, rfl⟩ := List.getLast?_eq_some_iff.mp hlast
      rw [List.dropLast_concat] at hinner ⊢
      rw [htext, String.toList_ofList]
      exact ⟨rfl, by simpa using hinner⟩
    · cases h
  · rintro ⟨htext, hinner⟩
    simp [htext, hinner]

end

end WireSchema.Grammar
