/-
WireSchema.Proofs.Source.Lexemes — the piece at the front of a text is the longest one.

`IsLexeme` says what the pieces of a schema text are, kind by kind, each between the character in
front of it and the text behind it. The first character decides the kind (`LexemeKind.ofFront?`), so
the kinds never compete, and each recogniser takes the longest piece of its kind: only numbers and
runs have shorter ones at all.

Main statements: `lexeme?_eq_some_iff_isLongest`, `lexeme?_eq_none_iff_isStuck`.
-/
import WireSchema.Proofs.Source.Lexical
import WireSchema.Proofs.Text.Characters

namespace WireSchema

open WireSchema.Grammar
open WireSchema.Lexeme
open WireSchema.Text (isBlank isDecimalDigit isWord)

/-! ## Pieces -/

/-- No word continues at the front of a text. -/
def WordEnds (cs : List Char) : Prop :=
  ∀ c ∈ cs.head?, isWord c = false

/-- A piece of a text, behind a character and in front of a rest. Numbers and identifiers end with a
word, and identifiers are whole words. A block comment ends with the first closing mark. -/
inductive IsLexeme (before : Option Char) (rest : List Char) : LexemeKind → List Char → Prop
  | number {whole fraction exponent : List Char} (hwhole : IsWhole whole)
      (hfraction : IsFraction fraction) (hexponent : IsExponent exponent)
      (hend : WordEnds rest) : IsLexeme before rest .number (whole ++ (fraction ++ exponent))
  | string {body : List Char} (hbody : ∀ c ∈ body, c ≠ '"' ∧ c ≠ '\n') :
      IsLexeme before rest .string ('"' :: (body ++ ['"']))
  | symbol {c : Char} (hc : c ∈ symbols) : IsLexeme before rest .symbol [c]
  | identifier {word : List Char} (hword : IsIdentifier (String.ofList word))
      (hbefore : ∀ c ∈ before, isWord c = false) (hend : WordEnds rest) :
      IsLexeme before rest .identifier word
  | line {body : List Char} (hbody : '\n' ∉ body) :
      IsLexeme before rest .comment ('/' :: '/' :: body)
  | block {body : List Char} (hbody : ¬ ['*', '/'] <:+: body) :
      IsLexeme before rest .comment ('/' :: '*' :: (body ++ ['*', '/']))
  | blank {cs : List Char} (hne : cs ≠ []) (hblank : ∀ c ∈ cs, isBlank c = true) :
      IsLexeme before rest .blank cs

/-- No piece at the front of a text is longer. -/
structure IsLongest (before : Option Char) (cs : List Char) (kind : LexemeKind)
    (piece : List Char) : Prop where
  isLexeme : ∃ rest, cs = piece ++ rest ∧ IsLexeme before rest kind piece
  longest : ∀ other shorter rest, cs = shorter ++ rest → IsLexeme before rest other shorter →
    shorter.length ≤ piece.length

/-- No piece begins at the front of a text. -/
def IsStuck (before : Option Char) (cs : List Char) : Prop :=
  ∀ kind piece rest, cs = piece ++ rest → ¬ IsLexeme before rest kind piece

theorem WordEnds.digitsEnd {cs : List Char} (h : WordEnds cs) : DigitsEnd cs := by
  intro c hc
  by_cases hdigit : isDecimalDigit c = true
  · exact absurd (Text.isWord_of_isDecimalDigit hdigit) (by simp [h c hc])
  · exact Bool.eq_false_iff.mpr hdigit

/-- The marks of an exponent are word characters. -/
theorem WordEnds.exponentMarkLength_eq_zero {cs : List Char} (h : WordEnds cs) :
    exponentMarkLength cs = 0 := by
  cases cs with
  | nil => rfl
  | cons c cs =>
    have hc : isWord c = false := h c rfl
    by_cases he : c = 'e'
    · subst he
      exact absurd hc (by decide +kernel)
    by_cases hE : c = 'E'
    · subst hE
      exact absurd hc (by decide +kernel)
    · simp [exponentMarkLength, he, hE]

/-! ## The first character -/

/-- The kind of the pieces that begin with a character. -/
def LexemeKind.ofFront? (c : Char) : Option LexemeKind :=
  if c == '-' || isDecimalDigit c then some .number
  else if c == '"' then some .string
  else if symbols.contains c then some .symbol
  else if isIdentifierStart c then some .identifier
  else if c == '/' then some .comment
  else if isBlank c then some .blank
  else none

theorem ofFront?_of_mem_symbols {c : Char} (h : c ∈ symbols) :
    LexemeKind.ofFront? c = some .symbol := by
  have hall : symbols.all (fun c => LexemeKind.ofFront? c == some .symbol) = true := by
    decide +kernel
  exact beq_iff_eq.mp (List.all_eq_true.mp hall c h)

theorem ofFront?_of_isIdentifierStart {c : Char} (h : isIdentifierStart c = true) :
    LexemeKind.ofFront? c = some .identifier := by
  have hword : Text.IsWordChar c := by
    rcases (Bool.or_eq_true _ _).mp h with halpha | hline
    · exact .inl ((Bool.or_eq_true _ _).mpr (.inl halpha))
    · exact .inr (beq_iff_eq.mp hline)
  exact Text.forall_ascii (P := fun c => isIdentifierStart c = true →
    LexemeKind.ofFront? c = some .identifier) (by decide +kernel) hword.lt h

theorem ofFront?_of_isBlank {c : Char} (h : isBlank c = true) :
    LexemeKind.ofFront? c = some .blank := by
  have hcode : LexemeKind.ofFront? (Char.ofNat c.toNat) = some .blank :=
    Text.CodeRun.forall_of_covers (P := fun n => LexemeKind.ofFront? (Char.ofNat n) = some .blank)
      (by decide +kernel) h
  rwa [Char.ofNat_toNat] at hcode

theorem IsWhole.front {whole : List Char} (h : IsWhole whole) :
    ∃ c rest, whole = c :: rest ∧ LexemeKind.ofFront? c = some .number := by
  obtain ⟨sign, digits, rfl, hsign, hdigits⟩ := h
  obtain ⟨c, tail, rfl, _⟩ := hdigits.exists_cons
  have hdigit := hdigits.2 c List.mem_cons_self
  simp only [List.mem_cons, List.not_mem_nil, or_false] at hsign
  rcases hsign with rfl | rfl
  · exact ⟨c, tail, rfl, by simp [LexemeKind.ofFront?, hdigit]⟩
  · exact ⟨'-', c :: tail, rfl, rfl⟩

/-- A piece begins with a character of its kind. -/
theorem IsLexeme.front {before : Option Char} {rest piece : List Char} {kind : LexemeKind}
    (h : IsLexeme before rest kind piece) :
    ∃ c tail, piece = c :: tail ∧ LexemeKind.ofFront? c = some kind := by
  cases h with
  | number hwhole _ _ _ =>
    obtain ⟨c, tail, rfl, hfront⟩ := IsWhole.front hwhole
    exact ⟨c, _, rfl, hfront⟩
  | string _ => exact ⟨'"', _, rfl, by decide +kernel⟩
  | @symbol c hc => exact ⟨c, [], rfl, ofFront?_of_mem_symbols hc⟩
  | identifier hword _ _ =>
    obtain ⟨c, cs, htext, hc, _⟩ := hword
    rw [String.toList_ofList] at htext
    refine ⟨c, cs, htext, ofFront?_of_isIdentifierStart ?_⟩
    simpa [isIdentifierStart] using hc
  | line _ => exact ⟨'/', _, rfl, by decide +kernel⟩
  | block _ => exact ⟨'/', _, rfl, by decide +kernel⟩
  | blank hne hblank =>
    obtain ⟨c, tail, rfl⟩ := List.exists_cons_of_ne_nil hne
    exact ⟨c, tail, rfl, ofFront?_of_isBlank (hblank c List.mem_cons_self)⟩

namespace Lexeme

variable {before : Option Char} {cs rest piece : List Char} {kind : LexemeKind} {l : Lexeme}

/-- What is taken from the front of a text is a piece of a kind. -/
def Takes (before : Option Char) (cs : List Char) (kind : LexemeKind) (l : Lexeme) : Prop :=
  ∃ piece rest, cs = piece ++ rest ∧ l = ⟨kind, piece.length⟩ ∧ IsLexeme before rest kind piece

/-! ## Each recogniser takes a piece -/

theorem wordEnds_iff : wordEnds cs = true ↔ WordEnds cs := by
  cases cs <;> simp [wordEnds, WordEnds]

theorem length_le_run {p : Char → Bool} (h : ∀ c ∈ piece, p c = true) :
    piece.length ≤ run p (piece ++ rest) := by
  rw [run, List.takeWhile_append_of_pos h, List.length_append]
  omega

theorem takes_of_number? (h : number? cs = some l) : Takes before cs .number l := by
  simp only [number?, beq_iff_eq, Option.ite_none_left_eq_some, Option.map_eq_some_iff] at h
  obtain ⟨hwhole, n, hn, rfl⟩ := h
  have hword : wordEnds (cs.drop n) = true := List.find?_some (p := fun n => wordEnds (cs.drop n)) hn
  have hend := wordEnds_iff.mp hword
  have hmem := List.mem_of_find?_eq_some hn
  simp only [List.mem_cons, List.not_mem_nil, or_false] at hmem
  rcases hmem with rfl | rfl
  · have hne : numeralLength cs ≠ 0 := by
      simp only [numeralLength, beq_iff_eq, hwhole, if_false]
      omega
    obtain ⟨whole, fraction, exponent, rest, hcs, hlength, hclass⟩ := exists_numeral hne
    have hsplit : cs = (whole ++ (fraction ++ exponent)) ++ rest := by simp [hcs]
    rw [hlength, hsplit, List.drop_left] at hend
    exact ⟨_, rest, hsplit, by rw [hlength], .number hclass.1 hclass.2.1 hclass.2.2 hend⟩
  · obtain ⟨whole, rest, hcs, hlength, hclass⟩ := exists_whole hwhole
    rw [← hlength, hcs, List.drop_left] at hend
    refine ⟨whole ++ ([] ++ []), rest, by simp [hcs], by simp [hlength], ?_⟩
    exact .number hclass (.inl rfl) (.inl rfl) hend

theorem takes_of_string? (h : string? cs = some l) : Takes before cs .string l := by
  unfold string? at h
  split at h
  · rename_i tail
    simp only [Option.ite_none_right_eq_some, beq_iff_eq, Option.some.injEq] at h
    obtain ⟨hquote, rfl⟩ := h
    obtain ⟨body, rest, htail, hlength, hbody⟩ :=
      exists_run_append (fun c => c != '"' && c != '\n') tail
    rw [← hlength, htail, List.drop_left] at hquote
    obtain ⟨rest, rfl⟩ := List.head?_eq_some_iff.mp hquote
    refine ⟨'"' :: (body ++ ['"']), rest, by simp [htail], by simp [hlength], .string ?_⟩
    simpa using hbody
  · cases h

theorem takes_of_symbol? (h : symbol? cs = some l) : Takes before cs .symbol l := by
  unfold symbol? at h
  split at h
  · rename_i c tail
    simp only [Option.ite_none_right_eq_some, List.contains_iff_mem, Option.some.injEq] at h
    obtain ⟨hc, rfl⟩ := h
    exact ⟨[c], tail, rfl, rfl, .symbol hc⟩
  · cases h

theorem takes_of_identifier? (h : identifier? before cs = some l) :
    Takes before cs .identifier l := by
  unfold identifier? at h
  split at h
  · rename_i c tail
    simp only [Option.ite_none_right_eq_some, Bool.and_eq_true, Option.some.injEq] at h
    obtain ⟨⟨⟨hc, hbefore⟩, hend⟩, rfl⟩ := h
    obtain ⟨parts, rest, rfl, hlength, hparts⟩ := exists_run_append isIdentifierPart tail
    rw [← hlength, Nat.add_comm, List.drop_succ_cons, List.drop_left, wordEnds_iff] at hend
    refine ⟨c :: parts, rest, rfl, by simp [hlength, Nat.add_comm], .identifier ?_ ?_ hend⟩
    · refine ⟨c, parts, String.toList_ofList, by simpa [isIdentifierStart] using hc, ?_⟩
      intro d hd
      exact Text.isWordChar_iff.mp (hparts d hd)
    · intro d hd
      cases hd
      simpa using hbefore
  · cases h

/-- A block comment ends with the first closing mark. -/
theorem exists_block_of_blockLength? {n : Nat} (h : blockLength? cs = some n) :
    ∃ body rest, cs = body ++ '*' :: '/' :: rest ∧ ¬ ['*', '/'] <:+: body ∧
      n = body.length + 2 := by
  fun_induction blockLength? cs generalizing n with
  | case1 tail =>
    cases h
    exact ⟨[], tail, rfl, by simp, rfl⟩
  | case2 c tail hopen ih =>
    obtain ⟨m, hm, rfl⟩ := Option.map_eq_some_iff.mp h
    obtain ⟨body, rest, rfl, hbody, rfl⟩ := ih hm
    refine ⟨c :: body, rest, rfl, ?_, rfl⟩
    rw [List.infix_cons_iff, not_or]
    refine ⟨?_, hbody⟩
    -- a mark over the first character would have ended the comment there
    rintro ⟨after, hmark⟩
    cases hmark
    exact hopen _ rfl rfl
  | case3 => cases h

theorem blockLength?_append {body : List Char} (h : ¬ ['*', '/'] <:+: body) :
    blockLength? (body ++ '*' :: '/' :: rest) = some (body.length + 2) := by
  induction body with
  | nil => rfl
  | cons c body ih =>
    rw [List.infix_cons_iff, not_or] at h
    have hstep : blockLength? (c :: (body ++ '*' :: '/' :: rest)) =
        (blockLength? (body ++ '*' :: '/' :: rest)).map (· + 1) := by
      refine blockLength?.eq_2 _ _ ?_
      intro tail hc htail
      subst hc
      cases body with
      | nil => cases htail
      | cons d body =>
        cases htail
        exact h.1 ⟨body, rfl⟩
    rw [List.cons_append, hstep, ih h.2]
    rfl

theorem takes_of_comment? (h : comment? cs = some l) : Takes before cs .comment l := by
  unfold comment? at h
  split at h
  · rename_i tail
    cases h
    obtain ⟨body, rest, rfl, hlength, hbody⟩ := exists_run_append (· != '\n') tail
    refine ⟨'/' :: '/' :: body, rest, rfl, ?_, .line ?_⟩
    · rw [← hlength, Nat.add_comm]
      rfl
    · intro hnewline
      simpa using hbody _ hnewline
  · rename_i tail
    obtain ⟨n, hn, rfl⟩ := Option.map_eq_some_iff.mp h
    obtain ⟨body, rest, rfl, hbody, rfl⟩ := exists_block_of_blockLength? hn
    refine ⟨'/' :: '*' :: (body ++ ['*', '/']), rest, by simp, ?_, .block hbody⟩
    simp [Nat.add_comm 2]
  · cases h

theorem takes_of_blank? (h : blank? cs = some l) : Takes before cs .blank l := by
  simp only [blank?, Option.ite_none_left_eq_some, beq_iff_eq, Option.some.injEq] at h
  obtain ⟨hrun, rfl⟩ := h
  obtain ⟨front, rest, hcs, hlength, hblank⟩ := exists_run_append isBlank cs
  refine ⟨front, rest, hcs, by rw [hlength], .blank ?_ hblank⟩
  rintro rfl
  exact hrun hlength.symm

/-! ## Each recogniser takes the longest piece -/

theorem wholeLength_le_numeralLength (cs : List Char) : wholeLength cs ≤ numeralLength cs := by
  simp only [numeralLength, beq_iff_eq]
  split <;> omega

/-- A number ends with its numeral or with its whole part. -/
theorem length_number {whole fraction exponent : List Char} (hwhole : IsWhole whole)
    (hfraction : IsFraction fraction) (hexponent : IsExponent exponent) (hend : WordEnds rest) :
    (whole ++ (fraction ++ exponent)).length =
        numeralLength ((whole ++ (fraction ++ exponent)) ++ rest) ∨
      (whole ++ (fraction ++ exponent)).length =
        wholeLength ((whole ++ (fraction ++ exponent)) ++ rest) := by
  by_cases hshort : fraction = [] ∧ exponent = []
  · obtain ⟨rfl, rfl⟩ := hshort
    right
    simp only [List.append_nil]
    rw [wholeLength_append hwhole hend.digitsEnd]
  · left
    have hnumeral := numeralLength_append hwhole hfraction hexponent hend.digitsEnd
      (fun hfraction hexponent => absurd ⟨hfraction, hexponent⟩ hshort)
      (fun _ => hend.exponentMarkLength_eq_zero)
    rw [← hnumeral]
    simp only [List.append_assoc]

/-- The number at the front is no shorter than any other: it is the whole numeral, and its whole
part only where the numeral runs into a word. -/
theorem number?_append {whole fraction exponent : List Char} (hwhole : IsWhole whole)
    (hfraction : IsFraction fraction) (hexponent : IsExponent exponent) (hend : WordEnds rest) :
    ∃ n, number? ((whole ++ (fraction ++ exponent)) ++ rest) = some ⟨.number, n⟩ ∧
      (whole ++ (fraction ++ exponent)).length ≤ n := by
  have hlength := length_number hwhole hfraction hexponent hend
  have hne : wholeLength ((whole ++ (fraction ++ exponent)) ++ rest) ≠ 0 := by
    have hends := hfraction.digitsEnd (hexponent.digitsEnd hend.digitsEnd)
    simp only [List.append_assoc]
    rw [wholeLength_append hwhole hends]
    exact hwhole.length_ne_zero
  generalize hpiece : whole ++ (fraction ++ exponent) = piece at *
  have hcut : wordEnds ((piece ++ rest).drop piece.length) = true := by
    rw [List.drop_left]
    exact wordEnds_iff.mpr hend
  have hle := wholeLength_le_numeralLength (piece ++ rest)
  by_cases hnumeral : wordEnds ((piece ++ rest).drop (numeralLength (piece ++ rest))) = true
  · refine ⟨numeralLength (piece ++ rest), ?_, by omega⟩
    simp [number?, hne, hnumeral]
  · have hwholeEnd : piece.length = wholeLength (piece ++ rest) := by
      rcases hlength with hlength | hlength
      · exact absurd (hlength ▸ hcut) hnumeral
      · exact hlength
    rw [hwholeEnd] at hcut
    refine ⟨wholeLength (piece ++ rest), ?_, by omega⟩
    simp [number?, hne, hnumeral, hcut]

theorem string?_append {body : List Char} (h : ∀ c ∈ body, c ≠ '"' ∧ c ≠ '\n') :
    string? (('"' :: (body ++ ['"'])) ++ rest) =
      some ⟨.string, ('"' :: (body ++ ['"'])).length⟩ := by
  have hrun : run (fun c => c != '"' && c != '\n') (body ++ '"' :: rest) = body.length :=
    run_eq_length (by simpa using h) (by simp)
  simp [string?, hrun]

theorem identifier?_append {word : List Char} (hword : IsIdentifier (String.ofList word))
    (hbefore : ∀ c ∈ before, isWord c = false) (hend : WordEnds rest) :
    identifier? before (word ++ rest) = some ⟨.identifier, word.length⟩ := by
  obtain ⟨c, parts, htext, hc, hparts⟩ := hword
  rw [String.toList_ofList] at htext
  subst htext
  have hrun : run isIdentifierPart (parts ++ rest) = parts.length := by
    refine run_eq_length (fun d hd => Text.isWordChar_iff.mpr (hparts d hd)) fun d hd => ?_
    by_cases hpart : isIdentifierPart d = true
    · exact absurd (Text.isWordChar_iff.mp hpart).isWord (by simp [hend d hd])
    · exact Bool.eq_false_iff.mpr hpart
  have hstart : isIdentifierStart c = true := by simpa [isIdentifierStart] using hc
  have hfront : before.any isWord = false := by
    cases before with
    | none => rfl
    | some d => exact hbefore d rfl
  simp [identifier?, hrun, hstart, hfront, Nat.add_comm 1, wordEnds_iff.mpr hend]

theorem comment?_block_append {body : List Char} (h : ¬ ['*', '/'] <:+: body) :
    comment? (('/' :: '*' :: (body ++ ['*', '/'])) ++ rest) =
      some ⟨.comment, ('/' :: '*' :: (body ++ ['*', '/'])).length⟩ := by
  simp [comment?, blockLength?_append h, Nat.add_comm 2]

/-! ## The kinds do not compete -/

/-- The recogniser of a kind. -/
def ofKind? (before : Option Char) (cs : List Char) : LexemeKind → Option Lexeme
  | .number => number? cs
  | .string => string? cs
  | .symbol => symbol? cs
  | .identifier => identifier? before cs
  | .comment => comment? cs
  | .blank => blank? cs

theorem takes_of_ofKind? (h : ofKind? before cs kind = some l) : Takes before cs kind l := by
  cases kind with
  | number => exact takes_of_number? h
  | string => exact takes_of_string? h
  | symbol => exact takes_of_symbol? h
  | identifier => exact takes_of_identifier? h
  | comment => exact takes_of_comment? h
  | blank => exact takes_of_blank? h

theorem exists_ofKind?_of_isLexeme (h : IsLexeme before rest kind piece) :
    ∃ n, ofKind? before (piece ++ rest) kind = some ⟨kind, n⟩ ∧ piece.length ≤ n := by
  cases h with
  | number hwhole hfraction hexponent hend => exact number?_append hwhole hfraction hexponent hend
  | string hbody => exact ⟨_, string?_append hbody, Nat.le_refl _⟩
  | symbol hc => exact ⟨1, by simp [ofKind?, symbol?, hc], Nat.le_refl _⟩
  | identifier hword hbefore hend =>
    exact ⟨_, identifier?_append hword hbefore hend, Nat.le_refl _⟩
  | @line body hbody =>
    have hrun : body.length ≤ run (· != '\n') (body ++ rest) :=
      length_le_run fun c hc => bne_iff_ne.mpr (fun hnewline => hbody (hnewline ▸ hc))
    refine ⟨2 + run (· != '\n') (body ++ rest), rfl, ?_⟩
    simp only [List.length_cons]
    omega
  | block hbody => exact ⟨_, comment?_block_append hbody, Nat.le_refl _⟩
  | blank hne hblank =>
    have hrun : piece.length ≤ run isBlank (piece ++ rest) := length_le_run hblank
    have hpos := List.length_pos_iff.mpr hne
    refine ⟨run isBlank (piece ++ rest), ?_, hrun⟩
    simp only [ofKind?, blank?, beq_iff_eq]
    rw [if_neg (by omega)]

theorem exists_ofKind?_of_lexeme? (h : lexeme? before cs = some l) :
    ∃ kind, ofKind? before cs kind = some l := by
  simp only [lexeme?, Option.or_eq_some_iff] at h
  rcases h with h | ⟨_, h | ⟨_, h | ⟨_, h | ⟨_, h | ⟨_, h⟩⟩⟩⟩⟩
  · exact ⟨.number, h⟩
  · exact ⟨.string, h⟩
  · exact ⟨.symbol, h⟩
  · exact ⟨.identifier, h⟩
  · exact ⟨.comment, h⟩
  · exact ⟨.blank, h⟩

theorem exists_lexeme?_of_ofKind? (h : ofKind? before cs kind = some l) :
    ∃ found, lexeme? before cs = some found := by
  rw [← Option.isSome_iff_exists]
  cases kind <;> simp_all [lexeme?, ofKind?]

end Lexeme

section Longest

variable {before : Option Char} {cs rest piece : List Char} {kind : LexemeKind} {l : Lexeme}

/-- Pieces at the front of one text have one kind. -/
theorem IsLexeme.kind_eq {other : LexemeKind} {rest' piece' : List Char}
    (h : IsLexeme before rest kind piece) (h' : IsLexeme before rest' other piece')
    (htext : piece ++ rest = piece' ++ rest') : kind = other := by
  obtain ⟨c, tail, rfl, hfront⟩ := h.front
  obtain ⟨d, tail', rfl, hfront'⟩ := h'.front
  simp only [List.cons_append, List.cons.injEq] at htext
  rw [htext.1, hfront'] at hfront
  exact (Option.some.inj hfront).symm

theorem IsLexeme.ne_nil (h : IsLexeme before rest kind piece) : piece ≠ [] := by
  obtain ⟨c, tail, rfl, _⟩ := h.front
  exact List.cons_ne_nil c tail

theorem IsLongest.ne_nil (h : IsLongest before cs kind piece) : piece ≠ [] := by
  obtain ⟨_, _, hpiece⟩ := h.isLexeme
  exact hpiece.ne_nil

theorem exists_isLongest_of_lexeme? (h : lexeme? before cs = some l) :
    ∃ piece, IsLongest before cs l.kind piece ∧ piece.length = l.length := by
  obtain ⟨kind, hfound⟩ := exists_ofKind?_of_lexeme? h
  obtain ⟨piece, rest, rfl, rfl, hpiece⟩ := takes_of_ofKind? hfound
  refine ⟨piece, ⟨⟨rest, rfl, hpiece⟩, ?_⟩, rfl⟩
  intro other shorter rest' htext hshorter
  obtain ⟨n, hn, hle⟩ := exists_ofKind?_of_isLexeme hshorter
  rw [← htext, ← hpiece.kind_eq hshorter htext, hfound] at hn
  cases hn
  exact hle

/-- A piece begins wherever one can. -/
theorem exists_lexeme?_of_isLexeme (h : IsLexeme before rest kind piece) :
    ∃ l, lexeme? before (piece ++ rest) = some l := by
  obtain ⟨n, hn, _⟩ := exists_ofKind?_of_isLexeme h
  exact exists_lexeme?_of_ofKind? hn

theorem IsLongest.unique {other : LexemeKind} {piece' : List Char}
    (h : IsLongest before cs kind piece) (h' : IsLongest before cs other piece') :
    kind = other ∧ piece = piece' := by
  obtain ⟨rest, htext, hpiece⟩ := h.isLexeme
  obtain ⟨rest', htext', hpiece'⟩ := h'.isLexeme
  have hlength : piece.length = piece'.length :=
    Nat.le_antisymm (h'.longest _ _ _ htext hpiece) (h.longest _ _ _ htext' hpiece')
  have hsplit := htext.symm.trans htext'
  exact ⟨hpiece.kind_eq hpiece' hsplit, (List.append_inj hsplit hlength).1⟩

/-- The piece that is taken is the longest one. -/
theorem lexeme?_eq_some_iff_isLongest : lexeme? before cs = some l ↔
    ∃ piece, IsLongest before cs l.kind piece ∧ piece.length = l.length := by
  refine ⟨exists_isLongest_of_lexeme?, ?_⟩
  intro h
  obtain ⟨piece, hlongest, hlength⟩ := h
  obtain ⟨rest, rfl, hpiece⟩ := hlongest.isLexeme
  obtain ⟨found, hfound⟩ := exists_lexeme?_of_isLexeme hpiece
  obtain ⟨piece', hlongest', hlength'⟩ := exists_isLongest_of_lexeme? hfound
  obtain ⟨hkind, rfl⟩ := hlongest.unique hlongest'
  have hsame : found = l := by
    cases found
    cases l
    simp_all
  rw [hfound, hsame]

/-- Nothing is taken where no piece begins. -/
theorem lexeme?_eq_none_iff_isStuck : lexeme? before cs = none ↔ IsStuck before cs := by
  refine ⟨?_, ?_⟩
  · intro h kind piece rest htext hpiece
    obtain ⟨l, hl⟩ := exists_lexeme?_of_isLexeme hpiece
    rw [← htext, h] at hl
    cases hl
  · intro h
    cases hfound : lexeme? before cs with
    | none => rfl
    | some l =>
      obtain ⟨piece, hlongest, _⟩ := exists_isLongest_of_lexeme? hfound
      obtain ⟨rest, htext, hpiece⟩ := hlongest.isLexeme
      exact absurd hpiece (h _ _ _ htext)

end Longest

end WireSchema
