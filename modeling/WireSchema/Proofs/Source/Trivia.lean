/-
WireSchema.Proofs.Source.Trivia — what stands between tokens does not matter.

`IsTrivia` is white space, closed comments and comment lines, one after the other; a separator is
any such text that is not empty. `Spaced` puts a separator between the texts of tokens. Each of them
is cut off again as it was: a separator starts with a character that continues no token and ends
with one that leaves the next token at the start of a word (`isLongest_of_isLexeme`), and separators
themselves fall into comments and runs of white space, however they were put together
(`Reads.trivia`).

Main statement: `Source.parse_of_spaced`.
-/
import WireSchema.Proofs.Source.Places
import WireSchema.Proofs.Source.Tokens

namespace WireSchema

open WireSchema.Grammar WireSchema.Lexeme
open WireSchema.Text (isBlank isWord)

/-! ## Separators -/

/-- White space, closed comments, and comment lines with their newline, in any order. -/
inductive IsTrivia : List Char → Prop
  | nil : IsTrivia []
  | blank {c : Char} {cs : List Char} (hblank : isBlank c = true) (hmore : IsTrivia cs) :
      IsTrivia (c :: cs)
  | block {body cs : List Char} (hbody : ¬ ['*', '/'] <:+: body) (hmore : IsTrivia cs) :
      IsTrivia ('/' :: '*' :: (body ++ ['*', '/']) ++ cs)
  | line {body cs : List Char} (hbody : '\n' ∉ body) (hmore : IsTrivia cs) :
      IsTrivia ('/' :: '/' :: body ++ '\n' :: cs)

/-- Texts with a separator behind each of them; behind the last one it may be missing. -/
inductive Spaced : List String → List Char → Prop
  | nil : Spaced [] []
  | last (text : String) : Spaced [text] text.toList
  | cons (text : String) {separator cs : List Char} {texts : List String}
      (hseparator : IsTrivia separator) (hne : separator ≠ []) (hmore : Spaced texts cs) :
      Spaced (text :: texts) (text.toList ++ (separator ++ cs))

/-- No token goes on with this character. -/
def StartsTrivia (c : Char) : Prop :=
  isBlank c = true ∨ c = '/'

theorem Text.isWord_of_isBlank {c : Char} (h : isBlank c = true) : isWord c = false := by
  have hcode : isWord (Char.ofNat c.toNat) = false :=
    CodeRun.forall_of_covers (P := fun n => isWord (Char.ofNat n) = false) (by decide +kernel) h
  rwa [Char.ofNat_toNat] at hcode

theorem isBlank_slash : isBlank '/' = false := by decide +kernel

theorem isBlank_newline : isBlank '\n' = true := by decide +kernel

theorem StartsTrivia.isWord_eq_false {c : Char} (h : StartsTrivia c) : isWord c = false := by
  rcases h with hblank | rfl
  · exact Text.isWord_of_isBlank hblank
  · decide +kernel

theorem StartsTrivia.ne_point {c : Char} (h : StartsTrivia c) : c ≠ '.' := by
  rintro rfl
  rcases h with hblank | hslash
  · exact absurd hblank (by decide +kernel)
  · cases hslash

namespace IsTrivia

variable {cs : List Char}

theorem startsTrivia (h : IsTrivia cs) : ∀ c ∈ cs.head?, StartsTrivia c := by
  cases h with
  | nil => simp
  | blank hblank _ => simp [StartsTrivia, hblank]
  | block _ _ => simp [StartsTrivia]
  | line _ _ => simp [StartsTrivia]

/-- Behind a separator a word may start. -/
theorem isWord_getLast? (h : IsTrivia cs) : ∀ c ∈ cs.getLast?, isWord c = false := by
  -- The last character is the last one of what comes behind the front, or of the front.
  have hfront : ∀ (front : List Char) (last : Char) {back : List Char}, isWord last = false →
      (∀ c ∈ back.getLast?, isWord c = false) →
        ∀ c ∈ (front ++ [last] ++ back).getLast?, isWord c = false := by
    intro front last back hword hback c hc
    rw [List.getLast?_append, List.getLast?_concat] at hc
    cases hbacklast : back.getLast? with
    | none =>
      rw [hbacklast] at hc
      exact Option.some.inj hc ▸ hword
    | some d =>
      rw [hbacklast] at hc
      exact Option.some.inj hc ▸ hback d hbacklast
  induction h with
  | nil => simp
  | @blank c cs hblank _ ih => exact hfront [] c (Text.isWord_of_isBlank hblank) ih
  | @block body cs _ _ ih =>
    have hword : isWord '/' = false := by decide +kernel
    simpa using hfront ('/' :: '*' :: (body ++ ['*'])) '/' hword ih
  | @line body cs _ _ ih =>
    rw [List.append_cons]
    exact hfront _ '\n' (by decide +kernel) ih

end IsTrivia

/-! ## Tokens in front of separators -/

section Tokens

variable {before : Option Char} {rest piece : List Char} {kind : LexemeKind}

/-- What the recogniser of its kind takes is the longest piece. -/
theorem isLongest_of_ofKind? (h : IsLexeme before rest kind piece)
    (hfound : ofKind? before (piece ++ rest) kind = some ⟨kind, piece.length⟩) :
    IsLongest before (piece ++ rest) kind piece := by
  refine ⟨⟨rest, rfl, h⟩, fun other shorter rest' htext hshorter => ?_⟩
  obtain ⟨n, hn, hle⟩ := exists_ofKind?_of_isLexeme hshorter
  rw [← htext, ← h.kind_eq hshorter htext, hfound] at hn
  cases hn
  exact hle

/-- A number in front of a separator is read to its end. -/
theorem number?_of_startsTrivia {whole fraction exponent : List Char} (hwhole : IsWhole whole)
    (hfraction : IsFraction fraction) (hexponent : IsExponent exponent)
    (hrest : ∀ c ∈ rest.head?, StartsTrivia c) :
    number? ((whole ++ (fraction ++ exponent)) ++ rest) =
      some ⟨.number, (whole ++ (fraction ++ exponent)).length⟩ := by
  have hend : WordEnds rest := fun c hc => (hrest c hc).isWord_eq_false
  have hpoint : rest.head? ≠ some '.' := fun hhead => (hrest '.' hhead).ne_point rfl
  have hlength := numeralLength_append hwhole hfraction hexponent hend.digitsEnd
    (fun _ _ => hpoint) fun _ => hend.exponentMarkLength_eq_zero
  have hne : wholeLength (whole ++ (fraction ++ (exponent ++ rest))) ≠ 0 := by
    rw [wholeLength_append hwhole (hfraction.digitsEnd (hexponent.digitsEnd hend.digitsEnd))]
    exact hwhole.length_ne_zero
  have htext : (whole ++ (fraction ++ exponent)) ++ rest =
      whole ++ (fraction ++ (exponent ++ rest)) := by simp
  have hwordEnds : wordEnds (((whole ++ (fraction ++ exponent)) ++ rest).drop
      (whole ++ (fraction ++ exponent)).length) = true := by
    rw [List.drop_left]
    exact wordEnds_iff.mpr hend
  rw [htext] at hwordEnds ⊢
  rw [← hlength] at hwordEnds ⊢
  simp [number?, hne, hwordEnds]

/-- A token text, in some place. -/
def IsToken (text : String) : Prop :=
  ∃ before rest kind, IsLexeme before rest kind text.toList ∧ kind.isTrivia = false

/-- Between separators a token is cut off as it was. -/
theorem isLongest_of_isLexeme {before' : Option Char} {rest' : List Char}
    (h : IsLexeme before rest kind piece) (hkind : kind.isTrivia = false)
    (hbefore : ∀ c ∈ before', isWord c = false) (hrest : ∀ c ∈ rest'.head?, StartsTrivia c) :
    IsLongest before' (piece ++ rest') kind piece := by
  have hend : WordEnds rest' := fun c hc => (hrest c hc).isWord_eq_false
  cases h with
  | number hwhole hfraction hexponent _ =>
    exact isLongest_of_ofKind? (.number hwhole hfraction hexponent hend)
      (number?_of_startsTrivia hwhole hfraction hexponent hrest)
  | string hbody => exact isLongest_of_ofKind? (.string hbody) (string?_append hbody)
  | symbol hc => exact isLongest_of_ofKind? (.symbol hc) (by simp [ofKind?, symbol?, hc])
  | identifier hword _ _ =>
    exact isLongest_of_ofKind? (.identifier hword hbefore hend)
      (identifier?_append hword hbefore hend)
  | line _ => cases hkind
  | block _ => cases hkind
  | blank _ _ => cases hkind

theorem isBlank_front_eq_false {c : Char} {tail : List Char}
    (h : IsLexeme before rest kind (c :: tail)) (hkind : kind.isTrivia = false) :
    isBlank c = false := by
  obtain ⟨d, tail', htext, hfront⟩ := h.front
  obtain ⟨rfl, rfl⟩ := List.cons.inj htext
  rw [← Bool.not_eq_true]
  intro hblank
  rw [ofFront?_of_isBlank hblank] at hfront
  cases hfront
  cases hkind

theorem Spaced.isBlank_head? {texts : List String} {cs : List Char} (h : Spaced texts cs)
    (htexts : ∀ text ∈ texts, IsToken text) : ∀ c ∈ cs.head?, isBlank c = false := by
  have hfront : ∀ (text : String) (tail : List Char), IsToken text →
      ∀ c ∈ (text.toList ++ tail).head?, isBlank c = false := by
    rintro text tail ⟨before, rest, kind, hlexeme, hkind⟩
    obtain ⟨c, cs, htext, _⟩ := hlexeme.front
    rw [htext] at hlexeme ⊢
    simpa using isBlank_front_eq_false hlexeme hkind
  cases h with
  | nil => simp
  | last text => simpa using hfront text [] (htexts text (by simp))
  | cons text _ _ _ => exact hfront text _ (htexts text (by simp))

end Tokens

/-! ## Reading texts with separators -/

/-- A text behind `done` is cut into pieces, and these are the texts of its tokens. -/
def Reads (done cs : List Char) (texts : List String) : Prop :=
  ∃ pieces, Cut done cs pieces [] ∧ (Piece.tokens pieces).map Token.text = texts

namespace Reads

variable {done cs chars tail : List Char} {texts : List String} {kind : LexemeKind}

theorem nil : Reads done [] [] :=
  ⟨[], .stop, rfl⟩

theorem skip (hpiece : IsLongest done.getLast? (chars ++ tail) kind chars)
    (hkind : kind.isTrivia = true) (h : Reads (done ++ chars) tail texts) :
    Reads done (chars ++ tail) texts := by
  obtain ⟨pieces, hcut, htexts⟩ := h
  exact ⟨_, .next hpiece hcut, by simpa [Piece.tokens, hkind] using htexts⟩

theorem token (hpiece : IsLongest done.getLast? (chars ++ tail) kind chars)
    (hkind : kind.isTrivia = false) (h : Reads (done ++ chars) tail texts) :
    Reads done (chars ++ tail) (String.ofList chars :: texts) := by
  obtain ⟨pieces, hcut, rfl⟩ := h
  exact ⟨_, .next hpiece hcut, by simp [Piece.tokens, Piece.token, hkind]⟩

/-- A run of white space is one piece. -/
theorem blanks {run : List Char} (hrun : ∀ c ∈ run, isBlank c = true)
    (htail : ∀ c ∈ tail.head?, isBlank c = false) (h : Reads (done ++ run) tail texts) :
    Reads done (run ++ tail) texts := by
  by_cases hne : run = []
  · subst hne
    simpa using h
  · have hlength : Lexeme.run isBlank (run ++ tail) = run.length := run_eq_length hrun htail
    refine skip (isLongest_of_ofKind? (.blank hne hrun) ?_) rfl h
    simp [ofKind?, blank?, hlength, hne]

/-- A separator is cut into comments and runs of white space. -/
theorem trivia {separator : List Char} (hseparator : IsTrivia separator)
    (htail : ∀ c ∈ tail.head?, isBlank c = false) (h : Reads (done ++ separator) tail texts) :
    Reads done (separator ++ tail) texts := by
  -- White space that was met goes into the run that is still open.
  suffices hopen : ∀ run : List Char, (∀ c ∈ run, isBlank c = true) →
      Reads (done ++ (run ++ separator)) tail texts →
        Reads done (run ++ (separator ++ tail)) texts by
    exact hopen [] (by simp) h
  clear h
  induction hseparator generalizing done with
  | nil =>
    intro run hrun h
    exact blanks hrun htail (by simpa using h)
  | @blank c cs hblank _ ih =>
    intro run hrun h
    have hlonger : ∀ d ∈ run ++ [c], isBlank d = true := by
      simpa [or_imp, forall_and, hblank] using hrun
    simpa using ih (run ++ [c]) hlonger (by simpa using h)
  | @block body cs hbody _ ih =>
    intro run hrun h
    refine blanks hrun (by simp [isBlank_slash]) ?_
    rw [List.append_assoc]
    refine skip (isLongest_of_ofKind? (.block hbody) (comment?_block_append hbody)) rfl ?_
    exact ih [] (by simp) (by simpa using h)
  | @line body cs hbody _ ih =>
    intro run hrun h
    refine blanks hrun (by simp [isBlank_slash]) ?_
    rw [List.append_assoc]
    have hlength : Lexeme.run (· != '\n') (body ++ '\n' :: (cs ++ tail)) = body.length :=
      run_eq_length (fun c hc => bne_iff_ne.mpr fun hnewline => hbody (hnewline ▸ hc)) (by simp)
    refine skip (isLongest_of_ofKind? (.line hbody) ?_) rfl ?_
    · simp [ofKind?, comment?, hlength, Nat.add_comm 2]
    · exact ih ['\n'] (by simp [isBlank_newline]) (by simpa using h)

/-- The texts of tokens are read back from a text that spaces them. -/
theorem of_spaced (h : Spaced texts cs) (htexts : ∀ text ∈ texts, IsToken text)
    (hdone : ∀ c ∈ done.getLast?, isWord c = false) : Reads done cs texts := by
  induction h generalizing done with
  | nil => exact .nil
  | last text =>
    obtain ⟨before, rest, kind, hlexeme, hkind⟩ := htexts text (by simp)
    have hlongest : IsLongest done.getLast? (text.toList ++ []) kind text.toList :=
      isLongest_of_isLexeme hlexeme hkind hdone (by simp)
    simpa using token hlongest hkind .nil
  | @cons text separator cs texts hseparator hne hmore ih =>
    rw [List.forall_mem_cons] at htexts
    obtain ⟨before, rest, kind, hlexeme, hkind⟩ := htexts.1
    have hfront : ∀ c ∈ (separator ++ cs).head?, StartsTrivia c := by
      rw [List.head?_append_of_ne_nil _ hne]
      exact hseparator.startsTrivia
    have hback : ∀ c ∈ (done ++ text.toList ++ separator).getLast?, isWord c = false := by
      rw [List.getLast?_append_of_ne_nil _ hne]
      exact hseparator.isWord_getLast?
    have hnext := trivia hseparator (hmore.isBlank_head? htexts.2) (ih htexts.2 hback)
    simpa using token (isLongest_of_isLexeme hlexeme hkind hdone hfront) hkind hnext

end Reads

theorem isToken_of_cut {done cs rest : List Char} {pieces : List Piece}
    (h : Cut done cs pieces rest) :
    ∀ text ∈ (Piece.tokens pieces).map Token.text, IsToken text := by
  have hpieces : ∀ piece ∈ pieces, ∃ before rest, IsLexeme before rest piece.kind piece.chars := by
    induction h with
    | stop => simp
    | next hpiece _ ih =>
      obtain ⟨rest, _, hlexeme⟩ := hpiece.isLexeme
      exact List.forall_mem_cons.mpr ⟨⟨_, rest, hlexeme⟩, ih⟩
  intro text htext
  obtain ⟨_, htoken, rfl⟩ := List.mem_map.mp htext
  obtain ⟨piece, hpiece, rfl⟩ := List.mem_map.mp htoken
  rw [List.mem_filter, Bool.not_eq_true'] at hpiece
  obtain ⟨before, rest, hlexeme⟩ := hpieces piece hpiece.1
  exact ⟨before, rest, piece.kind, by rwa [Piece.token, String.toList_ofList], hpiece.2⟩

theorem Token.scan_of_reads {text : String} {texts : List String} (h : Reads [] text.toList texts) :
    ∃ stream, Token.scan text = .ok stream ∧ stream.map Token.text = texts ++ [""] := by
  obtain ⟨pieces, hcut, rfl⟩ := h
  exact ⟨_, Token.scan_of_cut hcut, by simp⟩

/-- **Trivia.** Take the tokens of any text, without the end, and put other separators between them:
the same tokens are read again, and they give the same tree, or the same fault, up to lines and
columns. -/
theorem Source.parse_of_spaced {text other : String} {stream : List Token}
    (hscan : Token.scan text = .ok stream)
    (hspaced : Spaced (stream.dropLast.map Token.text) other.toList) :
    ∃ stream', Token.scan other = .ok stream' ∧ stream'.map Token.text = stream.map Token.text ∧
      unplacedTree (parse stream') = unplacedTree (parse stream) := by
  obtain ⟨pieces, hcut, rfl⟩ := Token.scan_eq_ok_iff.mp hscan
  rw [List.dropLast_concat] at hspaced
  obtain ⟨stream', hscan', htexts⟩ :=
    Token.scan_of_reads (.of_spaced hspaced (isToken_of_cut hcut) (by simp))
  generalize hlast : (⟨"", Position.after text.toList⟩ : Token) = last
  have hsame : stream'.map Token.text = (Piece.tokens pieces ++ [last]).map Token.text := by
    rw [htexts, List.map_append, List.map_singleton, ← hlast]
  exact ⟨stream', hscan', hsame, unplacedTree_parse_of_texts hsame⟩

/-- A string with the start of a comment in it, and separators with quotes in them. -/
theorem Source.parse_spaced_include :
    ∃ stream', Token.scan (String.ofList ("include".toList ++ (" /* \" */".toList ++
        ("\"a/*b\"".toList ++ ("// \"\n".toList ++ ";".toList))))) = .ok stream' ∧
      stream'.map Token.text = ["include", "\"a/*b\"", ";", ""] ∧
      unplacedTree (parse stream') = .ok [.includeFile "a/*b"] := by
  have hscan : Token.scan "include\"a/*b\";" =
      .ok [⟨"include", ⟨1, 1⟩⟩, ⟨"\"a/*b\"", ⟨1, 8⟩⟩, ⟨";", ⟨1, 14⟩⟩, ⟨"", ⟨1, 15⟩⟩] :=
    Outcome.eq_ok_of_toOption (by decide +kernel)
  have hclosed : IsTrivia " /* \" */".toList :=
    .blank (by decide +kernel) (@IsTrivia.block " \" ".toList [] (by decide +kernel) .nil)
  have hline : IsTrivia "// \"\n".toList := @IsTrivia.line " \"".toList [] (by decide +kernel) .nil
  have htree : unplacedTree (parse [⟨"include", ⟨1, 1⟩⟩, ⟨"\"a/*b\"", ⟨1, 8⟩⟩, ⟨";", ⟨1, 14⟩⟩,
      ⟨"", ⟨1, 15⟩⟩]) = .ok [.includeFile "a/*b"] := Outcome.eq_ok_of_toOption (by decide +kernel)
  rw [← htree]
  refine parse_of_spaced hscan ?_
  rw [String.toList_ofList]
  exact .cons "include" hclosed (by decide) (.cons "\"a/*b\"" hline (by decide) (.last ";"))

end WireSchema
