/-
WireSchema.Proofs.Source.Tokens — tokens stand where their pieces do.

`Cut` takes longest pieces off the front of a text, and `Position.after` counts a place from the text
in front of it: the newlines, and the bytes since the last one. Scanning keeps its place by adding up
pieces, and both agree (`advance_start`). One piece is one step of the scan (`scanFrom_piece`), a cut
is a run of it (`scanFrom_cut`), and every text has a cut that goes as far as pieces go
(`exists_cut`). So a text is scanned exactly if it can be cut to its end, and otherwise the error
stands where the cut is stuck.

Main statement: `Token.scan_iff_cut`.
-/
import Mathlib.Data.List.DropRight
import WireSchema.Proofs.Outcome
import WireSchema.Proofs.Source.Lexemes
import WireSchema.Token

namespace WireSchema

open WireSchema.Outcome

/-! ## Places -/

namespace Position

/-- The place behind a text: one line further for every newline, one column further for every byte
since the last newline. -/
def after (cs : List Char) : Position :=
  ⟨1 + cs.count '\n', 1 + (String.ofList (cs.rtakeWhile (· != '\n'))).utf8ByteSize⟩

theorem after_concat (cs : List Char) (c : Char) : after (cs ++ [c]) = (after cs).next c := by
  by_cases hc : c = '\n'
  · subst hc
    simp [after, next]
    omega
  · simp [after, next, hc]
    omega

theorem advance_start (cs : List Char) : start.advance cs = after cs := by
  induction cs using List.reverseRecOn with
  | nil => rfl
  | append_singleton cs c ih =>
    rw [after_concat, ← ih]
    simp [advance]

/-- Places add up along a text. -/
theorem advance_after (cs more : List Char) : (after cs).advance more = after (cs ++ more) := by
  rw [← advance_start, ← advance_start]
  simp [advance]

end Position

/-! ## Cuts -/

/-- A piece of a text, with all that stands in front of it. -/
structure Piece where
  before : List Char
  kind : LexemeKind
  chars : List Char

/-- A piece stands as a token behind the text in front of it. -/
def Piece.token (piece : Piece) : Token :=
  ⟨String.ofList piece.chars, Position.after piece.before⟩

/-- The tokens of pieces: comments and white space are none. -/
def Piece.tokens (pieces : List Piece) : List Token :=
  (pieces.filter fun piece => !piece.kind.isTrivia).map Piece.token

/-- `Cut done cs pieces rest`: from the text `cs` behind `done`, always taking the longest piece, the
pieces are taken, and the rest is left. -/
inductive Cut : List Char → List Char → List Piece → List Char → Prop
  | stop {done rest : List Char} : Cut done rest [] rest
  | next {done chars tail rest : List Char} {kind : LexemeKind} {pieces : List Piece}
      (hpiece : IsLongest done.getLast? (chars ++ tail) kind chars)
      (hmore : Cut (done ++ chars) tail pieces rest) :
      Cut done (chars ++ tail) (⟨done, kind, chars⟩ :: pieces) rest

section Cuts

variable {done cs rest : List Char} {pieces : List Piece}

/-- Nothing is lost in a cut. -/
theorem Cut.flatMap_append (h : Cut done cs pieces rest) :
    pieces.flatMap Piece.chars ++ rest = cs := by
  induction h with
  | stop => rfl
  | next _ _ ih => rw [List.flatMap_cons, List.append_assoc, ih]

/-- A piece stands behind the pieces in front of it. -/
theorem Cut.before_eq {front back : List Piece} {piece : Piece}
    (h : Cut done cs (front ++ piece :: back) rest) :
    piece.before = done ++ front.flatMap Piece.chars := by
  induction front generalizing done cs with
  | nil =>
    cases h
    simp
  | cons first front ih =>
    cases h with
    | next _ hmore => simpa using ih hmore

/-- Pieces are not empty. -/
theorem Cut.chars_ne_nil (h : Cut done cs pieces rest) : ∀ piece ∈ pieces, piece.chars ≠ [] := by
  induction h with
  | stop => simp
  | next hpiece _ ih =>
    rw [List.forall_mem_cons]
    exact ⟨hpiece.ne_nil, ih⟩

theorem Cut.token_ne_empty (h : Cut done cs pieces rest) :
    ∀ token ∈ Piece.tokens pieces, token.text ≠ "" := by
  intro token htoken
  obtain ⟨piece, hpiece, rfl⟩ := List.mem_map.mp htoken
  intro hempty
  exact h.chars_ne_nil piece (List.mem_of_mem_filter hpiece) (String.ofList_eq_empty_iff.mp hempty)

/-- Every text can be cut as far as pieces go. -/
theorem exists_cut (done cs : List Char) : ∃ pieces rest, Cut done cs pieces rest ∧
    IsStuck (done ++ pieces.flatMap Piece.chars).getLast? rest := by
  induction hn : cs.length using Nat.strong_induction_on generalizing done cs with
  | _ n ih =>
    cases hfound : lexeme? done.getLast? cs with
    | none => exact ⟨[], cs, .stop, by simpa using lexeme?_eq_none_iff_isStuck.mp hfound⟩
    | some l =>
      obtain ⟨chars, hlongest, _⟩ := exists_isLongest_of_lexeme? hfound
      obtain ⟨tail, rfl, _⟩ := hlongest.isLexeme
      have hpos := List.length_pos_iff.mpr hlongest.ne_nil
      have hlt : tail.length < n := by
        rw [← hn, List.length_append]
        omega
      obtain ⟨pieces, rest, hcut, hstuck⟩ := ih _ hlt (done ++ chars) tail rfl
      exact ⟨_, rest, .next hlongest hcut, by simpa using hstuck⟩

end Cuts

/-! ## Scanning -/

namespace Token

variable {done cs rest : List Char} {pieces : List Piece}

/-- One piece is one step of the scan. -/
theorem scanFrom_piece {chars tail : List Char} {kind : LexemeKind}
    (h : IsLongest done.getLast? (chars ++ tail) kind chars) :
    scanFrom done.getLast? (Position.after done) (chars ++ tail) =
      (scanFrom (done ++ chars).getLast? (Position.after (done ++ chars)) tail).map
        (Piece.tokens [⟨done, kind, chars⟩] ++ ·) := by
  have hfound : lexeme? done.getLast? (chars ++ tail) = some ⟨kind, chars.length⟩ :=
    lexeme?_eq_some_iff_isLongest.mpr ⟨chars, h, rfl⟩
  have hlast : chars.getLast? = (done ++ chars).getLast? :=
    (List.getLast?_append_of_ne_nil done h.ne_nil).symm
  obtain ⟨c, front, rfl⟩ := List.exists_cons_of_ne_nil h.ne_nil
  rw [← Position.advance_after, ← hlast, List.cons_append, scanFrom]
  split
  · rename_i hnone
    rw [List.cons_append, hnone] at hfound
    cases hfound
  · rename_i l hl
    rw [List.cons_append, hl] at hfound
    cases hfound
    simp only [← List.cons_append, List.take_left, List.drop_left]
    split
    · rename_i e he
      rw [he]
      rfl
    · rename_i tokens htokens
      rw [htokens]
      cases htrivia : kind.isTrivia <;> simp [Except.map, Piece.tokens, Piece.token, htrivia]

/-- A cut is a run of the scan. -/
theorem scanFrom_cut (h : Cut done cs pieces rest) :
    scanFrom done.getLast? (Position.after done) cs =
      (scanFrom (done ++ pieces.flatMap Piece.chars).getLast?
        (Position.after (done ++ pieces.flatMap Piece.chars)) rest).map
          (Piece.tokens pieces ++ ·) := by
  induction h with
  | @stop done rest =>
    rw [List.flatMap_nil, List.append_nil]
    cases scanFrom done.getLast? (Position.after done) rest <;> rfl
  | @next done chars tail rest kind pieces hpiece _ ih =>
    have htokens : Piece.tokens (⟨done, kind, chars⟩ :: pieces) =
        Piece.tokens [⟨done, kind, chars⟩] ++ Piece.tokens pieces := by
      rw [Piece.tokens, ← List.singleton_append, List.filter_append, List.map_append]
      rfl
    rw [scanFrom_piece hpiece, ih, htokens, List.flatMap_cons, ← List.append_assoc]
    cases scanFrom (done ++ chars ++ pieces.flatMap Piece.chars).getLast?
        (Position.after (done ++ chars ++ pieces.flatMap Piece.chars)) rest with
    | error e => rfl
    | ok tokens => simp [Except.map]

theorem scanFrom_stuck {before : Option Char} (pos : Position) (hne : rest ≠ [])
    (h : IsStuck before rest) : ∃ fault, scanFrom before pos rest = .error ⟨pos, fault⟩ := by
  obtain ⟨c, tail, rfl⟩ := List.exists_cons_of_ne_nil hne
  have hnone := lexeme?_eq_none_iff_isStuck.mpr h
  rw [scanFrom]
  split
  · exact ⟨_, rfl⟩
  · rename_i l hl
    rw [hnone] at hl
    cases hl

theorem scan_of_cut {text : String} (h : Cut [] text.toList pieces []) :
    scan text = .ok (Piece.tokens pieces ++ [⟨"", Position.after text.toList⟩]) := by
  have hrun := scanFrom_cut h
  have htext := h.flatMap_append
  rw [List.append_nil] at htext
  rw [List.nil_append, htext, scanFrom] at hrun
  exact hrun

theorem scan_of_isStuck {text : String} (h : Cut [] text.toList pieces rest) (hne : rest ≠ [])
    (hstuck : IsStuck (pieces.flatMap Piece.chars).getLast? rest) :
    ∃ fault, scan text = .error ⟨Position.after (pieces.flatMap Piece.chars), fault⟩ := by
  obtain ⟨fault, hfault⟩ :=
    scanFrom_stuck (Position.after (pieces.flatMap Piece.chars)) hne hstuck
  have hrun := scanFrom_cut h
  rw [List.nil_append, hfault] at hrun
  exact ⟨fault, hrun⟩

theorem scan_cases (text : String) :
    (∃ pieces, Cut [] text.toList pieces [] ∧
      scan text = .ok (Piece.tokens pieces ++ [⟨"", Position.after text.toList⟩])) ∨
    ∃ pieces rest fault, Cut [] text.toList pieces rest ∧ rest ≠ [] ∧
      IsStuck (pieces.flatMap Piece.chars).getLast? rest ∧
        scan text = .error ⟨Position.after (pieces.flatMap Piece.chars), fault⟩ := by
  obtain ⟨pieces, rest, hcut, hstuck⟩ := exists_cut [] text.toList
  by_cases hrest : rest = []
  · subst hrest
    exact .inl ⟨pieces, hcut, scan_of_cut hcut⟩
  · obtain ⟨fault, hscan⟩ := scan_of_isStuck hcut hrest hstuck
    exact .inr ⟨pieces, rest, fault, hcut, hrest, hstuck, hscan⟩

theorem scan_eq_ok_iff {text : String} {tokens : List Token} :
    scan text = .ok tokens ↔ ∃ pieces, Cut [] text.toList pieces [] ∧
      tokens = Piece.tokens pieces ++ [⟨"", Position.after text.toList⟩] := by
  refine ⟨?_, ?_⟩
  · intro hscan
    rcases scan_cases text with ⟨pieces, hcut, hok⟩ | ⟨_, _, _, _, _, _, herror⟩
    · rw [hok] at hscan
      exact ⟨pieces, hcut, (Except.ok.inj hscan).symm⟩
    · rw [herror] at hscan
      cases hscan
  · intro h
    obtain ⟨pieces, hcut, rfl⟩ := h
    exact scan_of_cut hcut

theorem scan_eq_error_iff {text : String} {pos : Position} :
    (∃ fault, scan text = .error ⟨pos, fault⟩) ↔
      ∃ pieces rest, Cut [] text.toList pieces rest ∧ rest ≠ [] ∧
        IsStuck (pieces.flatMap Piece.chars).getLast? rest ∧
          pos = Position.after (pieces.flatMap Piece.chars) := by
  refine ⟨?_, ?_⟩
  · intro h
    obtain ⟨fault, hscan⟩ := h
    rcases scan_cases text with ⟨_, _, hok⟩ | ⟨pieces, rest, _, hcut, hrest, hstuck, herror⟩
    · rw [hok] at hscan
      cases hscan
    · rw [herror] at hscan
      cases hscan
      exact ⟨pieces, rest, hcut, hrest, hstuck, rfl⟩
  · intro h
    obtain ⟨pieces, rest, hcut, hne, hstuck, rfl⟩ := h
    exact scan_of_isStuck hcut hne hstuck

/-- A text is scanned exactly if it is cut into longest pieces to its end. Its tokens are then the
pieces that separate nothing, each at the place counted from the text in front of it, and an empty
one at the end. Otherwise the error stands at the first place where the cut is stuck. -/
theorem scan_iff_cut (text : String) :
    (∀ tokens, scan text = .ok tokens ↔ ∃ pieces, Cut [] text.toList pieces [] ∧
      tokens = Piece.tokens pieces ++ [⟨"", Position.after text.toList⟩]) ∧
    (∀ pieces rest, Cut [] text.toList pieces rest →
      pieces.flatMap Piece.chars ++ rest = text.toList ∧
      (∀ front piece back, pieces = front ++ piece :: back →
        piece.before = front.flatMap Piece.chars) ∧
      ∀ token ∈ Piece.tokens pieces, token.text ≠ "") ∧
    (∀ pos, (∃ fault, scan text = .error ⟨pos, fault⟩) ↔
      ∃ pieces rest, Cut [] text.toList pieces rest ∧ rest ≠ [] ∧
        IsStuck (pieces.flatMap Piece.chars).getLast? rest ∧
          pos = Position.after (pieces.flatMap Piece.chars)) := by
  refine ⟨fun tokens => scan_eq_ok_iff, ?_, fun pos => scan_eq_error_iff⟩
  intro pieces rest hcut
  refine ⟨hcut.flatMap_append, ?_, hcut.token_ne_empty⟩
  intro front piece back hpieces
  subst hpieces
  exact hcut.before_eq

/-- Bytes count behind a comment over two lines. A number that runs into a word is only taken up to
its point, and the rest of it is stuck. -/
theorem scan_two_lines_and_stuck :
    (∃ pieces, Cut [] "/* é\n é */ a".toList pieces [] ∧
      [⟨"a", ⟨2, 8⟩⟩, ⟨"", ⟨2, 9⟩⟩] =
        Piece.tokens pieces ++ [⟨"", Position.after "/* é\n é */ a".toList⟩]) ∧
    ∃ pieces rest, Cut [] "1.5x".toList pieces rest ∧ rest ≠ [] ∧
      IsStuck (pieces.flatMap Piece.chars).getLast? rest ∧
        ⟨1, 3⟩ = Position.after (pieces.flatMap Piece.chars) := by
  have hlines : scan "/* é\n é */ a" = .ok [⟨"a", ⟨2, 8⟩⟩, ⟨"", ⟨2, 9⟩⟩] :=
    eq_ok_of_toOption (by decide +kernel)
  have hstuck : scan "1.5x" = .error ⟨⟨1, 3⟩, .unlexed "5x"⟩ :=
    eq_error_of_match (by decide +kernel)
  exact ⟨((scan_iff_cut _).1 _).mp hlines, ((scan_iff_cut _).2.2 _).mp ⟨_, hstuck⟩⟩

end Token

end WireSchema
