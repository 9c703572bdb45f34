/-
WireSchema.Proofs.Source.Stops — where the parser stops.

The verdict on a schema rests on the tokens up to the one that the parser stops at, and none of those
in front of it is the end of the text. So nothing behind the first end token matters, and a list
without one is rejected. If the parser rejects a token, what stands in front of it begins a schema,
and with it nothing does.

Main statements: `Source.parse_rejects_first_dead_token`, `Source.parse_reads_up_to_end`.
-/
import WireSchema.Proofs.Source.Judged
import WireSchema.Proofs.Source.Tokens

namespace WireSchema.Source

open Outcome (eq_ok_getD eq_error_of_match)

/-! ## A cursor on the first token -/

namespace Cursor

variable {tokens other front back : List Token} {last : Token} {n : Nat}

theorem ahead_ofTokens (h : n < tokens.length) : (ofTokens tokens).ahead n = tokens[n] := by
  simp [ahead, ofTokens, h]

theorem taken_ofTokens (h : n ≤ tokens.length) : (ofTokens tokens).taken n = tokens.take n := by
  refine List.ext_getElem (by simp [taken, h]) fun i hi _ => ?_
  have hlt : i < n := by simpa [taken] using hi
  simp [taken, ahead_ofTokens (Nat.lt_of_lt_of_le hlt h)]

/-- Lists with the same front, and something in it to look at. -/
theorem agrees_ofTokens (h : n < tokens.length) (htake : other.take (n + 1) = tokens.take (n + 1)) :
    (ofTokens tokens).Agrees n (ofTokens other) := by
  intro i hi
  have hlength : min (n + 1) other.length = min (n + 1) tokens.length := by
    rw [← List.length_take, htake, List.length_take]
  have hother : i < other.length := by omega
  have htokens : i < tokens.length := by omega
  rw [ahead_ofTokens hother, ahead_ofTokens htokens]
  have hget : (other.take (n + 1))[i]? = (tokens.take (n + 1))[i]? := by rw [htake]
  rw [List.getElem?_take_of_lt (by omega), List.getElem?_take_of_lt (by omega),
    List.getElem?_eq_getElem hother, List.getElem?_eq_getElem htokens] at hget
  exact Option.some.inj hget

/-- Reading stops at an end token at the latest. -/
theorem le_length_of_read (hlast : last.text = "")
    (hread : ∀ t ∈ (ofTokens (front ++ last :: back)).taken n, t.text ≠ "") : n ≤ front.length := by
  refine Nat.le_of_not_lt fun hlt => hread last (List.mem_map.mpr ⟨front.length, ?_, ?_⟩) hlast
  · exact List.mem_range.mpr hlt
  · rw [ahead_ofTokens (by simp)]
    simp

/-- What is seen ahead are the tokens of the list. -/
theorem ahead_mem (hne : tokens ≠ []) (n : Nat) : (ofTokens tokens).ahead n ∈ tokens := by
  by_cases h : n < tokens.length
  · rw [ahead_ofTokens h]
    exact List.getElem_mem h
  · have hlast : (ofTokens tokens).ahead n = tokens.getLast hne := by
      simp [ahead, ofTokens, List.getElem?_eq_none (Nat.le_of_not_lt h),
        List.getLast?_eq_some_getLast hne]
    rw [hlast]
    exact List.getLast_mem hne

end Cursor

/-! ## Verdicts on a schema -/

namespace Parser

theorem Settles.parse_eq {tokens : List Token} {c : Cursor} {n : Nat}
    {result : Except ParseError Schema} (h : Settles schema c n result)
    (hagrees : c.Agrees n (Cursor.ofTokens tokens)) : parse tokens = result := by
  rw [parse, h _ hagrees]
  cases result <;> rfl

theorem Unrolls.exists_stop {α : Type} {step : Parser (Option α)} {c after : Cursor} {as : List α}
    {result : Except ParseError (List α × Cursor)} (h : Unrolls step c result)
    (hresult : result = .ok (as, after)) : ∃ stop, step stop = .ok (none, after) := by
  induction h generalizing as with
  | fault h => cases hresult
  | stop h =>
    cases hresult
    exact ⟨_, h⟩
  | @again c next a result h hmore ih =>
    cases result with
    | error e => cases hresult
    | ok more =>
      cases hresult
      exact ih rfl

theorem progresses_schemaStep : Progresses schemaStep :=
  Judges.progresses judges_schemaStep fun _ _ => varied_of_declaration

/-- Declarations are read up to an end token. -/
theorem isEnd_of_schema_eq_ok {c after : Cursor} {decls : Schema}
    (h : schema c = .ok (decls, after)) : after.current.text = "" := by
  obtain ⟨stop, hstop⟩ := (unrolls_many progresses_schemaStep c).exists_stop h
  unfold schemaStep at hstop
  rw [current_then] at hstop
  split at hstop
  · rename_i hend
    cases hstop
    exact String.isEmpty_iff.mp hend
  · obtain ⟨d, next, _, hnone⟩ := bind_eq_ok_iff.mp hstop
    cases hnone

/-- A schema in front of an end token is accepted. -/
theorem schema_ofTokens {u : List Token} {decls : Schema} (h : Grammar.Schema u decls)
    (last : Token) (hlast : last.text = "") :
    schema (Cursor.ofTokens (u ++ [last])) = .ok (decls, ⟨[last], last⟩) := by
  have hstart : Cursor.ofTokens (u ++ [last]) = Cursor.unread ⟨[last], last⟩ u := by
    simp [Cursor.ofTokens, Cursor.unread]
  have hend : (Cursor.current ⟨[last], last⟩).isEnd = true := String.isEmpty_iff.mpr hlast
  rw [hstart, schema_complete h hend]

/-- No token of a schema is the end of the text. -/
theorem text_ne_of_schema {u : List Token} {decls : Schema} (h : Grammar.Schema u decls) :
    ∀ t ∈ u, t.text ≠ "" := by
  have hok := schema_ofTokens h ⟨"", .start⟩ rfl
  cases Judges.verdict judges_schema (Cursor.ofTokens (u ++ [⟨"", .start⟩])) with
  | rejects n e hsettles _ _ => cases hok.symm.trans hsettles.eq
  | accepts n decls' hsettles hread _ =>
    have hafter := (Prod.mk.inj (Except.ok.inj (hok.symm.trans hsettles.eq))).2
    have hlength : 1 = u.length + 1 - n := by
      simpa [Cursor.skip, Cursor.ofTokens] using congrArg (fun c => c.rest.length) hafter
    obtain rfl : n = u.length := by omega
    rwa [Cursor.taken_ofTokens (by simp), List.take_left] at hread

end Parser

/-! ## Rejected tokens -/

theorem parse_of_begins {read : List Token} (h : Parser.Begins Grammar.Schema read) :
    ∃ more last schema, (∀ t ∈ more, t.text ≠ "") ∧ last.text = "" ∧
      parse (read ++ more ++ [last]) = .ok schema := by
  obtain ⟨more, schema, hschema⟩ := h
  refine ⟨more, ⟨"", .start⟩, schema, fun t ht => ?_, rfl, ?_⟩
  · exact Parser.text_ne_of_schema hschema t (List.mem_append_right _ ht)
  · rw [parse, Parser.schema_ofTokens hschema _ rfl]
    rfl

/-- **First dead token.** If a text has tokens but no schema, the fault is reported at one of its
tokens, the end included: the tokens in front of it begin a list that is accepted, and every list
that goes on with it is rejected in the same way. Only a struct without fields is reported
elsewhere. -/
theorem parse_rejects_first_dead_token {text : String} {stream : List Token} {e : ParseError}
    (hscan : Token.scan text = .ok stream) (h : parse stream = .error e)
    (hfault : ∀ name, e.fault ≠ .emptyStruct name) :
    ∃ k token, stream[k]? = some token ∧ e.pos = token.pos ∧
      (∃ more last schema, (∀ t ∈ more, t.text ≠ "") ∧ last.text = "" ∧
        parse (stream.take k ++ more ++ [last]) = .ok schema) ∧
      ∀ more, parse (stream.take (k + 1) ++ more) = .error e := by
  obtain ⟨pieces, _, rfl⟩ := Token.scan_eq_ok_iff.mp hscan
  generalize Piece.tokens pieces = front at h ⊢
  generalize hlast : (⟨"", Position.after text.toList⟩ : Token) = last at h ⊢
  have hverdict := Parser.judges_schema.verdict (Cursor.ofTokens (front ++ [last]))
  cases hverdict with
  | accepts n schema hsettles _ _ => cases h.symm.trans (hsettles.parse_eq (.refl _ n))
  | rejects n e' hsettles hread hat =>
    obtain rfl := Except.error.inj (h.symm.trans (hsettles.parse_eq (.refl _ n)))
    have hn : n ≤ front.length := Cursor.le_length_of_read (hlast ▸ rfl) hread
    have hlt : n < (front ++ [last]).length := by
      rw [List.length_append]
      exact Nat.lt_succ_of_le hn
    obtain ⟨hpos, hbegins⟩ := hat.resolve_left (not_exists.mpr hfault)
    rw [Cursor.taken_ofTokens (Nat.le_of_lt hlt)] at hbegins
    rw [Cursor.ahead_ofTokens hlt] at hpos
    refine ⟨n, _, List.getElem?_eq_getElem hlt, hpos, parse_of_begins hbegins, fun more => ?_⟩
    refine hsettles.parse_eq (Cursor.agrees_ofTokens hlt ?_)
    rw [List.take_append_of_le_length (by simp; omega), List.take_take, Nat.min_self]

/-- A table, and a second one with a default that no integer holds and without its closing brace. -/
def cargoText : String :=
  "table A \x7b\x7d // empty
table B \x7b a:[b.C] (x); c:long = 1000000000000000000000000000000000000000; "

/-- The fault is the integer, not the end of the text. -/
theorem cargoText_rejects_integer : ∃ stream e, Token.scan cargoText = .ok stream ∧
    parse stream = .error e ∧ (∀ name, e.fault ≠ .emptyStruct name) ∧ e.pos = ⟨2, 33⟩ ∧
    ∃ k token, stream[k]? = some token ∧ e.pos = token.pos ∧
      (∃ more last schema, (∀ t ∈ more, t.text ≠ "") ∧ last.text = "" ∧
        parse (stream.take k ++ more ++ [last]) = .ok schema) ∧
      ∀ more, parse (stream.take (k + 1) ++ more) = .error e := by
  have hscan := eq_ok_getD (x := Token.scan cargoText) (a := []) (by decide +kernel)
  have hparse : parse ((Token.scan cargoText).toOption.getD []) =
      .error ⟨⟨2, 33⟩, .invalidInteger "1000000000000000000000000000000000000000"⟩ :=
    eq_error_of_match (by decide +kernel)
  refine ⟨_, _, hscan, hparse, by simp, rfl, ?_⟩
  exact parse_rejects_first_dead_token hscan hparse (by simp)

/-! ## Lists with and without an end -/

namespace Parser

/-- The steps that the parser repeats. -/
inductive Repeated : (α : Type) → Parser (Option α) → Prop
  | names : Repeated String pathStep
  | entries : Repeated MetadataEntry metadataStep
  | values : Repeated Value valuesStep
  | fields : Repeated Field compoundStep
  | declarations : Repeated Declaration schemaStep

theorem Repeated.progresses {α : Type} {step : Parser (Option α)} (h : Repeated α step) :
    Progresses step := by
  cases h with
  | names => exact judges_pathStep.progresses fun _ _ => varied_of_pathItem
  | entries => exact judges_metadataStep.progresses fun _ _ => varied_of_entryItem
  | values => exact judges_valuesStep.progresses fun _ _ => varied_of_valueItem
  | fields => exact judges_compoundStep.progresses fun _ _ => varied_of_field
  | declarations => exact progresses_schemaStep

end Parser

theorem parse_append_of_end (front back : List Token) {last : Token} (hlast : last.text = "") :
    parse (front ++ last :: back) = parse (front ++ [last]) := by
  obtain ⟨n, result, hsettles, hread⟩ :=
    (Parser.judges_schema.verdict (Cursor.ofTokens (front ++ last :: back))).exists_settles
  have hn : n ≤ front.length := Cursor.le_length_of_read hlast hread
  have htake : (front ++ [last]).take (n + 1) = (front ++ last :: back).take (n + 1) := by
    rw [List.append_cons front last back]
    exact (List.take_append_of_le_length (by simpa using hn)).symm
  rw [hsettles.parse_eq (.refl _ n),
    hsettles.parse_eq (Cursor.agrees_ofTokens (by simp; omega) htake)]

theorem exists_parse_eq_error {tokens : List Token} (hne : tokens ≠ [])
    (htokens : ∀ t ∈ tokens, t.text ≠ "") : ∃ e, parse tokens = .error e := by
  cases hparse : Parser.schema (Cursor.ofTokens tokens) with
  | error e => exact ⟨e, by rw [parse, hparse]; rfl⟩
  | ok result =>
    obtain ⟨decls, after⟩ := result
    obtain ⟨n, result, hsettles, _⟩ :=
      (Parser.judges_schema.verdict (Cursor.ofTokens tokens)).exists_settles
    have hafter : after.current = (Cursor.ofTokens tokens).ahead n := by
      cases result with
      | error e => cases hparse.symm.trans hsettles.eq
      | ok decls' =>
        obtain ⟨_, rfl⟩ := Prod.mk.inj (Except.ok.inj (hparse.symm.trans hsettles.eq))
        exact Cursor.current_skip _ n
    have hend := Parser.isEnd_of_schema_eq_ok hparse
    rw [hafter] at hend
    exact absurd hend (htokens _ (Cursor.ahead_mem hne n))

/-- **End.** Nothing behind the first end token changes what a list of tokens gives, and a list
without one is rejected. No repetition needs its bound for that: from every cursor, also behind the
last token, it ends by itself. -/
theorem parse_reads_up_to_end {tokens : List Token} (hne : tokens ≠ []) :
    (∀ front last back, tokens = front ++ last :: back → last.text = "" →
      parse tokens = parse (front ++ [last])) ∧
    ((∀ t ∈ tokens, t.text ≠ "") → ∃ e, parse tokens = .error e) ∧
    ∀ α step, Parser.Repeated α step → ∀ c, Parser.Unrolls step c (Parser.many step c) := by
  refine ⟨?_, exists_parse_eq_error hne, fun α step hstep c => ?_⟩
  · rintro front last back rfl hlast
    exact parse_append_of_end front back hlast
  · exact Parser.unrolls_many hstep.progresses c

/-- A namespace without an end, whose path would go on with its last name, and an end in front of a
token that starts no declaration. -/
theorem endless_path_and_early_end :
    (∃ e, parse [⟨"namespace", ⟨1, 1⟩⟩, ⟨"a", ⟨1, 11⟩⟩, ⟨".", ⟨1, 12⟩⟩, ⟨"b", ⟨1, 13⟩⟩] =
      .error e) ∧
    parse [⟨"", ⟨1, 1⟩⟩, ⟨"oops", ⟨1, 2⟩⟩, ⟨"", ⟨1, 6⟩⟩] = .ok [] := by
  refine ⟨(parse_reads_up_to_end (by simp)).2.1 (by decide), ?_⟩
  refine ((parse_reads_up_to_end (by simp)).1 [] _ _ rfl rfl).trans ?_
  exact Outcome.eq_ok_of_toOption (by decide +kernel)

end WireSchema.Source
