/-
WireSchema.Proofs.Source.Places — the parser never looks at places.

`unplaced` moves tokens, declarations and errors to the start of the text. A parser that is given
tokens without their places does what it does with them, and gives the same without places
(`Follows`). The rules follow the steps of a parser, so each parser is one short proof; a step that
goes on with something that has a place goes on with the same thing without it.

Main statement: `Source.unplacedTree_parse_of_texts`.
-/
import WireSchema.Proofs.Source.Recognises

namespace WireSchema

/-! ## Without places -/

def Token.unplaced (t : Token) : Token :=
  { t with pos := .start }

theorem Token.text_unplaced (t : Token) : t.unplaced.text = t.text := rfl

def ParseError.unplaced (e : ParseError) : ParseError :=
  { e with pos := .start }

namespace Source

def Value.unplaced (v : Value) : Value :=
  { v with pos := .start }

def Enum.unplaced (d : Enum) : Enum :=
  { d with values := d.values.map Value.unplaced, pos := .start }

def Union.unplaced (d : Union) : Union :=
  { d with members := d.members.map Value.unplaced, pos := .start }

def Field.unplaced (f : Field) : Field :=
  { f with pos := .start }

def Compound.unplaced (d : Compound) : Compound :=
  { d with fields := d.fields.map Field.unplaced, pos := .start }

/-- A declaration at the start of the text, and all its parts there too. -/
def Declaration.unplaced : Declaration → Declaration
  | .enum d => .enum d.unplaced
  | .union d => .union d.unplaced
  | .struct d => .struct d.unplaced
  | .table d => .table d.unplaced
  | .includeFile path => .includeFile path
  | .inNamespace path => .inNamespace path
  | .attributeName name => .attributeName name
  | .rootType name => .rootType name
  | .fileExtension extension => .fileExtension extension
  | .fileIdentifier identifier => .fileIdentifier identifier

namespace Cursor

def unplaced (c : Cursor) : Cursor :=
  ⟨c.rest.map Token.unplaced, c.last.unplaced⟩

theorem current_unplaced (c : Cursor) : c.unplaced.current = c.current.unplaced := by
  cases c with
  | mk rest last => cases rest <;> rfl

theorem advance_unplaced (c : Cursor) : c.unplaced.advance = c.advance.unplaced := by
  cases c with
  | mk rest last => cases rest <;> rfl

theorem length_unplaced (c : Cursor) : c.unplaced.rest.length = c.rest.length :=
  List.length_map ..

theorem ofTokens_map_unplaced (tokens : List Token) :
    ofTokens (tokens.map Token.unplaced) = (ofTokens tokens).unplaced := by
  rw [ofTokens, ofTokens, unplaced, List.getLast?_map]
  cases tokens.getLast? <;> rfl

end Cursor

/-! ## Steps -/

namespace Parser

variable {α β : Type}

/-- What is left of an outcome without places. -/
def unplacedOutcome (keep : α → α) (outcome : Except ParseError (α × Cursor)) :
    Except ParseError (α × Cursor) :=
  (outcome.map fun result => (keep result.1, result.2.unplaced)).mapError ParseError.unplaced

/-- The second parser does without places what the first one does with them; `keep` takes the places
out of a result. -/
def Follows (keep : α → α) (p q : Parser α) : Prop :=
  ∀ c, q c.unplaced = unplacedOutcome keep (p c)

variable {keep : α → α} {keep' : β → β} {p p' : Parser α} {q q' : α → Parser β}

theorem Follows.bind (hp : Follows keep p p') (hq : ∀ a, Follows keep' (q a) (q' (keep a))) :
    Follows keep' (p >>= q) (p' >>= q') := by
  intro c
  simp only [Bind.bind, StateT.bind, Except.bind, hp c]
  cases p c with
  | error e => rfl
  | ok result => exact hq result.1 result.2

theorem Follows.pure {a b : α} (h : b = keep a) : Follows keep (Pure.pure a) (Pure.pure b) := by
  intro c
  rw [h]
  rfl

theorem Follows.ite {condition : Prop} [Decidable condition] {r r' : Parser α}
    (hp : Follows keep p p') (hr : Follows keep r r') :
    Follows keep (if condition then p else r) (if condition then p' else r') := by
  split
  · exact hp
  · exact hr

theorem follows_current : Follows Token.unplaced current current := by
  intro c
  rw [current, current, Cursor.current_unplaced]
  rfl

theorem follows_fail (t : Token) (fault : ParseFault) :
    Follows keep (fail t fault) (fail t.unplaced fault) :=
  fun _ => rfl

theorem follows_expect (what : Expectation) :
    Follows Token.unplaced (expect what) (expect what) := by
  intro c
  unfold expect
  rw [Cursor.current_unplaced, Cursor.advance_unplaced]
  by_cases h : (what.accepts c.current.text && !c.current.isEnd) = true
  · rw [if_pos h]
    exact if_pos h
  · rw [if_neg h]
    exact if_neg h

theorem follows_eat (text : String) : Follows id (eat text) (eat text) := by
  intro c
  unfold eat eatIf
  rw [Cursor.current_unplaced, Cursor.advance_unplaced]
  by_cases h : (c.current.text == text && !c.current.isEnd) = true
  · rw [if_pos h]
    exact if_pos h
  · rw [if_neg h]
    exact if_neg h

/-- A branch on the next token. -/
theorem Follows.ifEat {text : String} {r r' : Parser α} (hp : Follows keep p p')
    (hr : Follows keep r r') :
    Follows keep (do if ← eat text then p else r) (do if ← eat text then p' else r') :=
  (follows_eat text).bind fun _ => hp.ite hr

/-- A repetition makes the same steps, and its bound counts the same tokens. -/
theorem Follows.many (keep : α → α) {step step' : Parser (Option α)}
    (h : Follows (Option.map keep) step step') :
    Follows (List.map keep) (many step) (many step') := by
  have hgoes : ∀ {c after : Cursor} {a : α}, step c = .ok (some a, after) →
      step' c.unplaced = .ok (some (keep a), after.unplaced) := by
    intro c after a hsome
    rw [h c, hsome]
    rfl
  have hbound : ∀ {c after : Cursor}, after.unplaced.rest.length < c.unplaced.rest.length ↔
      after.rest.length < c.rest.length := by
    intro c after
    rw [Cursor.length_unplaced, Cursor.length_unplaced]
  intro c
  fun_induction Parser.many step c with
  | case1 c e he => rw [Parser.many, h c, he]; rfl
  | case2 c after hnone => rw [Parser.many, h c, hnone]; rfl
  | case3 c a after hsome hlt e he ih =>
    rw [Parser.many, hgoes hsome]
    simp only [hbound.mpr hlt, if_true, ih, he]
    rfl
  | case4 c a after hsome hlt as final hmore ih =>
    rw [Parser.many, hgoes hsome]
    simp only [hbound.mpr hlt, if_true, ih, hmore]
    rfl
  | case5 c a after hsome hlt =>
    rw [Parser.many, hgoes hsome]
    simp only [mt hbound.mp hlt, if_false, Cursor.current_unplaced]
    rfl

/-! ## Parsers -/

theorem follows_path : Follows id path path := by
  refine (follows_expect _).bind fun first => Follows.bind (.many id ?_) fun more => ?_
  · exact .ifEat ((follows_expect _).bind fun _ => .pure rfl) (.pure rfl)
  · exact .pure (by simp [Token.unplaced])

theorem follows_dottedPath : Follows id dottedPath dottedPath :=
  Follows.bind follows_path fun _ => .pure rfl

theorem follows_integer : Follows id integer integer := by
  refine (follows_expect _).bind fun t => ?_
  rw [Token.text_unplaced]
  cases Number.integer? t.text with
  | some value => exact .pure rfl
  | none => exact follows_fail t _

theorem follows_literal : Follows id literal literal := by
  intro c
  have hclass : literalOf c.current.unplaced = literalOf c.current := rfl
  unfold literal
  rw [Cursor.current_unplaced, Cursor.advance_unplaced, hclass]
  cases literalOf c.current <;> rfl

theorem follows_metadataEntry : Follows id metadataEntry metadataEntry := by
  refine (follows_expect _).bind fun name => .ifEat ?_ (.pure rfl)
  exact Follows.bind follows_literal fun _ => .pure rfl

theorem follows_metadata : Follows id metadata metadata := by
  refine .ifEat (.ifEat (.pure rfl) ?_) (.pure rfl)
  refine Follows.bind follows_metadataEntry fun first =>
    Follows.bind (.many id ?_) fun more => .pure (by simp)
  refine .ifEat (.pure rfl) ((follows_expect _).bind fun _ => ?_)
  exact Follows.bind follows_metadataEntry fun _ => .pure rfl

theorem follows_value : Follows Value.unplaced value value := by
  refine follows_current.bind fun first => Follows.bind follows_dottedPath fun name => ?_
  exact .ifEat (Follows.bind follows_integer fun _ => .pure rfl) (.pure rfl)

theorem follows_values : Follows (List.map Value.unplaced) values values := by
  refine (follows_expect _).bind fun _ => Follows.bind follows_value fun first => ?_
  refine Follows.bind (.many Value.unplaced ?_) fun more =>
    (follows_expect _).bind fun _ => .pure rfl
  refine .ifEat (follows_current.bind fun t => ?_) (.pure rfl)
  exact .ite (.pure rfl) (Follows.bind follows_value fun _ => .pure rfl)

theorem follows_enum : Follows Enum.unplaced enum enum := by
  refine (follows_expect _).bind fun name => (follows_expect _).bind fun _ =>
    (follows_expect _).bind fun underlying => ?_
  exact Follows.bind follows_metadata fun entries =>
    Follows.bind follows_values fun values => .pure rfl

theorem follows_union : Follows Union.unplaced union union := by
  refine (follows_expect _).bind fun name => ?_
  exact Follows.bind follows_metadata fun entries =>
    Follows.bind follows_values fun members => .pure rfl

theorem follows_fieldType : Follows id fieldType fieldType := by
  refine .ifEat ?_ (Follows.bind follows_dottedPath fun _ => .pure rfl)
  exact Follows.bind follows_dottedPath fun _ => (follows_expect _).bind fun _ => .pure rfl

theorem follows_fieldDefault : Follows id fieldDefault fieldDefault :=
  .ifEat (Follows.bind follows_literal fun _ => .pure rfl) (.pure rfl)

theorem follows_field : Follows Field.unplaced field field := by
  refine (follows_expect _).bind fun name => (follows_expect _).bind fun _ => ?_
  refine Follows.bind follows_fieldType fun type =>
    Follows.bind follows_fieldDefault fun default => ?_
  exact Follows.bind follows_metadata fun entries => (follows_expect _).bind fun _ => .pure rfl

theorem follows_compound : Follows Compound.unplaced compound compound := by
  refine (follows_expect _).bind fun name => Follows.bind follows_metadata fun entries =>
    (follows_expect _).bind fun _ => ?_
  refine Follows.bind (.many Field.unplaced ?_) fun fields => .pure rfl
  refine .ifEat (.pure rfl) (follows_current.bind fun t => .ite (follows_fail t _) ?_)
  exact Follows.bind follows_field fun _ => .pure rfl

theorem follows_struct : Follows Compound.unplaced struct struct := by
  refine Follows.bind follows_compound fun decl => ?_
  have hempty : decl.unplaced.fields.isEmpty = decl.fields.isEmpty := List.isEmpty_map
  rw [hempty]
  exact .ite (fun _ => rfl) (.pure rfl)

theorem follows_stringLine : Follows id stringLine stringLine :=
  (follows_expect _).bind fun _ => (follows_expect _).bind fun _ => .pure rfl

theorem follows_declaration : Follows Declaration.unplaced declaration declaration := by
  refine .ifEat (Follows.bind follows_stringLine fun _ => .pure rfl) ?_
  refine .ifEat (Follows.bind follows_path fun _ => (follows_expect _).bind fun _ => .pure rfl) ?_
  refine .ifEat ((follows_expect _).bind fun _ => (follows_expect _).bind fun _ => .pure rfl) ?_
  refine .ifEat (Follows.bind follows_dottedPath fun _ =>
    (follows_expect _).bind fun _ => .pure rfl) ?_
  refine .ifEat (Follows.bind follows_stringLine fun _ => .pure rfl) ?_
  refine .ifEat (Follows.bind follows_stringLine fun _ => .pure rfl) ?_
  refine .ifEat (Follows.bind follows_enum fun _ => .pure rfl) ?_
  refine .ifEat (Follows.bind follows_union fun _ => .pure rfl) ?_
  refine .ifEat (Follows.bind follows_struct fun _ => .pure rfl) ?_
  refine .ifEat (Follows.bind follows_compound fun _ => .pure rfl) ?_
  exact follows_current.bind fun t => follows_fail t _

theorem follows_schema : Follows (List.map Declaration.unplaced) schema schema := by
  refine .many _ (follows_current.bind fun t => .ite (.pure rfl) ?_)
  exact Follows.bind follows_declaration fun _ => .pure rfl

end Parser

/-- A tree or an error, without places. -/
def unplacedTree (outcome : Except ParseError Schema) : Except ParseError Schema :=
  (outcome.map (List.map Declaration.unplaced)).mapError ParseError.unplaced

theorem parse_map_unplaced (tokens : List Token) :
    parse (tokens.map Token.unplaced) = unplacedTree (parse tokens) := by
  rw [parse, parse, Cursor.ofTokens_map_unplaced, Parser.follows_schema]
  cases Parser.schema (Cursor.ofTokens tokens) <;> rfl

/-- Tokens with the same texts give the same tree or the same fault, places apart. -/
theorem unplacedTree_parse_of_texts {tokens other : List Token}
    (h : other.map Token.text = tokens.map Token.text) :
    unplacedTree (parse other) = unplacedTree (parse tokens) := by
  have hunplaced : ∀ ts : List Token,
      ts.map Token.unplaced = (ts.map Token.text).map (Token.mk · .start) := by
    intro ts
    rw [List.map_map]
    rfl
  rw [← parse_map_unplaced, ← parse_map_unplaced, hunplaced, hunplaced, h]

end Source

end WireSchema
