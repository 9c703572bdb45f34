/-
WireSchema.Proofs.Source.Recognises — what it means that a parser reads the phrases of a production.

A cursor behind a phrase is `after`; in front of it, it is `after.unread used`. `Recognises` says that
what a parser accepts is a phrase at its front (`sound`), and that every phrase is accepted if the token
behind it does not go on with the phrase (`complete`). Repetitions are treated once, in `many_sound` and
`many_complete`.
-/
import WireSchema.Proofs.Source.Lexical

namespace WireSchema.Source

open WireSchema.Grammar (IsIdentifier Star Marked)

/-! ## Cursors -/

namespace Cursor

/-- The cursor in front of tokens that were read. -/
def unread (c : Cursor) (used : List Token) : Cursor :=
  { c with rest := used ++ c.rest }

variable {c : Cursor} {t : Token} {u v : List Token}

@[simp] theorem unread_nil : c.unread [] = c := rfl

theorem unread_append : c.unread (u ++ v) = (c.unread v).unread u := by
  simp [unread]

@[simp] theorem current_unread_cons : (c.unread (t :: u)).current = t := rfl

@[simp] theorem advance_unread_cons : (c.unread (t :: u)).advance = c.unread u := rfl

theorem length_unread : (c.unread u).rest.length = u.length + c.rest.length := by
  simp [unread]

/-- A token that is not the end was among the tokens not yet read. -/
theorem eq_unread_advance (hend : c.last.isEnd = true) (h : c.current.isEnd = false) :
    c = c.advance.unread [c.current] := by
  obtain ⟨rest, last⟩ := c
  cases rest with
  | nil => rw [current, List.headD_nil, hend] at h; cases h
  | cons t rest => rfl

end Cursor

theorem isEnd_eq_false_iff {t : Token} : t.isEnd = false ↔ t.text ≠ "" := by
  rw [Token.isEnd, ← Bool.not_eq_true, String.isEmpty_iff]

namespace Parser

variable {α β : Type} {c after : Cursor}

/-! ## Steps -/

theorem bind_eq_ok_iff {p : Parser α} {f : α → Parser β} {b : β} :
    (p >>= f) c = .ok (b, after) ↔ ∃ a next, p c = .ok (a, next) ∧ f a next = .ok (b, after) := by
  simp only [bind, StateT.bind, Except.bind]
  cases p c with
  | error e => simp
  | ok r =>
    constructor
    · intro h
      exact ⟨r.1, r.2, rfl, h⟩
    · rintro ⟨a, next, hr, h⟩
      cases hr
      exact h

theorem bind_of_ok {p : Parser α} {f : α → Parser β} {a : α} {next : Cursor}
    (h : p c = .ok (a, next)) : (p >>= f) c = f a next := by
  simp only [bind, StateT.bind, Except.bind, h]

theorem current_then {f : Token → Parser β} : (current >>= f) c = f c.current c := rfl

theorem expect_cases {what : Expectation} {t : Token} (h : expect what c = .ok (t, after))
    (hend : c.last.isEnd = true) : what.accepts t.text = true ∧ c = after.unread [t] := by
  unfold expect at h
  split at h
  · rename_i haccepts
    rw [Bool.and_eq_true, Bool.not_eq_true'] at haccepts
    cases h
    exact ⟨haccepts.1, Cursor.eq_unread_advance hend haccepts.2⟩
  · cases h

theorem expect_unread {what : Expectation} {t : Token} {u : List Token}
    (h : what.accepts t.text = true) (hne : t.text ≠ "") :
    expect what (c.unread (t :: u)) = .ok (t, c.unread u) := by
  simp [expect, h, isEnd_eq_false_iff.mpr hne]

/-- A branch on the next token. -/
theorem ifEat_cases {text : String} {p q : Parser α} {a : α}
    (h : (do if ← eat text then p else q) c = .ok (a, after)) (hend : c.last.isEnd = true) :
    (∃ t next, t.text = text ∧ c = next.unread [t] ∧ p next = .ok (a, after)) ∨
      q c = .ok (a, after) := by
  obtain ⟨found, next, heat, h⟩ := bind_eq_ok_iff.mp h
  unfold eat eatIf at heat
  split at heat
  · rename_i htext
    rw [Bool.and_eq_true, Bool.not_eq_true', beq_iff_eq] at htext
    cases heat
    exact .inl ⟨c.current, _, htext.1, Cursor.eq_unread_advance hend htext.2, h⟩
  · cases heat
    exact .inr h

theorem ifEat_unread {text : String} {p q : Parser α} {t : Token} {u : List Token}
    (h : t.text = text) (hne : text ≠ "") :
    (do if ← eat text then p else q) (c.unread (t :: u)) = p (c.unread u) := by
  have heat : eat text (c.unread (t :: u)) = .ok (true, c.unread u) := by
    simp [eat, eatIf, h, isEnd_eq_false_iff.mpr (h ▸ hne)]
  rw [bind_of_ok heat, if_pos rfl]

theorem ifEat_of_ne {text : String} {p q : Parser α} (h : c.current.text ≠ text) :
    (do if ← eat text then p else q) c = q c := by
  have heat : eat text c = .ok (false, c) := by
    simp [eat, eatIf, h]
  rw [bind_of_ok heat, if_neg Bool.false_ne_true]

/-! ## Repetitions -/

/-- What a repetition accepts are items, up to the place where its step ends it. -/
theorem many_sound (item : List Token → α → Prop) {step : Parser (Option α)}
    (hstep : ∀ c a next, step c = .ok (some a, next) → c.last.isEnd = true →
      ∃ u, c = next.unread u ∧ item u a)
    {as : List α} (h : many step c = .ok (as, after)) (hend : c.last.isEnd = true) :
    ∃ v stop, c = stop.unread v ∧ Star item v as ∧ step stop = .ok (none, after) := by
  fun_induction many step c generalizing as after with
  | case1 c e he => cases h
  | case2 c next hnone =>
    cases h
    exact ⟨[], c, rfl, .nil, hnone⟩
  | case3 c a next hsome hlt e he ih => cases h
  | case4 c a next hsome hlt rest final hrest ih =>
    cases h
    obtain ⟨u, rfl, hitem⟩ := hstep c a next hsome hend
    obtain ⟨v, stop, rfl, hstar, hstop⟩ := ih hrest hend
    exact ⟨u ++ v, stop, Cursor.unread_append.symm, .cons hitem hstar, hstop⟩
  | case5 c a next hsome hlt => cases h

/-- Items are accepted one after the other, if each of them may stand in front of the next. -/
theorem many_complete (ready : Cursor → Prop) {step : Parser (Option α)}
    {item : List Token → α → Prop} {stop : Cursor}
    (hitem : ∀ u a next, item u a → ready next → step (next.unread u) = .ok (some a, next))
    (hne : ∀ u a, item u a → u ≠ [])
    (hfront : ∀ u a (next : Cursor), item u a → ready (next.unread u))
    (hready : ready stop) (hstop : step stop = .ok (none, after)) {v : List Token} {as : List α}
    (h : Star item v as) : many step (stop.unread v) = .ok (as, after) := by
  induction h with
  | nil => rw [many, Cursor.unread_nil, hstop]
  | @cons u v a as hu hv ih =>
    have hnext : ready (stop.unread v) := by
      cases hv with
      | nil => exact hready
      | cons hu' _ =>
        rw [Cursor.unread_append]
        exact hfront _ _ _ hu'
    have hlength : (stop.unread v).rest.length < (stop.unread (u ++ v)).rest.length := by
      have hpos := List.length_pos_iff.mpr (hne u a hu)
      simp only [Cursor.length_unread, List.length_append]
      omega
    rw [many, Cursor.unread_append, hitem u a _ hu hnext]
    simp only [← Cursor.unread_append, hlength, if_true, ih]

/-! ## Tokens -/

section

variable {t : Token} {u : List Token} {b : β} {f : Token → Parser β} {text : String}

theorem identifier_cases (h : (expect .identifier >>= f) c = .ok (b, after))
    (hend : c.last.isEnd = true) :
    ∃ t next, IsIdentifier t.text ∧ c = next.unread [t] ∧ f t next = .ok (b, after) := by
  obtain ⟨t, next, ht, hf⟩ := bind_eq_ok_iff.mp h
  obtain ⟨haccepts, hc⟩ := expect_cases ht hend
  exact ⟨t, next, Grammar.isIdentifier_iff.mp haccepts, hc, hf⟩

theorem identifier_unread (h : IsIdentifier t.text) :
    (expect .identifier >>= f) (c.unread (t :: u)) = f t (c.unread u) :=
  bind_of_ok (expect_unread (Grammar.isIdentifier_iff.mpr h) h.ne_empty)

theorem symbol_cases (h : (expect (.symbol text) >>= f) c = .ok (b, after))
    (hend : c.last.isEnd = true) :
    ∃ t next, t.text = text ∧ c = next.unread [t] ∧ f t next = .ok (b, after) := by
  obtain ⟨t, next, ht, hf⟩ := bind_eq_ok_iff.mp h
  obtain ⟨haccepts, hc⟩ := expect_cases ht hend
  exact ⟨t, next, beq_iff_eq.mp haccepts, hc, hf⟩

theorem symbol_unread (h : t.text = text) (hne : text ≠ "") :
    (expect (.symbol text) >>= f) (c.unread (t :: u)) = f t (c.unread u) :=
  bind_of_ok (expect_unread (beq_iff_eq.mpr h) (h ▸ hne))

end

/-! ## Parsers and phrases -/

/-- A parser reads the phrases of a production: what it accepts is one, and it accepts every one that
the next token does not continue. -/
structure Recognises (p : Parser α) (phrase : List Token → α → Prop) (follow : String → Prop) :
    Prop where
  sound : ∀ {c after : Cursor} {a : α}, p c = .ok (a, after) → c.last.isEnd = true →
    ∃ used, c = after.unread used ∧ phrase used a
  complete : ∀ {used : List Token} {a : α} {after : Cursor}, phrase used a →
    follow after.current.text → p (after.unread used) = .ok (a, after)

namespace Recognises

variable {p : Parser α} {phrase : List Token → α → Prop} {follow : String → Prop}
  {f : α → Parser β} {b : β}

theorem cases (hp : Recognises p phrase follow) (h : (p >>= f) c = .ok (b, after))
    (hend : c.last.isEnd = true) :
    ∃ used a next, phrase used a ∧ c = next.unread used ∧ f a next = .ok (b, after) := by
  obtain ⟨a, next, ha, hf⟩ := bind_eq_ok_iff.mp h
  obtain ⟨used, hc, hphrase⟩ := hp.sound ha hend
  exact ⟨used, a, next, hphrase, hc, hf⟩

theorem unread (hp : Recognises p phrase follow) {u v : List Token} {a : α} (h : phrase u a)
    (hfollow : follow (c.unread v).current.text) :
    (p >>= f) (c.unread (u ++ v)) = f a (c.unread v) := by
  rw [Cursor.unread_append]
  exact bind_of_ok (hp.complete h hfollow)

end Recognises

/-! ## What stands at the front of a phrase -/

section

variable {P : String → Prop} {t : Token} {u v : List Token} {text other : String}

theorem front_ne (h : t.text = text) (hne : text ≠ other) :
    (c.unread (t :: u)).current.text ≠ other :=
  h ▸ hne

/-- The front of a repetition is a mark or what follows. -/
theorem front_of_marked {item : List Token → α → Prop} {mark : String} {as : List α}
    (h : Star (Marked item mark) v as) (hmark : P mark) (hnext : P c.current.text) :
    P (c.unread v).current.text := by
  cases h with
  | nil => exact hnext
  | cons hitem _ =>
    cases hitem with
    | intro htext _ => exact htext ▸ hmark

theorem front_of_metadata {entries : List MetadataEntry} (h : Grammar.Metadata v entries)
    (hopening : P "(") (hnext : P c.current.text) : P (c.unread v).current.text := by
  cases h with
  | absent => exact hnext
  | empty htext _ => exact htext ▸ hopening
  | entries htext _ _ => exact htext ▸ hopening

theorem front_of_default {value : Option Literal} (h : Grammar.Default v value) (hequals : P "=")
    (hnext : P c.current.text) : P (c.unread v).current.text := by
  cases h with
  | absent => exact hnext
  | given htext _ => exact htext ▸ hequals

theorem front_of_values {values : List Value} (h : Grammar.Values v values) (hopening : P "\x7b") :
    P (c.unread v).current.text := by
  cases h with
  | plain htext _ _ => exact htext ▸ hopening
  | trailing htext _ _ _ => exact htext ▸ hopening

end

end Parser

end WireSchema.Source
