/-
WireSchema.Proofs.Source.Verdict — what a parser has seen when it comes to its verdict.

A cursor stands in front of an endless run of tokens: behind the last one comes the last one again
(`Cursor.ahead`). A parser reads some of them and looks at one more. `Settles` says that these
tokens alone decide how it ends, and `Verdict` adds what it knows by then: what it accepts is a
phrase of its production, and what it has read when it rejects a token begins one. `Judges` has a
verdict from every cursor; it is put together from the steps of a parser (`Judges.bind`,
`Judges.ifEat`, `Judges.many`).

A repetition goes on only behind an item, and no item is one token over and over (`Varied`). So the
bound of `Parser.many` is never met, not even behind the last token (`Progresses`, `unrolls_many`).
-/
import WireSchema.Proofs.Source.Recognises

namespace WireSchema.Source

open WireSchema.Grammar (IsIdentifier Star)

/-! ## Tokens ahead -/

namespace Cursor

/-- The token that is read after `i` others. -/
def ahead (c : Cursor) (i : Nat) : Token :=
  c.rest.getD i c.last

/-- The cursor behind the next `n` tokens. -/
def skip (c : Cursor) (n : Nat) : Cursor :=
  { c with rest := c.rest.drop n }

/-- The next `n` tokens. -/
def taken (c : Cursor) (n : Nat) : List Token :=
  (List.range n).map c.ahead

/-- Another cursor sees the same next `n` tokens, and the same one behind them. -/
def Agrees (c : Cursor) (n : Nat) (other : Cursor) : Prop :=
  ∀ i ≤ n, other.ahead i = c.ahead i

variable {c other : Cursor} {i m n : Nat}

theorem ahead_zero (c : Cursor) : c.ahead 0 = c.current := by
  cases c with
  | mk rest last => cases rest <;> rfl

theorem ahead_skip (c : Cursor) (n i : Nat) : (c.skip n).ahead i = c.ahead (n + i) := by
  simp [ahead, skip, List.getD_eq_getElem?_getD]

theorem current_skip (c : Cursor) (n : Nat) : (c.skip n).current = c.ahead n := by
  rw [← ahead_zero, ahead_skip, Nat.add_zero]

theorem skip_one (c : Cursor) : c.skip 1 = c.advance := by
  simp [skip, advance]

theorem skip_skip (c : Cursor) (n m : Nat) : (c.skip n).skip m = c.skip (n + m) := by
  simp [skip]

theorem taken_one (c : Cursor) : c.taken 1 = [c.current] := by
  simp [taken, ahead_zero]

theorem taken_add (c : Cursor) (n m : Nat) : c.taken (n + m) = c.taken n ++ (c.skip n).taken m := by
  simp [taken, List.range_add, Function.comp_def, ahead_skip]

theorem taken_one_add (c : Cursor) (n : Nat) :
    c.taken (1 + n) = c.current :: c.advance.taken n := by
  rw [taken_add, taken_one, skip_one, List.singleton_append]

theorem Agrees.refl (c : Cursor) (n : Nat) : c.Agrees n c :=
  fun _ _ => rfl

theorem Agrees.of_le (h : c.Agrees n other) (hle : m ≤ n) : c.Agrees m other :=
  fun i hi => h i (Nat.le_trans hi hle)

theorem Agrees.skip (h : c.Agrees (n + m) other) : (c.skip n).Agrees m (other.skip n) := by
  intro i hi
  rw [ahead_skip, ahead_skip]
  exact h (n + i) (by omega)

theorem Agrees.current (h : c.Agrees n other) : other.current = c.current := by
  rw [← ahead_zero, ← ahead_zero]
  exact h 0 (Nat.zero_le n)

/-- Behind the last token nothing is seen but the last token. -/
theorem eq_last_of_mem_taken {t : Token} (hrest : c.rest = []) (h : t ∈ c.taken n) :
    t = c.last := by
  obtain ⟨i, _, rfl⟩ := List.mem_map.mp h
  simp [ahead, hrest]

end Cursor

/-! ## Verdicts -/

namespace Parser

variable {α β : Type} {c : Cursor} {n : Nat}

/-- From a cursor, a parser reads `n` tokens and looks at the next one. These decide how it ends. -/
def Settles (p : Parser α) (c : Cursor) (n : Nat) (result : Except ParseError α) : Prop :=
  ∀ other, c.Agrees n other → p other = result.map fun a => (a, other.skip n)

/-- Tokens that a phrase begins with. -/
def Begins (phrase : List Token → α → Prop) (read : List Token) : Prop :=
  ∃ more a, phrase (read ++ more) a

/-- An error is reported at the token that was looked at, and what was read before begins a phrase.
Only a struct without fields is reported at its name. -/
def IsFault (viable : List Token → α → Prop) (c : Cursor) (n : Nat) (e : ParseError) : Prop :=
  (∃ name, e.fault = .emptyStruct name) ∨ e.pos = (c.ahead n).pos ∧ Begins viable (c.taken n)

/-- How a parser ends: what it has read is a phrase, or begins a viable one up to the token that it
rejects. Neither holds the end of the text. -/
inductive Verdict (p : Parser α) (phrase viable : List Token → α → Prop) (c : Cursor) : Prop
  | accepts (n : Nat) (a : α) (hsettles : Settles p c n (.ok a))
      (hread : ∀ t ∈ c.taken n, t.text ≠ "") (hphrase : phrase (c.taken n) a)
  | rejects (n : Nat) (e : ParseError) (hsettles : Settles p c n (.error e))
      (hread : ∀ t ∈ c.taken n, t.text ≠ "") (hfault : IsFault viable c n e)

/-- A parser that comes to a verdict from every cursor; its production has a viable phrase. -/
structure Judges (p : Parser α) (phrase viable : List Token → α → Prop) : Prop where
  possible : Begins viable []
  verdict : ∀ c, Verdict p phrase viable c

variable {p : Parser α} {q : α → Parser β} {P V : List Token → α → Prop}
  {Q W : List Token → β → Prop}

theorem Settles.eq {result : Except ParseError α} (h : Settles p c n result) :
    p c = result.map fun a => (a, c.skip n) :=
  h c (.refl c n)

theorem Verdict.exists_settles (h : Verdict p P V c) :
    ∃ n result, Settles p c n result ∧ ∀ t ∈ c.taken n, t.text ≠ "" := by
  cases h with
  | accepts n a hsettles hread _ => exact ⟨n, .ok a, hsettles, hread⟩
  | rejects n e hsettles hread _ => exact ⟨n, .error e, hsettles, hread⟩

theorem Begins.of_append {read more : List Token} (h : Begins V (read ++ more)) :
    Begins V read := by
  obtain ⟨rest, a, ha⟩ := h
  exact ⟨more ++ rest, a, List.append_assoc .. ▸ ha⟩

theorem Begins.trans {read : List Token} (h : Begins V read)
    (hnext : ∀ u a, V u a → Begins W u) : Begins W read := by
  obtain ⟨more, a, ha⟩ := h
  exact (hnext _ a ha).of_append

theorem Begins.mono {V' : List Token → α → Prop} {read : List Token} (h : Begins V read)
    (hle : ∀ u a, V u a → V' u a) : Begins V' read := by
  obtain ⟨more, a, ha⟩ := h
  exact ⟨more, a, hle _ a ha⟩

theorem begins_shift (read more : List Token) :
    Begins (fun v => W (read ++ v)) more ↔ Begins W (read ++ more) := by
  simp [Begins]

/-! ### Sequences -/

theorem bind_of_error {e : ParseError} (h : p c = .error e) : (p >>= q) c = .error e := by
  simp only [bind, StateT.bind, Except.bind, h]

theorem Settles.bind {m : Nat} {a : α} {result : Except ParseError β}
    (hp : Settles p c n (.ok a)) (hq : Settles (q a) (c.skip n) m result) :
    Settles (p >>= q) c (n + m) result := by
  intro other hagrees
  rw [bind_of_ok (hp other (hagrees.of_le (Nat.le_add_right n m))), hq _ hagrees.skip,
    Cursor.skip_skip]

theorem Settles.bind_error {e : ParseError} (hp : Settles p c n (.error e)) :
    Settles (p >>= q) c n (.error e) := by
  intro other hagrees
  exact bind_of_error (hp other hagrees)

theorem Verdict.bind (hp : Verdict p P V c) (hviable : ∀ u a, V u a → Begins W u)
    (hq : ∀ n a, P (c.taken n) a → Verdict (q a) (fun v => Q (c.taken n ++ v))
      (fun v => W (c.taken n ++ v)) (c.skip n)) : Verdict (p >>= q) Q W c := by
  cases hp with
  | rejects n e hsettles hread hfault =>
    refine .rejects n e hsettles.bind_error hread (hfault.imp_right fun hat => ?_)
    exact ⟨hat.1, hat.2.trans hviable⟩
  | accepts n a hsettles hread hphrase =>
    have hboth : ∀ m, (∀ t ∈ (c.skip n).taken m, t.text ≠ "") →
        ∀ t ∈ c.taken (n + m), t.text ≠ "" := by
      intro m hmore t ht
      rw [Cursor.taken_add, List.mem_append] at ht
      exact ht.elim (hread t) (hmore t)
    cases hq n a hphrase with
    | accepts m b hsettles' hread' hphrase' =>
      refine .accepts (n + m) b (hsettles.bind hsettles') (hboth m hread') ?_
      rwa [Cursor.taken_add]
    | rejects m e hsettles' hread' hfault' =>
      refine .rejects (n + m) e (hsettles.bind hsettles') (hboth m hread')
        (hfault'.imp_right fun hat => ?_)
      rw [Cursor.taken_add]
      exact ⟨hat.1.trans (by rw [Cursor.ahead_skip]), (begins_shift _ _).mp hat.2⟩

theorem Verdict.pure {a : α} (h : P [] a) : Verdict (Pure.pure a) P V c :=
  .accepts 0 a (fun _ _ => rfl) (List.forall_mem_nil _) h

/-- The current token decides that one parser goes on as another does. -/
theorem Verdict.of_current {p' : Parser α} (h : Verdict p' P V c)
    (heq : ∀ other : Cursor, other.current = c.current → p other = p' other) :
    Verdict p P V c := by
  cases h with
  | accepts n a hsettles hread hphrase =>
    refine .accepts n a (fun other hagrees => ?_) hread hphrase
    rw [heq other hagrees.current]
    exact hsettles other hagrees
  | rejects n e hsettles hread hfault =>
    refine .rejects n e (fun other hagrees => ?_) hread hfault
    rw [heq other hagrees.current]
    exact hsettles other hagrees

theorem Verdict.current {f : Token → Parser β} (h : Verdict (f c.current) Q W c) :
    Verdict (Parser.current >>= f) Q W c :=
  h.of_current fun other hother => by rw [current_then, hother]

/-- A result made of another one. -/
theorem Verdict.map {f : α → β} (hp : Verdict p P V c) (hphrase : ∀ u a, P u a → Q u (f a))
    (hviable : ∀ u a, V u a → W u (f a)) : Verdict (p >>= fun a => Pure.pure (f a)) Q W c := by
  refine hp.bind (fun u a ha => ⟨[], f a, ?_⟩) fun n a ha => .pure ?_
  · rw [List.append_nil]
    exact hviable u a ha
  · rw [List.append_nil]
    exact hphrase _ a ha

/-- A fault at the current token. -/
theorem Verdict.fail (fault : ParseFault) (h : Begins V []) :
    Verdict (Parser.fail c.current fault) P V c := by
  refine .rejects 0 ⟨c.current.pos, fault⟩ (fun _ _ => rfl) (List.forall_mem_nil _) (.inr ?_)
  rw [Cursor.ahead_zero]
  exact ⟨rfl, h⟩

namespace Judges

theorem bind (hp : Judges p P P)
    (hq : ∀ u a, P u a → Judges (q a) (fun v => Q (u ++ v)) (fun v => W (u ++ v))) :
    Judges (p >>= q) Q W := by
  have hviable : ∀ u a, P u a → Begins W u := by
    intro u a ha
    have hnext := (begins_shift _ _).mp (hq u a ha).possible
    rwa [List.append_nil] at hnext
  exact ⟨hp.possible.trans hviable,
    fun c => (hp.verdict c).bind hviable fun n a ha => (hq _ a ha).verdict _⟩

theorem pure {a : α} (h : P [] a) : Judges (Pure.pure a) P P :=
  ⟨⟨[], a, h⟩, fun _ => .pure h⟩

theorem map {f : α → β} (hp : Judges p P V) (hphrase : ∀ u a, P u a → Q u (f a))
    (hviable : ∀ u a, V u a → W u (f a)) : Judges (p >>= fun a => Pure.pure (f a)) Q W := by
  refine ⟨?_, fun c => (hp.verdict c).map hphrase hviable⟩
  obtain ⟨more, a, ha⟩ := hp.possible
  exact ⟨more, f a, hviable _ a ha⟩

/-- A result made of another one, where every phrase is viable. -/
theorem image {f : α → β} (hp : Judges p P P) (hphrase : ∀ u a, P u a → Q u (f a)) :
    Judges (p >>= fun a => Pure.pure (f a)) Q Q :=
  hp.map hphrase hphrase

theorem mono {P' V' : List Token → α → Prop} (hp : Judges p P V) (hphrase : ∀ u a, P u a → P' u a)
    (hviable : ∀ u a, V u a → V' u a) : Judges p P' V' := by
  refine ⟨hp.possible.mono hviable, fun c => ?_⟩
  cases hp.verdict c with
  | accepts n a hsettles hread ha => exact .accepts n a hsettles hread (hphrase _ a ha)
  | rejects n e hsettles hread hfault =>
    exact .rejects n e hsettles hread (hfault.imp_right fun hat => ⟨hat.1, hat.2.mono hviable⟩)

end Judges

/-! ### Tokens -/

/-- What a parser of one token makes of the current one. -/
def Classifies (p : Parser α) (classify : Token → Except ParseFault α) : Prop :=
  ∀ c, p c = match classify c.current with
    | .ok a => .ok (a, c.advance)
    | .error fault => .error ⟨c.current.pos, fault⟩

/-- A token of the class is read, another one is rejected. -/
theorem Classifies.judges {classify : Token → Except ParseFault α} (h : Classifies p classify)
    (hne : ∀ t a, classify t = .ok a → t.text ≠ "") (hsome : ∃ t a, classify t = .ok a) :
    Judges p (fun u a => ∃ t, u = [t] ∧ classify t = .ok a)
      (fun u a => ∃ t, u = [t] ∧ classify t = .ok a) := by
  have hpossible : Begins (fun u a => ∃ t, u = [t] ∧ classify t = .ok a) [] := by
    obtain ⟨t, a, ha⟩ := hsome
    exact ⟨[t], a, t, rfl, ha⟩
  refine ⟨hpossible, fun c => ?_⟩
  cases hc : classify c.current with
  | ok a =>
    refine .accepts 1 a (fun other hagrees => ?_) ?_ ⟨c.current, c.taken_one, hc⟩
    · simp only [h other, hagrees.current, hc, ← Cursor.skip_one]
      rfl
    · rw [Cursor.taken_one, List.forall_mem_singleton]
      exact hne _ a hc
  | error fault =>
    refine .rejects 0 ⟨c.current.pos, fault⟩ (fun other hagrees => ?_) (List.forall_mem_nil _)
      (.inr ⟨by rw [Cursor.ahead_zero], hpossible⟩)
    simp only [h other, hagrees.current, hc]
    rfl

/-- The class of the tokens that the parser looks for. -/
def classOf (what : Expectation) (t : Token) : Except ParseFault Token :=
  if what.accepts t.text && !t.isEnd then .ok t else .error (.expected what t.text)

theorem classOf_eq_ok_iff {what : Expectation} {t t' : Token} :
    classOf what t = .ok t' ↔ t = t' ∧ what.accepts t.text = true ∧ t.text ≠ "" := by
  unfold classOf
  rw [← isEnd_eq_false_iff]
  split
  · rename_i h
    rw [Bool.and_eq_true, Bool.not_eq_true'] at h
    simp [h]
  · rename_i h
    rw [Bool.and_eq_true, Bool.not_eq_true'] at h
    simp [h]

theorem judges_expect {what : Expectation} (sample : String)
    (hsample : what.accepts sample = true ∧ sample ≠ "") :
    Judges (expect what) (fun u t => u = [t] ∧ what.accepts t.text = true)
      (fun u t => u = [t] ∧ what.accepts t.text = true) := by
  have hclass : Classifies (expect what) (classOf what) := by
    intro c
    unfold expect classOf
    split <;> rfl
  have hphrase : ∀ u t, (∃ t', u = [t'] ∧ classOf what t' = .ok t) →
      u = [t] ∧ what.accepts t.text = true := by
    rintro u t ⟨t', rfl, h⟩
    obtain ⟨rfl, haccepts, _⟩ := classOf_eq_ok_iff.mp h
    exact ⟨rfl, haccepts⟩
  exact (hclass.judges (fun t t' h => (classOf_eq_ok_iff.mp h).2.2)
    ⟨⟨sample, .start⟩, _, classOf_eq_ok_iff.mpr ⟨rfl, hsample⟩⟩).mono hphrase hphrase

namespace Judges

variable {f : Token → Parser β} {text : String}

theorem expect {what : Expectation} (sample : String)
    (hsample : what.accepts sample = true ∧ sample ≠ "")
    (h : ∀ t, what.accepts t.text = true →
      Judges (f t) (fun v => Q (t :: v)) (fun v => W (t :: v))) :
    Judges (Parser.expect what >>= f) Q W := by
  refine (judges_expect sample hsample).bind ?_
  rintro _ t ⟨rfl, ht⟩
  exact h t ht

theorem identifier (h : ∀ t, IsIdentifier t.text →
    Judges (f t) (fun v => Q (t :: v)) (fun v => W (t :: v))) :
    Judges (Parser.expect .identifier >>= f) Q W :=
  expect "x" (by decide) fun t ht => h t (Grammar.isIdentifier_iff.mp ht)

theorem symbol (hne : text ≠ "") (h : ∀ t, t.text = text →
    Judges (f t) (fun v => Q (t :: v)) (fun v => W (t :: v))) :
    Judges (Parser.expect (.symbol text) >>= f) Q W :=
  expect text ⟨beq_self_eq_true text, hne⟩ fun t ht => h t (beq_iff_eq.mp ht)

end Judges

/-! ### Branches -/

section Branches

variable {text : String} {p q : Parser α}

theorem ifEat_of_eq (h : c.current.text = text) (hne : text ≠ "") :
    (do if ← eat text then p else q) c = p c.advance := by
  have heat : eat text c = .ok (true, c.advance) := by
    simp [eat, eatIf, h, isEnd_eq_false_iff.mpr (h ▸ hne)]
  rw [bind_of_ok heat, if_pos rfl]

theorem Verdict.ifEat (hne : text ≠ "")
    (hp : ∀ t, t.text = text → Verdict p (fun v => P (t :: v)) (fun v => V (t :: v)) c.advance)
    (hq : c.current.text ≠ text → Verdict q P V c) :
    Verdict (do if ← eat text then p else q) P V c := by
  by_cases htext : c.current.text = text
  · have hread : ∀ n, (∀ t ∈ c.advance.taken n, t.text ≠ "") →
        ∀ t ∈ c.taken (1 + n), t.text ≠ "" := by
      intro n hmore
      rw [Cursor.taken_one_add, List.forall_mem_cons]
      exact ⟨htext ▸ hne, hmore⟩
    have hsettles : ∀ n result, Settles p c.advance n result →
        Settles (do if ← eat text then p else q) c (1 + n) result := by
      intro n result h other hagrees
      rw [ifEat_of_eq (hagrees.current ▸ htext) hne, ← Cursor.skip_skip, Cursor.skip_one]
      rw [← Cursor.skip_one] at h
      exact Cursor.skip_one other ▸ h _ hagrees.skip
    cases hp c.current htext with
    | accepts n a h hmore ha =>
      exact .accepts (1 + n) a (hsettles n _ h) (hread n hmore) (c.taken_one_add n ▸ ha)
    | rejects n e h hmore hfault =>
      refine .rejects (1 + n) e (hsettles n _ h) (hread n hmore) (hfault.imp_right fun hat => ?_)
      rw [Cursor.taken_one_add, ← Cursor.ahead_skip, Cursor.skip_one]
      exact ⟨hat.1, (begins_shift [c.current] _).mp hat.2⟩
  · exact (hq htext).of_current fun other hother => ifEat_of_ne (hother ▸ htext)

theorem Judges.ifEat (hne : text ≠ "")
    (hp : ∀ t, t.text = text → Judges p (fun v => P (t :: v)) (fun v => V (t :: v)))
    (hq : Judges q P V) : Judges (do if ← eat text then p else q) P V :=
  ⟨hq.possible, fun _ => .ifEat hne (fun t ht => (hp t ht).verdict _) fun _ => hq.verdict _⟩

end Branches

/-! ### Repetitions -/

/-- Two of the tokens have different texts. -/
def Varied (u : List Token) : Prop :=
  ∃ t ∈ u, ∃ t' ∈ u, t.text ≠ t'.text

/-- A step that goes on leaves fewer tokens. -/
def Progresses (step : Parser (Option α)) : Prop :=
  ∀ c a after, step c = .ok (some a, after) → after.rest.length < c.rest.length

/-- A repetition without a bound: the step is made again as long as it gives something. -/
inductive Unrolls (step : Parser (Option α)) : Cursor → Except ParseError (List α × Cursor) → Prop
  | fault {c : Cursor} {e : ParseError} (h : step c = .error e) : Unrolls step c (.error e)
  | stop {c after : Cursor} (h : step c = .ok (none, after)) : Unrolls step c (.ok ([], after))
  | again {c after : Cursor} {a : α} {result : Except ParseError (List α × Cursor)}
      (h : step c = .ok (some a, after)) (hmore : Unrolls step after result) :
      Unrolls step c (result.map fun more => (a :: more.1, more.2))

/-- What a step reads: an item, or what ends the repetition. -/
def StepPhrase (item : List Token → α → Prop) (stop : List Token → Prop) (u : List Token) :
    Option α → Prop
  | some a => item u a
  | none => stop u

section Repetitions

variable {step : Parser (Option α)} {item : List Token → α → Prop}
  {L M : List Token → List α → Prop}

/-- What a repetition does behind a step. -/
def manyAfter (step : Parser (Option α)) : Option α → Parser (List α)
  | none => Pure.pure []
  | some a => many step >>= fun as => Pure.pure (a :: as)

theorem many_eq_bind (hstep : Progresses step) : many step = step >>= manyAfter step := by
  funext c
  cases hc : step c with
  | error e =>
    rw [bind_of_error hc, many, hc]
  | ok result =>
    obtain ⟨result, after⟩ := result
    rw [bind_of_ok hc, many, hc]
    cases result with
    | none => rfl
    | some a =>
      simp only [hstep c a after hc, if_true]
      cases hmore : many step after with
      | error e => exact (bind_of_error hmore).symm
      | ok more => exact (bind_of_ok (f := fun as => Pure.pure (a :: as)) hmore).symm

/-- A repetition of steps that go on reading ends by itself. -/
theorem unrolls_many (hstep : Progresses step) (c : Cursor) : Unrolls step c (many step c) := by
  fun_induction many step c with
  | case1 c e h => exact .fault h
  | case2 c after h => exact .stop h
  | case3 c a after h hlt e hmore ih =>
    rw [hmore] at ih
    exact .again h ih
  | case4 c a after h hlt as final hmore ih =>
    rw [hmore] at ih
    exact .again h ih
  | case5 c a after h hlt => exact absurd (hstep c a after h) hlt

/-- No cursor behind all tokens reads tokens that differ. -/
theorem Varied.length_skip_lt (h : Varied (c.taken n)) :
    (c.skip n).rest.length < c.rest.length := by
  obtain ⟨t, ht, t', ht', hne⟩ := h
  have hrest : c.rest ≠ [] := by
    intro hnil
    rw [Cursor.eq_last_of_mem_taken hnil ht, Cursor.eq_last_of_mem_taken hnil ht'] at hne
    exact hne rfl
  have hn : n ≠ 0 := by
    rintro rfl
    cases ht
  have hpos := List.length_pos_iff.mpr hrest
  simp only [Cursor.skip, List.length_drop]
  omega

theorem Judges.progresses {V : List Token → Option α → Prop} {stop : List Token → Prop}
    (h : Judges step (StepPhrase item stop) V) (hvaried : ∀ u a, item u a → Varied u) :
    Progresses step := by
  intro c a after hc
  cases h.verdict c with
  | accepts n result hsettles _ hphrase =>
    obtain ⟨rfl, rfl⟩ := Prod.mk.inj (Except.ok.inj (hc.symm.trans hsettles.eq))
    exact (hvaried _ a hphrase).length_skip_lt
  | rejects n e hsettles _ _ => cases hc.symm.trans hsettles.eq

/-- A repetition judges lists of items, if its step judges an item and what may stand behind the
items. -/
theorem Judges.many
    (h : Judges step (StepPhrase item fun u => L u []) (StepPhrase item fun u => M u []))
    (hvaried : ∀ u a, item u a → Varied u)
    (hphrase : ∀ u a v as, item u a → L v as → L (u ++ v) (a :: as))
    (hviable : ∀ u a v as, item u a → M v as → M (u ++ v) (a :: as)) (hpossible : Begins M []) :
    Judges (many step) L M := by
  have hstep := h.progresses hvaried
  have hnext : ∀ u result, StepPhrase item (fun u => M u []) u result → Begins M u := by
    intro u result hu
    cases result with
    | none => exact ⟨[], [], (List.append_nil u).symm ▸ hu⟩
    | some a =>
      obtain ⟨more, as, has⟩ := hpossible
      exact ⟨more, a :: as, hviable u a more as hu has⟩
  refine ⟨hpossible, fun c => ?_⟩
  induction hlength : c.rest.length using Nat.strongRecOn generalizing c with
  | ind length ih =>
    rw [many_eq_bind hstep]
    refine (h.verdict c).bind hnext fun n result hresult => ?_
    cases result with
    | none => exact .pure (List.append_nil _ ▸ hresult)
    | some a =>
      have hshorter : (c.skip n).rest.length < length :=
        hlength ▸ (hvaried _ a hresult).length_skip_lt
      exact (ih _ hshorter _ rfl).map (fun v as => hphrase _ a v as hresult)
        fun v as => hviable _ a v as hresult

end Repetitions

end Parser

end WireSchema.Source
