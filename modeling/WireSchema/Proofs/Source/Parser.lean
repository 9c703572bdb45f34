/-
WireSchema.Proofs.Source.Parser — the parser accepts exactly the grammar.

Each parser recognises its production, by what the parsers that it calls recognise; the condition on
the next token says where an optional part or a repetition would go on. Behind the last declaration
stands the end of the text, so at the top the conditions are gone.

Main statement: `Source.parse_ok_iff_derives`.
-/
import WireSchema.Proofs.Outcome
import WireSchema.Proofs.Source.Recognises

namespace WireSchema.Source

open WireSchema.Grammar (IsInteger IsFloat Marked Separated cons_of_path cons_of_entry cons_of_value
  cons_of_field cons_of_declaration)

namespace Parser

variable {β : Type} {c after : Cursor}

-- A dotted name such as `recognises_path.cases` waits for the proof of `recognises_path`, and the
-- parsers call each other in a long chain; hence `Recognises.cases recognises_path`.

/-! ## Names and values -/

theorem recognises_path : Recognises path Grammar.Path (· ≠ ".") where
  sound := by
    intro c after names h hend
    obtain ⟨first, next, hname, rfl, h₁⟩ := identifier_cases h hend
    obtain ⟨more, last, hmany, h₂⟩ := bind_eq_ok_iff.mp h₁
    cases h₂
    have hitems := many_sound (Marked Grammar.Name ".") ?_ hmany hend
    · obtain ⟨v, stop, rfl, hstar, hstop⟩ := hitems
      rcases ifEat_cases hstop hend with ⟨_, _, _, rfl, h₃⟩ | h₃
      · obtain ⟨_, _, _, _, h₄⟩ := identifier_cases h₃ hend
        cases h₄
      · cases h₃
        exact ⟨first :: v, rfl, .intro (.intro hname) hstar⟩
    · intro c name next h hend
      rcases ifEat_cases h hend with ⟨dot, mid, hdot, rfl, h₃⟩ | h₃
      · obtain ⟨token, last, hname, rfl, h₄⟩ := identifier_cases h₃ hend
        cases h₄
        exact ⟨[dot, token], rfl, .intro hdot (.intro hname)⟩
      · cases h₃
  complete := by
    intro used names after h hfollow
    cases h with
    | intro hfirst hmore =>
      cases hfirst with
      | intro hname =>
        refine (identifier_unread hname).trans (bind_of_ok
          (many_complete (fun _ => True) ?_ ?_ ?_ trivial (ifEat_of_ne hfollow) hmore))
        · intro u name next hitem _
          cases hitem with
          | intro hdot hitem =>
            cases hitem with
            | intro hname => exact (ifEat_unread hdot (by decide)).trans (identifier_unread hname)
        · rintro u name ⟨_, _⟩
          simp
        · exact fun _ _ _ _ => trivial

theorem recognises_dottedPath : Recognises dottedPath
    (fun used name => ∃ names, Grammar.Path used names ∧ Grammar.joined names = name) (· ≠ ".") where
  sound := by
    intro c after name h hend
    obtain ⟨used, names, next, hpath, rfl, h₁⟩ := Recognises.cases recognises_path h hend
    cases h₁
    exact ⟨used, rfl, names, hpath, rfl⟩
  complete := by
    rintro used name after ⟨names, hpath, rfl⟩ hfollow
    exact bind_of_ok (Recognises.complete recognises_path hpath hfollow)

theorem recognises_integer : Recognises integer
    (fun used n => ∃ t, used = [t] ∧ IsInteger t.text ∧ Number.integer? t.text = some n)
    (fun _ => True) where
  sound := by
    intro c after n h hend
    obtain ⟨t, next, ht, h₁⟩ := bind_eq_ok_iff.mp h
    obtain ⟨haccepts, rfl⟩ := expect_cases ht hend
    cases hvalue : Number.integer? t.text with
    | none =>
      simp only [hvalue] at h₁
      cases h₁
    | some value =>
      simp only [hvalue] at h₁
      cases h₁
      exact ⟨[t], rfl, t, rfl, Grammar.isInteger_iff.mp haccepts, hvalue⟩
  complete := by
    rintro used n after ⟨t, rfl, hclass, hvalue⟩ _
    have haccepts : Expectation.accepts .integer t.text = true := Grammar.isInteger_iff.mpr hclass
    refine (bind_of_ok (expect_unread haccepts hclass.ne_empty)).trans ?_
    simp only [hvalue]
    rfl

theorem literalOf_eq_ok_iff {t : Token} {value : Literal} :
    literalOf t = .ok value ↔ Grammar.Literal t value := by
  have hinteger : isInteger t.text = true ↔ IsInteger t.text := Grammar.isInteger_iff
  have hfloat : isNumeral t.text = true ↔ IsFloat t.text := Grammar.isNumeral_iff
  constructor
  · intro h
    unfold literalOf at h
    split at h
    · rename_i hclass
      split at h <;> cases h
      exact .integer (hinteger.mp hclass) ‹_›
    · rename_i hnotInteger
      split at h
      · rename_i hclass
        split at h <;> cases h
        exact .float (mt hinteger.mpr hnotInteger) (hfloat.mp hclass) ‹_›
      · rename_i hnotFloat
        split at h
        · rename_i hquoted
          cases h
          exact .string (mt hfloat.mpr hnotFloat) (Grammar.unquote?_eq_some_iff.mp hquoted)
        · rename_i hnotQuoted
          split at h
          · rename_i htrue
            cases h
            exact .yes (beq_iff_eq.mp htrue)
          · rename_i hnotTrue
            split at h
            · rename_i hfalse
              cases h
              exact .no (beq_iff_eq.mp hfalse)
            · rename_i hnotFalse
              split at h <;> cases h
              rename_i hclass
              refine .ident ⟨mt hfloat.mpr hnotFloat, fun body hbody => ?_⟩
                ⟨mt beq_iff_eq.mpr hnotTrue, mt beq_iff_eq.mpr hnotFalse⟩
                (Grammar.isIdentifier_iff.mp hclass)
              rw [Grammar.unquote?_eq_some_iff.mpr hbody] at hnotQuoted
              cases hnotQuoted
  · have hnumber : ¬ IsFloat t.text → isInteger t.text = false ∧ isNumeral t.text = false := by
      intro helse
      simp only [← Bool.not_eq_true, hinteger, hfloat]
      exact ⟨fun hclass => helse hclass.isFloat, helse⟩
    intro h
    cases h with
    | integer hclass hvalue => simp [literalOf, hinteger.mpr hclass, hvalue]
    | float helse hclass hvalue =>
      rw [← hinteger, Bool.not_eq_true] at helse
      simp [literalOf, helse, hfloat.mpr hclass, hvalue]
    | string helse hclass =>
      simp [literalOf, hnumber helse, Grammar.unquote?_eq_some_iff.mpr hclass]
    | yes htext =>
      simp only [literalOf, htext]
      rfl
    | no htext =>
      simp only [literalOf, htext]
      rfl
    | ident helse hword hclass =>
      have hnone : unquote? t.text = none := by
        rw [Option.eq_none_iff_forall_ne_some]
        exact fun body hbody => helse.2 body (Grammar.unquote?_eq_some_iff.mp hbody)
      simp [literalOf, hnumber helse.1, hnone, hword, Grammar.isIdentifier_iff.mpr hclass]

theorem recognises_literal : Recognises literal
    (fun used value => ∃ t, used = [t] ∧ Grammar.Literal t value) (fun _ => True) where
  sound := by
    intro c after value h hend
    unfold literal at h
    split at h <;> cases h
    rename_i hvalue
    refine ⟨[c.current], Cursor.eq_unread_advance hend ?_, _, rfl, literalOf_eq_ok_iff.mp hvalue⟩
    rw [isEnd_eq_false_iff]
    intro hempty
    rw [literalOf, hempty] at hvalue
    cases hvalue
  complete := by
    rintro used value after ⟨t, rfl, hvalue⟩ _
    unfold literal
    rw [Cursor.current_unread_cons, literalOf_eq_ok_iff.mpr hvalue]
    rfl

/-! ## Metadata -/

theorem recognises_metadataEntry : Recognises metadataEntry Grammar.Entry (· ≠ ":") where
  sound := by
    intro c after entry h hend
    obtain ⟨name, next, hname, rfl, h₁⟩ := identifier_cases h hend
    rcases ifEat_cases h₁ hend with ⟨colon, mid, hcolon, rfl, h₂⟩ | h₂
    · obtain ⟨_, value, last, ⟨t, rfl, hvalue⟩, rfl, h₃⟩ :=
        Recognises.cases recognises_literal h₂ hend
      cases h₃
      exact ⟨[name, colon, t], rfl, .valued hname hcolon hvalue⟩
    · cases h₂
      exact ⟨[name], rfl, .plain hname⟩
  complete := by
    intro used entry after h hfollow
    cases h with
    | plain hname => exact (identifier_unread hname).trans (ifEat_of_ne hfollow)
    | valued hname hcolon hvalue =>
      refine (identifier_unread hname).trans ((ifEat_unread hcolon (by decide)).trans ?_)
      exact bind_of_ok (Recognises.complete recognises_literal ⟨_, rfl, hvalue⟩ trivial)

theorem recognises_metadata : Recognises metadata Grammar.Metadata (· ≠ "(") where
  sound := by
    intro c after entries h hend
    rcases ifEat_cases h hend with ⟨opening, next, hopening, rfl, h₁⟩ | h₁
    · rcases ifEat_cases h₁ hend with ⟨closing, last, hclosing, rfl, h₂⟩ | h₂
      · cases h₂
        exact ⟨[opening, closing], rfl, .empty hopening hclosing⟩
      · obtain ⟨u, first, mid, hfirst, rfl, h₃⟩ := Recognises.cases recognises_metadataEntry h₂ hend
        obtain ⟨more, last, hmany, h₄⟩ := bind_eq_ok_iff.mp h₃
        cases h₄
        have hitems := many_sound (Marked Grammar.Entry ",") ?_ hmany hend
        · obtain ⟨v, stop, rfl, hmore, hstop⟩ := hitems
          rcases ifEat_cases hstop hend with ⟨closing, final, hclosing, rfl, h₅⟩ | h₅
          · cases h₅
            refine ⟨opening :: ((u ++ v) ++ [closing]), ?_,
              .entries hopening (.intro hfirst hmore) hclosing⟩
            simp [Cursor.unread]
          · obtain ⟨_, _, _, rfl, h₆⟩ := symbol_cases h₅ hend
            obtain ⟨_, _, _, _, _, h₇⟩ := Recognises.cases recognises_metadataEntry h₆ hend
            cases h₇
        · intro c entry next h hend
          rcases ifEat_cases h hend with ⟨_, _, _, rfl, h₅⟩ | h₅
          · cases h₅
          · obtain ⟨comma, last, hcomma, rfl, h₆⟩ := symbol_cases h₅ hend
            obtain ⟨u, entry, final, hentry, rfl, h₇⟩ :=
              Recognises.cases recognises_metadataEntry h₆ hend
            cases h₇
            exact ⟨comma :: u, rfl, .intro hcomma hentry⟩
    · cases h₁
      exact ⟨[], rfl, .absent⟩
  complete := by
    intro used entries after h hfollow
    cases h with
    | absent => exact ifEat_of_ne hfollow
    | empty hopening hclosing =>
      exact (ifEat_unread hopening (by decide)).trans (ifEat_unread hclosing (by decide))
    | @entries opening closing body _ hopening hentries hclosing =>
      cases hentries with
      | @intro u v _ _ hfirst hmore =>
        obtain ⟨name, w, rfl, hname⟩ := cons_of_entry hfirst
        have hnext : (after.unread [closing]).current.text ≠ ":" := front_ne hclosing (by decide)
        have hfront : (after.unread (v ++ [closing])).current.text ≠ ":" := by
          rw [Cursor.unread_append]
          exact front_of_marked (P := (· ≠ ":")) hmore (by decide) hnext
        rw [List.append_assoc]
        refine (ifEat_unread hopening (by decide)).trans ((ifEat_of_ne ?_).trans ?_)
        · exact hname.ne (by decide)
        refine (Recognises.unread recognises_metadataEntry hfirst hfront).trans ?_
        rw [Cursor.unread_append]
        refine bind_of_ok (many_complete (fun c => c.current.text ≠ ":") ?_ ?_ ?_ hnext
          (ifEat_unread hclosing (by decide)) hmore)
        · intro u entry next hitem hready
          cases hitem with
          | intro hcomma hentry =>
            refine (ifEat_of_ne (front_ne hcomma (by decide))).trans
              ((symbol_unread hcomma (by decide)).trans ?_)
            exact bind_of_ok (Recognises.complete recognises_metadataEntry hentry hready)
        · rintro u entry ⟨_, _⟩
          simp
        · rintro u entry next ⟨hcomma, _⟩
          exact front_ne hcomma (by decide)

/-! ## Enums and unions -/

theorem recognises_value : Recognises value Grammar.Value (fun text => text ≠ "." ∧ text ≠ "=") where
  sound := by
    intro c after value h hend
    obtain ⟨token, _, htoken, h₁⟩ := bind_eq_ok_iff.mp h
    cases htoken
    obtain ⟨used, name, next, ⟨names, hpath, rfl⟩, rfl, h₂⟩ :=
      Recognises.cases recognises_dottedPath h₁ hend
    obtain ⟨first, tail, rfl, _⟩ := cons_of_path hpath
    rcases ifEat_cases h₂ hend with ⟨equals, mid, hequals, rfl, h₃⟩ | h₃
    · obtain ⟨_, n, last, ⟨number, rfl, hclass, hvalue⟩, rfl, h₄⟩ :=
        Recognises.cases recognises_integer h₃ hend
      cases h₄
      refine ⟨first :: tail ++ [equals, number], ?_, .numbered hpath hequals hclass hvalue⟩
      rw [Cursor.unread_append]
      rfl
    · cases h₃
      exact ⟨first :: tail, rfl, .plain hpath⟩
  complete := by
    intro used value after h hfollow
    cases h with
    | @plain first tail names hpath =>
      refine current_then.trans ((bind_of_ok
        (Recognises.complete recognises_dottedPath ⟨names, hpath, rfl⟩ hfollow.1)).trans ?_)
      exact ifEat_of_ne hfollow.2
    | @numbered first equals number tail names n hpath hequals hnumber hvalue =>
      have hnext : (after.unread [equals, number]).current.text ≠ "." :=
        front_ne hequals (by decide)
      refine current_then.trans
        ((Recognises.unread recognises_dottedPath ⟨names, hpath, rfl⟩ hnext).trans
          ((ifEat_unread hequals (by decide)).trans ?_))
      exact bind_of_ok
        (Recognises.complete recognises_integer ⟨number, rfl, hnumber, hvalue⟩ trivial)

/-- The repetition ends in front of the brace, behind a comma or not. -/
theorem values_unread (tail : List Token) {opening closing : Token} {body : List Token}
    {result : List Value} (hopening : opening.text = "\x7b")
    (hvalues : Separated Grammar.Value "," body result) (hclosing : closing.text = "\x7d")
    (htail : tail = [] ∨ ∃ comma : Token, comma.text = "," ∧ tail = [comma]) :
    values (after.unread (opening :: (body ++ (tail ++ [closing])))) = .ok (result, after) := by
  have hready : (after.unread (tail ++ [closing])).current.text ≠ "." ∧
      (after.unread (tail ++ [closing])).current.text ≠ "=" := by
    rcases htail with rfl | ⟨comma, hcomma, rfl⟩
    · exact ⟨front_ne hclosing (by decide), front_ne hclosing (by decide)⟩
    · exact ⟨front_ne hcomma (by decide), front_ne hcomma (by decide)⟩
  cases hvalues with
  | @intro u v first more hfirst hmore =>
    have hfront : (after.unread (v ++ (tail ++ [closing]))).current.text ≠ "." ∧
        (after.unread (v ++ (tail ++ [closing]))).current.text ≠ "=" := by
      rw [Cursor.unread_append]
      exact front_of_marked (P := fun text => text ≠ "." ∧ text ≠ "=") hmore (by decide) hready
    rw [List.append_assoc]
    refine (symbol_unread hopening (by decide)).trans
      ((Recognises.unread recognises_value hfirst hfront).trans ?_)
    rw [Cursor.unread_append]
    refine (bind_of_ok (many_complete (fun c => c.current.text ≠ "." ∧ c.current.text ≠ "=")
      ?_ ?_ ?_ hready ?_ hmore)).trans (symbol_unread (c := after) (u := []) hclosing (by decide))
    · intro u value next hitem hready
      cases hitem with
      | intro hcomma hvalue =>
        obtain ⟨name, w, rfl, hname⟩ := cons_of_value hvalue
        refine (ifEat_unread hcomma (by decide)).trans (current_then.trans ?_)
        have hbrace : (name.text == "\x7d") = false := beq_false_of_ne (hname.ne (by decide))
        rw [Cursor.current_unread_cons, hbrace]
        exact bind_of_ok (Recognises.complete recognises_value hvalue hready)
    · rintro u value ⟨_, _⟩
      simp
    · rintro u value next ⟨hcomma, _⟩
      exact ⟨front_ne hcomma (by decide), front_ne hcomma (by decide)⟩
    · rcases htail with rfl | ⟨comma, hcomma, rfl⟩
      · exact ifEat_of_ne (front_ne hclosing (by decide))
      · refine (ifEat_unread hcomma (by decide)).trans (current_then.trans ?_)
        exact congrFun (if_pos (beq_iff_eq.mpr hclosing)) _

theorem recognises_values : Recognises values Grammar.Values (fun _ => True) where
  sound := by
    intro c after result h hend
    obtain ⟨opening, next, hopening, rfl, h₁⟩ := symbol_cases h hend
    obtain ⟨u, first, mid, hfirst, rfl, h₂⟩ := Recognises.cases recognises_value h₁ hend
    obtain ⟨more, last, hmany, h₃⟩ := bind_eq_ok_iff.mp h₂
    have hitems := many_sound (Marked Grammar.Value ",") ?_ hmany hend
    · obtain ⟨v, stop, rfl, hmore, hstop⟩ := hitems
      rcases ifEat_cases hstop hend with ⟨comma, final, hcomma, rfl, h₄⟩ | h₄
      · rw [current_then] at h₄
        split at h₄
        · cases h₄
          obtain ⟨closing, end_, hclosing, rfl, h₅⟩ := symbol_cases h₃ hend
          cases h₅
          refine ⟨opening :: ((u ++ v) ++ [comma, closing]), ?_,
            .trailing hopening (.intro hfirst hmore) hcomma hclosing⟩
          simp [Cursor.unread]
        · obtain ⟨_, _, _, _, _, h₅⟩ := Recognises.cases recognises_value h₄ hend
          cases h₅
      · cases h₄
        obtain ⟨closing, end_, hclosing, rfl, h₅⟩ := symbol_cases h₃ hend
        cases h₅
        refine ⟨opening :: ((u ++ v) ++ [closing]), ?_,
          .plain hopening (.intro hfirst hmore) hclosing⟩
        simp [Cursor.unread]
    · intro c value next h hend
      rcases ifEat_cases h hend with ⟨comma, last, hcomma, rfl, h₄⟩ | h₄
      · rw [current_then] at h₄
        split at h₄
        · cases h₄
        · obtain ⟨u, value, final, hvalue, rfl, h₅⟩ := Recognises.cases recognises_value h₄ hend
          cases h₅
          exact ⟨comma :: u, rfl, .intro hcomma hvalue⟩
      · cases h₄
  complete := by
    intro used result after h _
    cases h with
    | plain hopening hvalues hclosing => exact values_unread [] hopening hvalues hclosing (.inl rfl)
    | trailing hopening hvalues hcomma hclosing =>
      exact values_unread [_] hopening hvalues hclosing (.inr ⟨_, hcomma, rfl⟩)

theorem recognises_enum : Recognises enum Grammar.Enum (fun _ => True) where
  sound := by
    intro c after decl h hend
    obtain ⟨name, c₁, hname, rfl, h₁⟩ := identifier_cases h hend
    obtain ⟨colon, c₂, hcolon, rfl, h₂⟩ := symbol_cases h₁ hend
    obtain ⟨underlying, c₃, hunderlying, rfl, h₃⟩ := identifier_cases h₂ hend
    obtain ⟨u, entries, c₄, hmetadata, rfl, h₄⟩ := Recognises.cases recognises_metadata h₃ hend
    obtain ⟨v, values, c₅, hvalues, rfl, h₅⟩ := Recognises.cases recognises_values h₄ hend
    cases h₅
    refine ⟨name :: colon :: underlying :: (u ++ v), ?_,
      .intro hname hcolon hunderlying hmetadata hvalues⟩
    simp [Cursor.unread]
  complete := by
    intro used decl after h _
    cases h with
    | intro hname hcolon hunderlying hmetadata hvalues =>
      refine (identifier_unread hname).trans ((symbol_unread hcolon (by decide)).trans
        ((identifier_unread hunderlying).trans
          ((Recognises.unread recognises_metadata hmetadata ?_).trans
            (bind_of_ok (Recognises.complete recognises_values hvalues trivial)))))
      exact front_of_values (P := (· ≠ "(")) hvalues (by decide)

theorem recognises_union : Recognises union Grammar.Union (fun _ => True) where
  sound := by
    intro c after decl h hend
    obtain ⟨name, c₁, hname, rfl, h₁⟩ := identifier_cases h hend
    obtain ⟨u, entries, c₂, hmetadata, rfl, h₂⟩ := Recognises.cases recognises_metadata h₁ hend
    obtain ⟨v, values, c₃, hvalues, rfl, h₃⟩ := Recognises.cases recognises_values h₂ hend
    cases h₃
    refine ⟨name :: (u ++ v), ?_, .intro hname hmetadata hvalues⟩
    simp [Cursor.unread]
  complete := by
    intro used decl after h _
    cases h with
    | intro hname hmetadata hvalues =>
      refine (identifier_unread hname).trans
        ((Recognises.unread recognises_metadata hmetadata ?_).trans
          (bind_of_ok (Recognises.complete recognises_values hvalues trivial)))
      exact front_of_values (P := (· ≠ "(")) hvalues (by decide)

/-! ## Structs and tables -/

theorem recognises_fieldType : Recognises fieldType Grammar.FieldType (· ≠ ".") where
  sound := by
    intro c after type h hend
    rcases ifEat_cases h hend with ⟨opening, next, hopening, rfl, h₁⟩ | h₁
    · obtain ⟨u, _, c₁, ⟨names, hpath, rfl⟩, rfl, h₂⟩ :=
        Recognises.cases recognises_dottedPath h₁ hend
      obtain ⟨closing, c₂, hclosing, rfl, h₃⟩ := symbol_cases h₂ hend
      cases h₃
      refine ⟨opening :: (u ++ [closing]), ?_, .array hopening hpath hclosing⟩
      simp [Cursor.unread]
    · obtain ⟨u, _, c₁, ⟨names, hpath, rfl⟩, rfl, h₂⟩ :=
        Recognises.cases recognises_dottedPath h₁ hend
      cases h₂
      exact ⟨u, rfl, .plain hpath⟩
  complete := by
    intro used type after h hfollow
    cases h with
    | plain hpath =>
      obtain ⟨t, w, rfl, hname⟩ := cons_of_path hpath
      refine (ifEat_of_ne ?_).trans ?_
      · exact hname.ne (by decide)
      · exact bind_of_ok (Recognises.complete recognises_dottedPath ⟨_, hpath, rfl⟩ hfollow)
    | @array opening closing path names hopening hpath hclosing =>
      have hnext : (after.unread [closing]).current.text ≠ "." := front_ne hclosing (by decide)
      exact (ifEat_unread hopening (by decide)).trans
        ((Recognises.unread recognises_dottedPath ⟨_, hpath, rfl⟩ hnext).trans
          (symbol_unread hclosing (by decide)))

theorem recognises_fieldDefault : Recognises fieldDefault Grammar.Default (· ≠ "=") where
  sound := by
    intro c after default h hend
    rcases ifEat_cases h hend with ⟨equals, next, hequals, rfl, h₁⟩ | h₁
    · obtain ⟨_, value, c₁, ⟨t, rfl, hvalue⟩, rfl, h₂⟩ :=
        Recognises.cases recognises_literal h₁ hend
      cases h₂
      exact ⟨[equals, t], rfl, .given hequals hvalue⟩
    · cases h₁
      exact ⟨[], rfl, .absent⟩
  complete := by
    intro used default after h hfollow
    cases h with
    | absent => exact ifEat_of_ne hfollow
    | given hequals hvalue =>
      refine (ifEat_unread hequals (by decide)).trans ?_
      exact bind_of_ok (Recognises.complete recognises_literal ⟨_, rfl, hvalue⟩ trivial)

theorem recognises_field : Recognises field Grammar.Field (fun _ => True) where
  sound := by
    intro c after f h hend
    obtain ⟨name, c₁, hname, rfl, h₁⟩ := identifier_cases h hend
    obtain ⟨colon, c₂, hcolon, rfl, h₂⟩ := symbol_cases h₁ hend
    obtain ⟨u, ⟨typeName, isArray⟩, c₃, htype, rfl, h₃⟩ :=
      Recognises.cases recognises_fieldType h₂ hend
    obtain ⟨v, default, c₄, hdefault, rfl, h₄⟩ := Recognises.cases recognises_fieldDefault h₃ hend
    obtain ⟨w, entries, c₅, hmetadata, rfl, h₅⟩ := Recognises.cases recognises_metadata h₄ hend
    obtain ⟨semicolon, c₆, hsemicolon, rfl, h₆⟩ := symbol_cases h₅ hend
    cases h₆
    refine ⟨name :: colon :: (u ++ (v ++ (w ++ [semicolon]))), ?_,
      .intro hname hcolon htype hdefault hmetadata hsemicolon⟩
    simp [Cursor.unread]
  complete := by
    intro used f after h _
    cases h with
    | @intro name colon semicolon u v w typeName isArray default entries hname hcolon htype
        hdefault hmetadata hsemicolon =>
      have hfrontDefault : (after.unread (w ++ [semicolon])).current.text ≠ "=" := by
        rw [Cursor.unread_append]
        exact front_of_metadata (P := (· ≠ "=")) hmetadata (by decide)
          (front_ne hsemicolon (by decide))
      have hfrontType : (after.unread (v ++ (w ++ [semicolon]))).current.text ≠ "." := by
        rw [Cursor.unread_append, Cursor.unread_append]
        exact front_of_default (P := (· ≠ ".")) hdefault (by decide)
          (front_of_metadata (P := (· ≠ ".")) hmetadata (by decide)
            (front_ne hsemicolon (by decide)))
      refine (identifier_unread hname).trans ((symbol_unread hcolon (by decide)).trans
        ((Recognises.unread recognises_fieldType htype hfrontType).trans
          ((Recognises.unread recognises_fieldDefault hdefault hfrontDefault).trans
            ((Recognises.unread recognises_metadata hmetadata ?_).trans
              (symbol_unread hsemicolon (by decide))))))
      exact front_ne hsemicolon (by decide)

theorem recognises_compound : Recognises compound Grammar.Compound (fun _ => True) where
  sound := by
    intro c after decl h hend
    obtain ⟨name, c₁, hname, rfl, h₁⟩ := identifier_cases h hend
    obtain ⟨u, entries, c₂, hmetadata, rfl, h₂⟩ := Recognises.cases recognises_metadata h₁ hend
    obtain ⟨opening, c₃, hopening, rfl, h₃⟩ := symbol_cases h₂ hend
    obtain ⟨fields, last, hmany, h₄⟩ := bind_eq_ok_iff.mp h₃
    cases h₄
    have hitems := many_sound Grammar.Field ?_ hmany hend
    · obtain ⟨v, stop, rfl, hfields, hstop⟩ := hitems
      rcases ifEat_cases hstop hend with ⟨closing, final, hclosing, rfl, h₅⟩ | h₅
      · cases h₅
        refine ⟨name :: (u ++ opening :: (v ++ [closing])), ?_,
          .intro hname hmetadata hopening hfields hclosing⟩
        simp [Cursor.unread]
      · rw [current_then] at h₅
        split at h₅
        · cases h₅
        · obtain ⟨_, _, _, _, _, h₆⟩ := Recognises.cases recognises_field h₅ hend
          cases h₆
    · intro c f next h hend
      rcases ifEat_cases h hend with ⟨_, _, _, rfl, h₅⟩ | h₅
      · cases h₅
      · rw [current_then] at h₅
        split at h₅
        · cases h₅
        · obtain ⟨u, f, final, hf, rfl, h₆⟩ := Recognises.cases recognises_field h₅ hend
          cases h₆
          exact ⟨u, rfl, hf⟩
  complete := by
    intro used decl after h _
    cases h with
    | @intro name opening closing u v entries fields hname hmetadata hopening hfields hclosing =>
      refine (identifier_unread hname).trans ((Recognises.unread recognises_metadata hmetadata
        (front_ne hopening (by decide))).trans ((symbol_unread hopening (by decide)).trans ?_))
      rw [Cursor.unread_append]
      refine bind_of_ok (many_complete (fun _ => True) ?_ ?_ ?_ trivial
        (ifEat_unread hclosing (by decide)) hfields)
      · intro u f next hf _
        obtain ⟨t, w, rfl, hname⟩ := cons_of_field hf
        refine (ifEat_of_ne ?_).trans (current_then.trans ?_)
        · exact hname.ne (by decide)
        · rw [Cursor.current_unread_cons, isEnd_eq_false_iff.mpr hname.ne_empty]
          exact bind_of_ok (Recognises.complete recognises_field hf trivial)
      · intro u f hf
        obtain ⟨t, w, rfl, _⟩ := cons_of_field hf
        simp
      · exact fun _ _ _ _ => trivial

theorem recognises_struct : Recognises struct
    (fun used decl => Grammar.Compound used decl ∧ decl.fields ≠ []) (fun _ => True) where
  sound := by
    intro c after decl h hend
    obtain ⟨u, decl, next, hdecl, rfl, h₁⟩ := Recognises.cases recognises_compound h hend
    split at h₁
    · cases h₁
    · rename_i hfields
      cases h₁
      exact ⟨u, rfl, hdecl, by simpa using hfields⟩
  complete := by
    rintro used decl after ⟨hdecl, hfields⟩ _
    refine (bind_of_ok (Recognises.complete recognises_compound hdecl trivial)).trans ?_
    rw [List.isEmpty_eq_false_iff.mpr hfields]
    rfl

/-! ## Declarations -/

theorem recognises_stringLine : Recognises stringLine Grammar.StringLine (fun _ => True) where
  sound := by
    intro c after body h hend
    obtain ⟨t, next, ht, h₁⟩ := bind_eq_ok_iff.mp h
    obtain ⟨haccepts, rfl⟩ := expect_cases ht hend
    obtain ⟨semicolon, last, hsemicolon, rfl, h₂⟩ := symbol_cases h₁ hend
    cases h₂
    obtain ⟨body, hbody⟩ := Option.isSome_iff_exists.mp haccepts
    rw [hbody]
    exact ⟨[t, semicolon], rfl, .intro (Grammar.unquote?_eq_some_iff.mp hbody) hsemicolon⟩
  complete := by
    intro used body after h _
    cases h with
    | @intro t semicolon _ hvalue hsemicolon =>
      have hbody := Grammar.unquote?_eq_some_iff.mpr hvalue
      have haccepts : Expectation.accepts .string t.text = true := by
        simp [Expectation.accepts, isString, hbody]
      refine (bind_of_ok (expect_unread haccepts hvalue.ne_empty)).trans
        ((symbol_unread hsemicolon (by decide)).trans ?_)
      rw [hbody]
      rfl

theorem attribute_cases {f : Token → Parser β} {b : β}
    (h : (expect .identifierOrString >>= f) c = .ok (b, after)) (hend : c.last.isEnd = true) :
    ∃ t next, Grammar.AttributeName t ((unquote? t.text).getD t.text) ∧ c = next.unread [t] ∧
      f t next = .ok (b, after) := by
  obtain ⟨t, next, ht, hf⟩ := bind_eq_ok_iff.mp h
  obtain ⟨haccepts, hc⟩ := expect_cases ht hend
  refine ⟨t, next, ?_, hc, hf⟩
  cases hquoted : unquote? t.text with
  | some body => exact .inl (Grammar.unquote?_eq_some_iff.mp hquoted)
  | none =>
    simp only [Expectation.accepts, isString, hquoted, Option.isSome_none, Bool.false_or] at haccepts
    exact .inr ⟨Grammar.isIdentifier_iff.mp haccepts, rfl⟩

theorem attribute_unread {f : Token → Parser β} {t : Token} {u : List Token} {name : String}
    (h : Grammar.AttributeName t name) :
    (expect .identifierOrString >>= f) (c.unread (t :: u)) = f t (c.unread u) ∧
      (unquote? t.text).getD t.text = name := by
  rcases h with hquoted | ⟨hname, rfl⟩
  · have hbody := Grammar.unquote?_eq_some_iff.mpr hquoted
    have haccepts : Expectation.accepts .identifierOrString t.text = true := by
      simp [Expectation.accepts, isString, hbody]
    exact ⟨bind_of_ok (expect_unread haccepts hquoted.ne_empty), by rw [hbody]; rfl⟩
  · have haccepts : Expectation.accepts .identifierOrString t.text = true := by
      simp [Expectation.accepts, Grammar.isIdentifier_iff.mpr hname]
    have hnone : unquote? t.text = none := by
      rw [Option.eq_none_iff_forall_ne_some]
      exact fun body hbody => hname.not_isQuoted (Grammar.unquote?_eq_some_iff.mp hbody)
    exact ⟨bind_of_ok (expect_unread haccepts hname.ne_empty), by rw [hnone]; rfl⟩

theorem recognises_declaration : Recognises declaration Grammar.Declaration (fun _ => True) where
  sound := by
    intro c after d h hend
    rcases ifEat_cases h hend with ⟨keyword, next, hkeyword, rfl, h₁⟩ | h
    · obtain ⟨u, path, last, hline, rfl, h₂⟩ := Recognises.cases recognises_stringLine h₁ hend
      cases h₂
      exact ⟨keyword :: u, rfl, .includeFile hkeyword hline⟩
    rcases ifEat_cases h hend with ⟨keyword, next, hkeyword, rfl, h₁⟩ | h
    · obtain ⟨u, names, mid, hpath, rfl, h₂⟩ := Recognises.cases recognises_path h₁ hend
      obtain ⟨semicolon, last, hsemicolon, rfl, h₃⟩ := symbol_cases h₂ hend
      cases h₃
      refine ⟨keyword :: (u ++ [semicolon]), ?_, .inNamespace hkeyword hpath hsemicolon⟩
      simp [Cursor.unread]
    rcases ifEat_cases h hend with ⟨keyword, next, hkeyword, rfl, h₁⟩ | h
    · obtain ⟨t, mid, hname, rfl, h₂⟩ := attribute_cases h₁ hend
      obtain ⟨semicolon, last, hsemicolon, rfl, h₃⟩ := symbol_cases h₂ hend
      cases h₃
      exact ⟨[keyword, t, semicolon], rfl, .attributeName hkeyword hname hsemicolon⟩
    rcases ifEat_cases h hend with ⟨keyword, next, hkeyword, rfl, h₁⟩ | h
    · obtain ⟨u, _, mid, ⟨names, hpath, rfl⟩, rfl, h₂⟩ :=
        Recognises.cases recognises_dottedPath h₁ hend
      obtain ⟨semicolon, last, hsemicolon, rfl, h₃⟩ := symbol_cases h₂ hend
      cases h₃
      refine ⟨keyword :: (u ++ [semicolon]), ?_, .rootType hkeyword hpath hsemicolon⟩
      simp [Cursor.unread]
    rcases ifEat_cases h hend with ⟨keyword, next, hkeyword, rfl, h₁⟩ | h
    · obtain ⟨u, extension, last, hline, rfl, h₂⟩ := Recognises.cases recognises_stringLine h₁ hend
      cases h₂
      exact ⟨keyword :: u, rfl, .fileExtension hkeyword hline⟩
    rcases ifEat_cases h hend with ⟨keyword, next, hkeyword, rfl, h₁⟩ | h
    · obtain ⟨u, identifier, last, hline, rfl, h₂⟩ := Recognises.cases recognises_stringLine h₁ hend
      cases h₂
      exact ⟨keyword :: u, rfl, .fileIdentifier hkeyword hline⟩
    rcases ifEat_cases h hend with ⟨keyword, next, hkeyword, rfl, h₁⟩ | h
    · obtain ⟨u, decl, last, hdecl, rfl, h₂⟩ := Recognises.cases recognises_enum h₁ hend
      cases h₂
      exact ⟨keyword :: u, rfl, .enum hkeyword hdecl⟩
    rcases ifEat_cases h hend with ⟨keyword, next, hkeyword, rfl, h₁⟩ | h
    · obtain ⟨u, decl, last, hdecl, rfl, h₂⟩ := Recognises.cases recognises_union h₁ hend
      cases h₂
      exact ⟨keyword :: u, rfl, .union hkeyword hdecl⟩
    rcases ifEat_cases h hend with ⟨keyword, next, hkeyword, rfl, h₁⟩ | h
    · obtain ⟨u, decl, last, ⟨hdecl, hfields⟩, rfl, h₂⟩ :=
        Recognises.cases recognises_struct h₁ hend
      cases h₂
      exact ⟨keyword :: u, rfl, .struct hkeyword hdecl hfields⟩
    rcases ifEat_cases h hend with ⟨keyword, next, hkeyword, rfl, h₁⟩ | h
    · obtain ⟨u, decl, last, hdecl, rfl, h₂⟩ := Recognises.cases recognises_compound h₁ hend
      cases h₂
      exact ⟨keyword :: u, rfl, .table hkeyword hdecl⟩
    · cases h
  complete := by
    intro used d after h _
    rw [declaration]
    cases h with
    | includeFile hkeyword hline =>
      refine (ifEat_unread hkeyword (by decide)).trans ?_
      exact bind_of_ok (Recognises.complete recognises_stringLine hline trivial)
    | @inNamespace keyword semicolon _ _ hkeyword hpath hsemicolon =>
      iterate 1 refine (ifEat_of_ne (front_ne hkeyword (by decide))).trans ?_
      exact (ifEat_unread hkeyword (by decide)).trans
        ((Recognises.unread recognises_path hpath (front_ne hsemicolon (by decide))).trans
          (symbol_unread hsemicolon (by decide)))
    | attributeName hkeyword hname hsemicolon =>
      obtain ⟨hread, rfl⟩ := attribute_unread hname
      iterate 2 refine (ifEat_of_ne (front_ne hkeyword (by decide))).trans ?_
      refine (ifEat_unread hkeyword (by decide)).trans (hread.trans ?_)
      exact symbol_unread hsemicolon (by decide)
    | rootType hkeyword hpath hsemicolon =>
      iterate 3 refine (ifEat_of_ne (front_ne hkeyword (by decide))).trans ?_
      exact (ifEat_unread hkeyword (by decide)).trans
        ((Recognises.unread recognises_dottedPath ⟨_, hpath, rfl⟩
          (front_ne hsemicolon (by decide))).trans (symbol_unread hsemicolon (by decide)))
    | fileExtension hkeyword hline =>
      iterate 4 refine (ifEat_of_ne (front_ne hkeyword (by decide))).trans ?_
      refine (ifEat_unread hkeyword (by decide)).trans ?_
      exact bind_of_ok (Recognises.complete recognises_stringLine hline trivial)
    | fileIdentifier hkeyword hline =>
      iterate 5 refine (ifEat_of_ne (front_ne hkeyword (by decide))).trans ?_
      refine (ifEat_unread hkeyword (by decide)).trans ?_
      exact bind_of_ok (Recognises.complete recognises_stringLine hline trivial)
    | enum hkeyword hdecl =>
      iterate 6 refine (ifEat_of_ne (front_ne hkeyword (by decide))).trans ?_
      refine (ifEat_unread hkeyword (by decide)).trans ?_
      exact bind_of_ok (Recognises.complete recognises_enum hdecl trivial)
    | union hkeyword hdecl =>
      iterate 7 refine (ifEat_of_ne (front_ne hkeyword (by decide))).trans ?_
      refine (ifEat_unread hkeyword (by decide)).trans ?_
      exact bind_of_ok (Recognises.complete recognises_union hdecl trivial)
    | struct hkeyword hdecl hfields =>
      iterate 8 refine (ifEat_of_ne (front_ne hkeyword (by decide))).trans ?_
      refine (ifEat_unread hkeyword (by decide)).trans ?_
      exact bind_of_ok (Recognises.complete recognises_struct ⟨hdecl, hfields⟩ trivial)
    | table hkeyword hdecl =>
      iterate 9 refine (ifEat_of_ne (front_ne hkeyword (by decide))).trans ?_
      refine (ifEat_unread hkeyword (by decide)).trans ?_
      exact bind_of_ok (Recognises.complete recognises_compound hdecl trivial)

/-! ## Schemas -/

theorem schema_sound {schema : Schema} (h : Parser.schema c = .ok (schema, after))
    (hend : c.last.isEnd = true) :
    ∃ used, c = after.unread used ∧ Grammar.Schema used schema ∧ after.current.isEnd = true := by
  have hitems := many_sound Grammar.Declaration ?_ h hend
  · obtain ⟨v, stop, rfl, hschema, hstop⟩ := hitems
    rw [current_then] at hstop
    split at hstop
    · rename_i hlast
      cases hstop
      exact ⟨v, rfl, hschema, hlast⟩
    · obtain ⟨_, _, _, _, _, h₁⟩ := Recognises.cases recognises_declaration hstop hend
      cases h₁
  · intro c d next h hend
    rw [current_then] at h
    split at h
    · cases h
    · obtain ⟨u, d, last, hd, rfl, h₁⟩ := Recognises.cases recognises_declaration h hend
      cases h₁
      exact ⟨u, rfl, hd⟩

theorem schema_complete {used : List Token} {schema : Schema} (h : Grammar.Schema used schema)
    (hend : after.current.isEnd = true) :
    Parser.schema (after.unread used) = .ok (schema, after) := by
  refine many_complete (fun _ => True) ?_ ?_ ?_ trivial ?_ h
  · intro u d next hd _
    obtain ⟨t, w, rfl, ht⟩ := cons_of_declaration hd
    refine current_then.trans ?_
    rw [Cursor.current_unread_cons, isEnd_eq_false_iff.mpr ht]
    exact bind_of_ok (Recognises.complete recognises_declaration hd trivial)
  · intro u d hd
    obtain ⟨t, w, rfl, _⟩ := cons_of_declaration hd
    simp
  · exact fun _ _ _ _ => trivial
  · refine current_then.trans ?_
    rw [hend]
    rfl

end Parser

/-- A schema that stops at the end of the text has used all tokens in front of it. -/
theorem eq_of_stops_at_end {tokens used rest : List Token} {last : Token} {schema : Schema}
    (htokens : ∀ t ∈ tokens, t.text ≠ "") (hlast : last.text = "")
    (hschema : Grammar.Schema used schema) (h : tokens ++ [last] = used ++ rest)
    (hrest : (rest.headD last).text = "") : used = tokens := by
  cases rest with
  | nil =>
    -- the end itself would be the last token of a phrase
    rw [List.append_nil] at h
    rcases Grammar.ends_of_schema hschema with hnil | ⟨front, t, hused, ht⟩
    · rw [hnil] at h
      simp at h
    · rw [hused] at h
      obtain ⟨_, ht'⟩ := List.append_inj' h rfl
      cases ht'
      exact absurd hlast ht
  | cons t rest =>
    rcases List.append_eq_append_iff.mp h with ⟨extra, hused, htail⟩ | ⟨extra, htokens', htail⟩
    · cases extra with
      | nil => rw [hused, List.append_nil]
      | cons _ _ => simp at htail
    · cases extra with
      | nil => rw [htokens', List.append_nil]
      | cons t' _ =>
        obtain ⟨rfl, _⟩ := List.cons.inj htail
        exact absurd hrest (htokens t (by simp [htokens']))

theorem parse_eq_ok_iff {tokens : List Token} {last : Token} (htokens : ∀ t ∈ tokens, t.text ≠ "")
    (hlast : last.text = "") {schema : Schema} :
    parse (tokens ++ [last]) = .ok schema ↔ Grammar.Schema tokens schema := by
  have hend : last.isEnd = true := by rw [Token.isEnd, hlast]; rfl
  have hstart : Cursor.ofTokens (tokens ++ [last]) = Cursor.unread ⟨[last], last⟩ tokens := by
    simp [Cursor.ofTokens, Cursor.unread]
  rw [parse, hstart]
  constructor
  · intro h
    cases hparse : Parser.schema (Cursor.unread ⟨[last], last⟩ tokens) with
    | error e => rw [hparse] at h; cases h
    | ok result =>
      obtain ⟨schema', after⟩ := result
      rw [hparse] at h
      cases h
      obtain ⟨used, hused, hschema, hafter⟩ := Parser.schema_sound hparse hend
      obtain ⟨hrest, hlast'⟩ := Cursor.mk.inj hused
      have hlast'' : last = after.last := hlast'
      have hstop : (after.rest.headD last).text = "" := by
        rw [hlast'']
        exact String.isEmpty_iff.mp hafter
      rw [← eq_of_stops_at_end htokens hlast hschema hrest hstop]
      exact hschema
  · intro h
    have hstop : (Cursor.current ⟨[last], last⟩).isEnd = true := hend
    rw [Parser.schema_complete h hstop]
    rfl

/-- **Grammar.** In front of an end token, the parser gives a schema exactly when the grammar derives it,
and the grammar derives one at most. -/
theorem parse_ok_iff_derives {tokens : List Token} {last : Token}
    (htokens : ∀ t ∈ tokens, t.text ≠ "") (hlast : last.text = "") :
    (∀ schema, parse (tokens ++ [last]) = .ok schema ↔ Grammar.Schema tokens schema) ∧
    ∀ schema other, Grammar.Schema tokens schema → Grammar.Schema tokens other → schema = other := by
  refine ⟨fun schema => parse_eq_ok_iff htokens hlast, fun schema other h h' => ?_⟩
  have hparse := (parse_eq_ok_iff htokens hlast).mpr h
  exact Except.ok.inj (hparse.symm.trans ((parse_eq_ok_iff htokens hlast).mpr h'))

/-- An enum with empty metadata and a comma at the end of its values, and an include behind it. -/
def badgeTokens : List Token :=
  [⟨"enum", ⟨1, 1⟩⟩, ⟨"table", ⟨1, 6⟩⟩, ⟨":", ⟨1, 11⟩⟩, ⟨"byte", ⟨1, 13⟩⟩, ⟨"(", ⟨1, 18⟩⟩,
   ⟨")", ⟨1, 19⟩⟩, ⟨"\x7b", ⟨1, 21⟩⟩, ⟨"A", ⟨2, 3⟩⟩, ⟨"=", ⟨2, 5⟩⟩, ⟨"-1", ⟨2, 7⟩⟩, ⟨",", ⟨2, 9⟩⟩,
   ⟨"b", ⟨3, 3⟩⟩, ⟨".", ⟨3, 4⟩⟩, ⟨"C", ⟨3, 5⟩⟩, ⟨",", ⟨3, 6⟩⟩, ⟨"\x7d", ⟨4, 1⟩⟩,
   ⟨"include", ⟨5, 1⟩⟩, ⟨"\"x\"", ⟨5, 9⟩⟩, ⟨";", ⟨5, 12⟩⟩]

theorem derives_badgeTokens :
    (∀ t ∈ badgeTokens, t.text ≠ "") ∧ Grammar.Schema badgeTokens
      [.enum ⟨"table", "byte", [], [⟨"A", some (-1), ⟨2, 3⟩⟩, ⟨"b.C", none, ⟨3, 3⟩⟩], ⟨1, 6⟩⟩,
       .includeFile "x"] := by
  have htokens : ∀ t ∈ badgeTokens, t.text ≠ "" := by decide
  have hparse : (parse (badgeTokens ++ [⟨"", ⟨6, 1⟩⟩])).toOption =
      some [.enum ⟨"table", "byte", [], [⟨"A", some (-1), ⟨2, 3⟩⟩, ⟨"b.C", none, ⟨3, 3⟩⟩], ⟨1, 6⟩⟩,
        .includeFile "x"] := by decide +kernel
  exact ⟨htokens, ((parse_ok_iff_derives htokens rfl).1 _).mp (Outcome.eq_ok_of_toOption hparse)⟩

end WireSchema.Source
