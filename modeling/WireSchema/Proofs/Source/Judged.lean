/-
WireSchema.Proofs.Source.Judged — every parser judges its production.

The proofs follow the parsers step by step: what is read at each step is a phrase so far, and the
shortest thing that may follow completes it. The steps of the five repetitions have names here
(`pathStep`, `metadataStep`, `valuesStep`, `compoundStep`, `schemaStep`).

A struct has a field but a table need not have one, and both have the same body. So the body of
either is completed by a field (`judges_compound`).
-/
import WireSchema.Proofs.Source.Parser
import WireSchema.Proofs.Source.Verdict

namespace WireSchema.Source.Parser

open WireSchema.Grammar (IsIdentifier IsInteger Star Marked Separated cons_of_path cons_of_entry
  cons_of_value cons_of_field)

-- As in the proofs that parsers recognise their productions, `judges_path.bind` would wait for the
-- proof of `judges_path`; hence `Judges.bind judges_path`.

/-! ## Tokens that differ -/

section

variable {α : Type} {item : List Token → α → Prop} {u : List Token} {t t' : Token} {a : α}

theorem varied_of_mem {text : String} (ht : t ∈ u) (htext : t.text = text) (ht' : t' ∈ u)
    (hne : t'.text ≠ text) : Varied u :=
  ⟨t', ht', t, ht, htext ▸ hne⟩

theorem varied_of_marked {mark : String}
    (hfront : ∀ u a, item u a → ∃ t w, u = t :: w ∧ IsIdentifier t.text)
    (hmark : isIdentifier mark = false) (h : Marked item mark u a) : Varied u := by
  cases h with
  | intro htext hitem =>
    obtain ⟨t, w, rfl, ht⟩ := hfront _ _ hitem
    exact varied_of_mem (by simp) htext (by simp) (ht.ne hmark)

theorem varied_of_field {f : Field} (h : Grammar.Field u f) : Varied u := by
  cases h with
  | intro hname hcolon _ _ _ _ =>
    exact varied_of_mem (by simp) hcolon (by simp) (hname.ne (by decide))

theorem exists_brace_of_values {values : List Value} (h : Grammar.Values u values) :
    ∃ t ∈ u, t.text = "\x7d" := by
  cases h with
  | plain _ _ hclosing => exact ⟨_, by simp, hclosing⟩
  | trailing _ _ _ hclosing => exact ⟨_, by simp, hclosing⟩

theorem exists_brace_of_compound {decl : Compound} (h : Grammar.Compound u decl) :
    ∃ t ∈ u, t.text = "\x7d" := by
  cases h with
  | intro _ _ _ _ hclosing => exact ⟨_, by simp, hclosing⟩

theorem exists_semicolon_of_stringLine {text : String} (h : Grammar.StringLine u text) :
    ∃ t ∈ u, t.text = ";" := by
  cases h with
  | intro _ hsemicolon => exact ⟨_, by simp, hsemicolon⟩

/-- A keyword stands at the front of a declaration, and a semicolon or a brace at its end. -/
theorem varied_of_declaration {d : Declaration} (h : Grammar.Declaration u d) : Varied u := by
  have hvaried : ∀ {keyword : Token} {v : List Token} {text mark : String}, keyword.text = text →
      (∃ t ∈ v, t.text = mark) → text ≠ mark → Varied (keyword :: v) := by
    rintro keyword v text mark rfl ⟨t, ht, htext⟩ hne
    exact varied_of_mem (List.mem_cons_of_mem _ ht) htext (List.mem_cons_self ..) hne
  cases h with
  | includeFile hkeyword hline =>
    exact hvaried hkeyword (exists_semicolon_of_stringLine hline) (by decide)
  | inNamespace hkeyword _ hsemicolon => exact hvaried hkeyword ⟨_, by simp, hsemicolon⟩ (by decide)
  | attributeName hkeyword _ hsemicolon =>
    exact hvaried hkeyword ⟨_, by simp, hsemicolon⟩ (by decide)
  | rootType hkeyword _ hsemicolon => exact hvaried hkeyword ⟨_, by simp, hsemicolon⟩ (by decide)
  | fileExtension hkeyword hline =>
    exact hvaried hkeyword (exists_semicolon_of_stringLine hline) (by decide)
  | fileIdentifier hkeyword hline =>
    exact hvaried hkeyword (exists_semicolon_of_stringLine hline) (by decide)
  | enum hkeyword hdecl =>
    cases hdecl with
    | intro _ _ _ _ hvalues =>
      obtain ⟨t, ht, htext⟩ := exists_brace_of_values hvalues
      exact hvaried hkeyword ⟨t, by simp [ht], htext⟩ (by decide)
  | union hkeyword hdecl =>
    cases hdecl with
    | intro _ _ hmembers =>
      obtain ⟨t, ht, htext⟩ := exists_brace_of_values hmembers
      exact hvaried hkeyword ⟨t, by simp [ht], htext⟩ (by decide)
  | struct hkeyword hdecl _ => exact hvaried hkeyword (exists_brace_of_compound hdecl) (by decide)
  | table hkeyword hdecl => exact hvaried hkeyword (exists_brace_of_compound hdecl) (by decide)

end

/-! ## Names and values -/

/-- One more name of a path. -/
def pathStep : Parser (Option String) := do
  if ← eat "." then
    let token ← expect .identifier
    return some token.text
  else return none

theorem path_eq : path = (do
    let first ← expect .identifier
    let more ← many pathStep
    return first.text :: more) := rfl

theorem judges_pathStep : Judges pathStep
    (StepPhrase (Marked Grammar.Name ".") fun u => Star (Marked Grammar.Name ".") u [])
    (StepPhrase (Marked Grammar.Name ".") fun u => Star (Marked Grammar.Name ".") u []) :=
  .ifEat (by decide) (fun _ hdot => .identifier fun _ ht => .pure (.intro hdot (.intro ht)))
    (.pure .nil)

theorem varied_of_pathItem {u : List Token} {name : String} (h : Marked Grammar.Name "." u name) :
    Varied u := by
  refine varied_of_marked (fun u name hname => ?_) (by decide) h
  cases hname with
  | intro ht => exact ⟨_, _, rfl, ht⟩

theorem judges_path : Judges path Grammar.Path Grammar.Path := by
  have hmore : Judges (many pathStep) (Star (Marked Grammar.Name "."))
      (Star (Marked Grammar.Name ".")) :=
    Judges.many judges_pathStep (fun _ _ => varied_of_pathItem) (fun _ _ _ _ => .cons)
      (fun _ _ _ _ => .cons) ⟨[], [], .nil⟩
  rw [path_eq]
  refine .identifier fun first hfirst => ?_
  have hname : Grammar.Name [first] first.text := .intro hfirst
  exact hmore.image fun _ _ => .intro hname

theorem judges_dottedPath : Judges dottedPath
    (fun u name => ∃ names, Grammar.Path u names ∧ Grammar.joined names = name)
    (fun u name => ∃ names, Grammar.Path u names ∧ Grammar.joined names = name) :=
  Judges.image judges_path fun _ names h => ⟨names, h, rfl⟩

/-- The integer of a token. -/
def integerOf (t : Token) : Except ParseFault Int :=
  if isInteger t.text && !t.isEnd then
    match Number.integer? t.text with
    | some value => .ok value
    | none => .error (.invalidInteger t.text)
  else .error (.expected .integer t.text)

theorem isInteger_of_integerOf {t : Token} {n : Int} (h : integerOf t = .ok n) :
    IsInteger t.text ∧ Number.integer? t.text = some n := by
  unfold integerOf at h
  split at h
  · rename_i hclass
    rw [Bool.and_eq_true] at hclass
    split at h <;> cases h
    rename_i hvalue
    exact ⟨Grammar.isInteger_iff.mp hclass.1, hvalue⟩
  · cases h

theorem classifies_integer : Classifies integer integerOf := by
  intro c
  by_cases hclass : (isInteger c.current.text && !c.current.isEnd) = true
  · have hread : expect .integer c = .ok (c.current, c.advance) := if_pos hclass
    rw [integer, bind_of_ok hread, integerOf, if_pos hclass]
    cases Number.integer? c.current.text <;> rfl
  · have hread : expect .integer c = .error ⟨c.current.pos, .expected .integer c.current.text⟩ :=
      if_neg hclass
    rw [integer, bind_of_error hread, integerOf, if_neg hclass]

theorem judges_integer : Judges integer
    (fun u n => ∃ t, u = [t] ∧ IsInteger t.text ∧ Number.integer? t.text = some n)
    (fun u n => ∃ t, u = [t] ∧ IsInteger t.text ∧ Number.integer? t.text = some n) := by
  have hphrase : ∀ u n, (∃ t, u = [t] ∧ integerOf t = .ok n) →
      ∃ t, u = [t] ∧ IsInteger t.text ∧ Number.integer? t.text = some n := by
    rintro u n ⟨t, rfl, h⟩
    exact ⟨t, rfl, isInteger_of_integerOf h⟩
  have hone : integerOf ⟨"1", .start⟩ = .ok 1 := Outcome.eq_ok_of_toOption (by decide +kernel)
  exact (classifies_integer.judges (fun t n h => (isInteger_of_integerOf h).1.ne_empty)
    ⟨_, _, hone⟩).mono hphrase hphrase

theorem literalOf_ne_empty {t : Token} {value : Literal} (h : literalOf t = .ok value) :
    t.text ≠ "" := by
  intro hempty
  rw [literalOf, hempty] at h
  cases h

theorem judges_literal : Judges literal (fun u value => ∃ t, u = [t] ∧ Grammar.Literal t value)
    (fun u value => ∃ t, u = [t] ∧ Grammar.Literal t value) := by
  have hphrase : ∀ u value, (∃ t, u = [t] ∧ literalOf t = .ok value) →
      ∃ t, u = [t] ∧ Grammar.Literal t value := by
    rintro u value ⟨t, rfl, h⟩
    exact ⟨t, rfl, literalOf_eq_ok_iff.mp h⟩
  have hclass : Classifies literal literalOf := by
    intro c
    unfold literal
    cases literalOf c.current <;> rfl
  exact (hclass.judges (fun _ _ => literalOf_ne_empty)
    ⟨⟨"true", .start⟩, _, literalOf_eq_ok_iff.mpr (.yes rfl)⟩).mono hphrase hphrase

/-! ## Metadata -/

/-- Items, and a mark that closes them. -/
inductive Closed {α : Type} (item : List Token → α → Prop) (mark : String) :
    List Token → List α → Prop
  | intro {body : List Token} {closing : Token} {as : List α} (hitems : Star item body as)
      (hclosing : closing.text = mark) : Closed item mark (body ++ [closing]) as

theorem Closed.nil {α : Type} {item : List Token → α → Prop} {mark : String} {closing : Token}
    (h : closing.text = mark) : Closed item mark [closing] [] :=
  .intro .nil h

theorem Closed.cons {α : Type} {item : List Token → α → Prop} {mark : String} {u v : List Token}
    {a : α} {as : List α} (hitem : item u a) (h : Closed item mark v as) :
    Closed item mark (u ++ v) (a :: as) := by
  cases h with
  | intro hitems hclosing =>
    rw [← List.append_assoc]
    exact .intro (.cons hitem hitems) hclosing

/-- One more metadata entry, or the end of the list. -/
def metadataStep : Parser (Option MetadataEntry) := do
  if ← eat ")" then return none
  else
    let _ ← expect (.symbol ",")
    return some (← metadataEntry)

theorem metadata_eq : metadata = (do
    if ← eat "(" then
      if ← eat ")" then return []
      else
        let first ← metadataEntry
        let more ← many metadataStep
        return first :: more
    else return []) := rfl

theorem judges_metadataEntry : Judges metadataEntry Grammar.Entry Grammar.Entry := by
  refine .identifier fun name hname => .ifEat (by decide) (fun colon hcolon => ?_)
    (.pure (.plain hname))
  refine Judges.image judges_literal ?_
  rintro _ value ⟨t, rfl, hvalue⟩
  exact .valued hname hcolon hvalue

theorem varied_of_entryItem {u : List Token} {entry : MetadataEntry}
    (h : Marked Grammar.Entry "," u entry) : Varied u :=
  varied_of_marked (fun _ _ => cons_of_entry) (by decide) h

theorem judges_metadataStep : Judges metadataStep
    (StepPhrase (Marked Grammar.Entry ",") fun u => Closed (Marked Grammar.Entry ",") ")" u [])
    (StepPhrase (Marked Grammar.Entry ",") fun u => Closed (Marked Grammar.Entry ",") ")" u []) :=
  .ifEat (by decide) (fun _ hclosing => .pure (.nil hclosing))
    (.symbol (by decide) fun _ hcomma => Judges.image judges_metadataEntry
      fun _ _ => .intro hcomma)

theorem judges_metadata : Judges metadata Grammar.Metadata Grammar.Metadata := by
  have hmore : Judges (many metadataStep) (Closed (Marked Grammar.Entry ",") ")")
      (Closed (Marked Grammar.Entry ",") ")") :=
    Judges.many judges_metadataStep (fun _ _ => varied_of_entryItem) (fun _ _ _ _ => .cons)
      (fun _ _ _ _ => .cons) ⟨[⟨")", .start⟩], [], .nil rfl⟩
  rw [metadata_eq]
  refine .ifEat (by decide) (fun opening hopening => ?_) (.pure .absent)
  refine .ifEat (by decide) (fun closing hclosing => .pure (.empty hopening hclosing)) ?_
  refine Judges.bind judges_metadataEntry fun u first hfirst => hmore.image ?_
  rintro v more ⟨hitems, hclosing⟩
  rw [← List.append_assoc]
  exact .entries hopening (.intro hfirst hitems) hclosing

/-! ## Enums and unions -/

theorem eq_current_of_taken {c : Cursor} {n : Nat} {t : Token} {w : List Token}
    (h : c.taken n = t :: w) : t = c.current := by
  cases n with
  | zero => cases h
  | succ n =>
    rw [Nat.add_comm, Cursor.taken_one_add] at h
    exact (List.cons.inj h).1.symm

/-- The number of a value, behind its name. -/
theorem judges_valueNumber {first : Token} {tail : List Token} {names : List String}
    (hpath : Grammar.Path (first :: tail) names) : Judges (do
      if ← eat "=" then return (⟨Grammar.joined names, some (← integer), first.pos⟩ : Value)
      else return ⟨Grammar.joined names, none, first.pos⟩)
    (fun v => Grammar.Value (first :: tail ++ v))
    (fun v => Grammar.Value (first :: tail ++ v)) := by
  refine .ifEat (by decide) (fun equals hequals => ?_)
    (.pure (by rw [List.append_nil]; exact .plain hpath))
  refine Judges.image judges_integer ?_
  rintro _ n ⟨t, rfl, hclass, hvalue⟩
  exact .numbered hpath hequals hclass hvalue

theorem judges_value : Judges value Grammar.Value Grammar.Value := by
  have hpossible : Begins Grammar.Value [] := by
    obtain ⟨u, names, hpath⟩ := Judges.possible judges_path
    obtain ⟨first, tail, rfl, _⟩ := cons_of_path hpath
    exact ⟨_, _, .plain hpath⟩
  refine ⟨hpossible, fun c => .current ?_⟩
  -- The place of a value is the place of the first token of its name.
  refine (Judges.verdict judges_dottedPath c).bind ?_ ?_
  · rintro u _ ⟨names, hpath, rfl⟩
    obtain ⟨first, tail, rfl, _⟩ := cons_of_path hpath
    exact ⟨[], _, by rw [List.append_nil]; exact .plain hpath⟩
  · rintro n _ ⟨names, hpath, rfl⟩
    obtain ⟨first, tail, htaken, _⟩ := cons_of_path hpath
    obtain rfl := eq_current_of_taken htaken
    rw [htaken] at hpath ⊢
    exact (judges_valueNumber hpath).verdict _

/-- Members behind commas, and a comma at the end or none. -/
inductive Listed : List Token → List Value → Prop
  | plain {body : List Token} {values : List Value}
      (hvalues : Star (Marked Grammar.Value ",") body values) : Listed body values
  | trailing {body : List Token} {comma : Token} {values : List Value}
      (hvalues : Star (Marked Grammar.Value ",") body values) (hcomma : comma.text = ",") :
      Listed (body ++ [comma]) values

theorem Listed.cons {u v : List Token} {a : Value} {as : List Value}
    (hitem : Marked Grammar.Value "," u a) (h : Listed v as) : Listed (u ++ v) (a :: as) := by
  cases h with
  | plain hvalues => exact .plain (.cons hitem hvalues)
  | trailing hvalues hcomma =>
    rw [← List.append_assoc]
    exact .trailing (.cons hitem hvalues) hcomma

/-- One more value, or the end of the list. -/
def valuesStep : Parser (Option Value) := do
  if ← eat "," then
    let token ← current
    if token.text == "\x7d" then return none
    else return some (← value)
  else return none

theorem values_eq : values = (do
    let _ ← expect (.symbol "\x7b")
    let first ← value
    let more ← many valuesStep
    let _ ← expect (.symbol "\x7d")
    return first :: more) := rfl

theorem varied_of_valueItem {u : List Token} {value : Value}
    (h : Marked Grammar.Value "," u value) : Varied u :=
  varied_of_marked (fun _ _ => cons_of_value) (by decide) h

theorem judges_valuesStep : Judges valuesStep
    (StepPhrase (Marked Grammar.Value ",") fun u => Listed u [])
    (StepPhrase (Marked Grammar.Value ",") fun u => Listed u []) := by
  refine .ifEat (by decide) (fun comma hcomma => ?_) (.pure (.plain .nil))
  have hend : Listed [comma] [] := .trailing .nil hcomma
  refine ⟨⟨[], none, hend⟩, fun c => .current ?_⟩
  split
  · exact .pure hend
  · exact (Judges.verdict judges_value c).map (fun _ _ => .intro hcomma) fun _ _ => .intro hcomma

theorem judges_values : Judges values Grammar.Values Grammar.Values := by
  have hmore : Judges (many valuesStep) Listed Listed :=
    Judges.many judges_valuesStep (fun _ _ => varied_of_valueItem) (fun _ _ _ _ => .cons)
      (fun _ _ _ _ => .cons) ⟨[], [], .plain .nil⟩
  rw [values_eq]
  refine .symbol (by decide) fun opening hopening => ?_
  refine Judges.bind judges_value fun u first hfirst => hmore.bind fun v more hv => ?_
  refine .symbol (by decide) fun closing hclosing => .pure ?_
  cases hv with
  | plain hvalues => simpa using Grammar.Values.plain hopening (.intro hfirst hvalues) hclosing
  | trailing hvalues hcomma =>
    simpa using Grammar.Values.trailing hopening (.intro hfirst hvalues) hcomma hclosing

theorem judges_enum : Judges enum Grammar.Enum Grammar.Enum := by
  refine .identifier fun name hname => .symbol (by decide) fun colon hcolon =>
    .identifier fun underlying hunderlying => ?_
  refine Judges.bind judges_metadata fun u entries hentries => Judges.image judges_values ?_
  intro v values hvalues
  exact .intro hname hcolon hunderlying hentries hvalues

theorem judges_union : Judges union Grammar.Union Grammar.Union := by
  refine .identifier fun name hname => ?_
  refine Judges.bind judges_metadata fun u entries hentries => Judges.image judges_values ?_
  intro v members hmembers
  exact .intro hname hentries hmembers

/-! ## Structs and tables -/

theorem judges_fieldType : Judges fieldType Grammar.FieldType Grammar.FieldType := by
  refine .ifEat (by decide) (fun opening hopening => ?_) ?_
  · refine Judges.bind judges_dottedPath ?_
    rintro u _ ⟨names, hpath, rfl⟩
    exact .symbol (by decide) fun closing hclosing => .pure (.array hopening hpath hclosing)
  · refine Judges.image judges_dottedPath ?_
    rintro u _ ⟨names, hpath, rfl⟩
    exact .plain hpath

theorem judges_fieldDefault : Judges fieldDefault Grammar.Default Grammar.Default := by
  refine .ifEat (by decide) (fun equals hequals => ?_) (.pure .absent)
  refine Judges.image judges_literal ?_
  rintro _ value ⟨t, rfl, hvalue⟩
  exact .given hequals hvalue

theorem judges_field : Judges field Grammar.Field Grammar.Field := by
  refine .identifier fun name hname => .symbol (by decide) fun colon hcolon => ?_
  refine Judges.bind judges_fieldType ?_
  rintro type ⟨typeName, isArray⟩ htype
  refine Judges.bind judges_fieldDefault fun value default hdefault => ?_
  refine Judges.bind judges_metadata fun metadata entries hentries => ?_
  exact .symbol (by decide) fun semicolon hsemicolon =>
    .pure (.intro hname hcolon htype hdefault hentries hsemicolon)

/-- One more field, or the end of the body. -/
def compoundStep : Parser (Option Field) := do
  if ← eat "\x7d" then return none
  else
    let token ← current
    if token.isEnd then fail token (.unexpected token.text)
    else return some (← field)

theorem compound_eq : compound = (do
    let name ← expect .identifier
    let entries ← metadata
    let _ ← expect (.symbol "\x7b")
    let fields ← many compoundStep
    return ⟨name.text, entries, fields, name.pos⟩) := rfl

/-- Fields and a brace behind them, with one field at least. -/
def SomeFields (u : List Token) (fields : List Field) : Prop :=
  Closed Grammar.Field "\x7d" u fields ∧ fields ≠ []

theorem SomeFields.cons {u v : List Token} {f : Field} {fields : List Field}
    (hfield : Grammar.Field u f) (h : SomeFields v fields) : SomeFields (u ++ v) (f :: fields) :=
  ⟨.cons hfield h.1, by simp⟩

theorem begins_someFields : Begins SomeFields [] := by
  obtain ⟨body, f, hfield⟩ := Judges.possible judges_field
  have hbody : Closed Grammar.Field "\x7d" (body ++ [⟨"\x7d", .start⟩]) [f] :=
    .cons hfield (.nil rfl)
  exact ⟨_, [f], hbody, by simp⟩

theorem judges_compoundStep : Judges compoundStep
    (StepPhrase Grammar.Field fun u => Closed Grammar.Field "\x7d" u [])
    (StepPhrase Grammar.Field fun u => SomeFields u []) := by
  obtain ⟨body, f, hfield⟩ := Judges.possible judges_field
  have hpossible : Begins (StepPhrase Grammar.Field fun u => SomeFields u []) [] :=
    ⟨body, some f, hfield⟩
  refine ⟨hpossible, fun c => .ifEat (by decide) (fun closing hclosing => .pure (.nil hclosing)) ?_⟩
  refine fun _ => .current ?_
  split
  · exact .fail _ hpossible
  · exact (Judges.verdict judges_field c).map (fun _ _ h => h) fun _ _ h => h

theorem judges_compound : Judges compound Grammar.Compound
    (fun u decl => Grammar.Compound u decl ∧ decl.fields ≠ []) := by
  have hfields : Judges (many compoundStep) (Closed Grammar.Field "\x7d") SomeFields :=
    Judges.many judges_compoundStep (fun _ _ => varied_of_field) (fun _ _ _ _ => .cons)
      (fun _ _ _ _ => .cons) begins_someFields
  rw [compound_eq]
  refine .identifier fun name hname => Judges.bind judges_metadata fun u entries hentries => ?_
  refine .symbol (by decide) fun opening hopening => hfields.map ?_ ?_
  · rintro v fields ⟨hitems, hclosing⟩
    exact .intro hname hentries hopening hitems hclosing
  · rintro v fields ⟨⟨hitems, hclosing⟩, hne⟩
    exact ⟨.intro hname hentries hopening hitems hclosing, hne⟩

theorem judges_struct : Judges struct (fun u decl => Grammar.Compound u decl ∧ decl.fields ≠ [])
    (fun u decl => Grammar.Compound u decl ∧ decl.fields ≠ []) := by
  refine ⟨Judges.possible judges_compound, fun c => ?_⟩
  refine (Judges.verdict judges_compound c).bind (fun u decl h => ⟨[], decl, ?_⟩) fun n decl h => ?_
  · rw [List.append_nil]
    exact h
  · split
    · exact .rejects 0 _ (fun _ _ => rfl) (List.forall_mem_nil _) (.inl ⟨decl.name, rfl⟩)
    · rename_i hfields
      refine .pure ⟨?_, fun hnil => hfields (List.isEmpty_iff.mpr hnil)⟩
      rw [List.append_nil]
      exact h

/-! ## Declarations -/

theorem judges_stringLine : Judges stringLine Grammar.StringLine Grammar.StringLine := by
  refine .expect "\"\"" (by decide) fun t ht =>
    .symbol (by decide) fun semicolon hsemicolon => .pure ?_
  obtain ⟨body, hbody⟩ := Option.isSome_iff_exists.mp ht
  rw [hbody, Option.getD_some]
  exact .intro (Grammar.unquote?_eq_some_iff.mp hbody) hsemicolon

theorem attributeName_of_accepts {t : Token}
    (h : Expectation.accepts .identifierOrString t.text = true) :
    Grammar.AttributeName t ((unquote? t.text).getD t.text) := by
  cases hbody : unquote? t.text with
  | some body => exact .inl (Grammar.unquote?_eq_some_iff.mp hbody)
  | none =>
    have hstring : isString t.text = false := by rw [isString, hbody]; rfl
    rw [Expectation.accepts, hstring, Bool.false_or] at h
    exact .inr ⟨Grammar.isIdentifier_iff.mp h, rfl⟩

theorem judges_declaration : Judges declaration Grammar.Declaration Grammar.Declaration := by
  refine .ifEat (by decide) (fun keyword hkeyword =>
    Judges.image judges_stringLine fun _ _ => .includeFile hkeyword) ?_
  refine .ifEat (by decide) (fun keyword hkeyword => Judges.bind judges_path fun u names hpath =>
    .symbol (by decide) fun semicolon hsemicolon =>
      .pure (.inNamespace hkeyword hpath hsemicolon)) ?_
  refine .ifEat (by decide) (fun keyword hkeyword => .expect "x" (by decide) fun t ht =>
    .symbol (by decide) fun semicolon hsemicolon =>
      .pure (.attributeName hkeyword (attributeName_of_accepts ht) hsemicolon)) ?_
  refine .ifEat (by decide) (fun keyword hkeyword => Judges.bind judges_dottedPath ?_) ?_
  · rintro u _ ⟨names, hpath, rfl⟩
    exact .symbol (by decide) fun semicolon hsemicolon =>
      .pure (.rootType hkeyword hpath hsemicolon)
  refine .ifEat (by decide) (fun keyword hkeyword =>
    Judges.image judges_stringLine fun _ _ => .fileExtension hkeyword) ?_
  refine .ifEat (by decide) (fun keyword hkeyword =>
    Judges.image judges_stringLine fun _ _ => .fileIdentifier hkeyword) ?_
  refine .ifEat (by decide) (fun keyword hkeyword =>
    Judges.image judges_enum fun _ _ => .enum hkeyword) ?_
  refine .ifEat (by decide) (fun keyword hkeyword =>
    Judges.image judges_union fun _ _ => .union hkeyword) ?_
  refine .ifEat (by decide) (fun keyword hkeyword =>
    Judges.image judges_struct fun _ _ h => .struct hkeyword h.1 h.2) ?_
  refine .ifEat (by decide) (fun keyword hkeyword => Judges.map judges_compound
    (fun _ _ => .table hkeyword) fun _ _ h => .table hkeyword h.1) ?_
  have hpossible : Begins Grammar.Declaration [] := by
    obtain ⟨body, decl, hdecl⟩ := Judges.possible judges_union
    exact ⟨⟨"union", .start⟩ :: body, _, .union rfl hdecl⟩
  exact ⟨hpossible, fun c => .current (.fail _ hpossible)⟩

/-- One more declaration, or the end of the text. -/
def schemaStep : Parser (Option Declaration) := do
  let token ← current
  if token.isEnd then return none
  else return some (← declaration)

theorem schema_eq : schema = many schemaStep := rfl

theorem judges_schemaStep : Judges schemaStep
    (StepPhrase Grammar.Declaration fun u => Grammar.Schema u [])
    (StepPhrase Grammar.Declaration fun u => Grammar.Schema u []) := by
  refine ⟨⟨[], none, .nil⟩, fun c => .current ?_⟩
  split
  · exact .pure .nil
  · exact (Judges.verdict judges_declaration c).map (fun _ _ h => h) fun _ _ h => h

theorem judges_schema : Judges schema Grammar.Schema Grammar.Schema := by
  rw [schema_eq]
  exact Judges.many judges_schemaStep (fun _ _ => varied_of_declaration) (fun _ _ _ _ => .cons)
    (fun _ _ _ _ => .cons) ⟨[], [], .nil⟩

end WireSchema.Source.Parser
