/-
WireSchema.Proofs.Session.Grammatical — what the grammar promises of the files of a session.

A symbol table built from a text names everything with identifiers, and its structs have fields. The
rules of a session do not check this: it holds because only the grammar lets declarations in
(`Source.Declaration.grammatical_of_derives`), and no later step adds a name
(`SymbolTable.grammatical_of_ofText`).
-/
import WireSchema.Proofs.Source.Parser
import WireSchema.Proofs.SymbolTable.WellFormed

namespace WireSchema

open WireSchema.Grammar (IsIdentifier)
open WireSchema.Outcome

/-! ## The end token -/

/-- The tokens of a text end with an empty one. -/
theorem Token.getLast?_of_scanFrom {before : Option Char} {pos : Position} {cs : List Char}
    {tokens : List Token} (h : scanFrom before pos cs = .ok tokens) :
    ∃ last, tokens.getLast? = some last ∧ last.isEnd = true := by
  fun_induction scanFrom before pos cs generalizing tokens with
  | case1 before pos =>
    cases h
    exact ⟨⟨"", pos⟩, rfl, rfl⟩
  | case2 => cases h
  | case3 => cases h
  | case4 before pos c rest lexeme hlexeme piece hpos more hmore htrivia =>
    rename_i ih
    cases h
    exact ih hmore
  | case5 before pos c rest lexeme hlexeme piece hpos more hmore htrivia =>
    rename_i ih
    cases h
    obtain ⟨last, hlast, hend⟩ := ih hmore
    exact ⟨last, by simp [List.getLast?_cons, hlast], hend⟩

/-- What is parsed from a text is derived by the grammar. -/
theorem Source.exists_derives_of_scan {text : String} {tokens : List Token} {schema : Schema}
    (hscan : Token.scan text = .ok tokens) (hparse : parse tokens = .ok schema) :
    ∃ used, Grammar.Schema used schema := by
  obtain ⟨last, hlast, hend⟩ := Token.getLast?_of_scanFrom hscan
  obtain ⟨⟨parsed, after⟩, hschema, rfl⟩ := map_eq_ok_iff.mp hparse
  have hcursor : (Cursor.ofTokens tokens).last.isEnd = true := by
    simpa [Cursor.ofTokens, hlast] using hend
  obtain ⟨used, _, hderives, _⟩ := Parser.schema_sound hschema hcursor
  exact ⟨used, hderives⟩

/-! ## Derived declarations -/

namespace Grammar

variable {α : Type} {item : List Token → α → Prop} {used : List Token} {items : List α}

theorem exists_of_mem_star (h : Star item used items) : ∀ a ∈ items, ∃ part, item part a := by
  induction h with
  | nil => simp
  | cons hitem _ ih =>
    rw [List.forall_mem_cons]
    exact ⟨⟨_, hitem⟩, ih⟩

theorem exists_of_mem_separated {mark : String} (h : Separated item mark used items) :
    ∀ a ∈ items, ∃ part, item part a := by
  cases h with
  | intro hfirst hmore =>
    rw [List.forall_mem_cons]
    refine ⟨⟨_, hfirst⟩, fun a ha => ?_⟩
    obtain ⟨part, hpart⟩ := exists_of_mem_star hmore a ha
    cases hpart with
    | intro _ hitem => exact ⟨_, hitem⟩

theorem isIdentifier_of_mem_path {names : List String} (h : Path used names) :
    ∀ name ∈ names, IsIdentifier name := by
  intro name hname
  obtain ⟨part, hpart⟩ := exists_of_mem_separated h name hname
  cases hpart with
  | intro hidentifier => exact hidentifier

/-- A path that shows no point is a single name. -/
theorem isIdentifier_joined {names : List String} (h : Path used names)
    (hplain : '.' ∉ (joined names).toList) : IsIdentifier (joined names) := by
  have hnames := isIdentifier_of_mem_path h
  cases h with
  | @intro _ _ first more _ _ =>
    cases more with
    | nil => simpa [joined] using hnames first List.mem_cons_self
    | cons second rest => simp [joined, String.intercalate_cons_cons] at hplain

theorem isIdentifier_of_value {v : Source.Value} (h : Value used v)
    (hplain : '.' ∉ v.name.toList) : IsIdentifier v.name := by
  cases h with
  | plain hpath => exact isIdentifier_joined hpath hplain
  | numbered hpath _ _ _ => exact isIdentifier_joined hpath hplain

theorem exists_of_mem_values {values : List Source.Value} (h : Values used values) :
    ∀ v ∈ values, ∃ part, Value part v := by
  cases h with
  | plain _ hvalues _ => exact exists_of_mem_separated hvalues
  | trailing _ hvalues _ _ => exact exists_of_mem_separated hvalues

theorem isIdentifier_of_compound {decl : Source.Compound} (h : Compound used decl) :
    IsIdentifier decl.name ∧ ∀ f ∈ decl.fields, IsIdentifier f.name := by
  cases h with
  | intro hname _ _ hfields _ =>
    refine ⟨hname, fun f hf => ?_⟩
    obtain ⟨part, hpart⟩ := exists_of_mem_star hfields f hf
    cases hpart with
    | intro hfield => exact hfield

end Grammar

/-- What the grammar promises of a declaration. A constant may be written as a path, which no enum
accepts. -/
structure Source.Declaration.Grammatical (d : Source.Declaration) : Prop where
  scopePath : ∀ names, d.namespace? = some names → ∀ name ∈ names, IsIdentifier name
  typeName : ∀ name, d.typeName? = some name → IsIdentifier name
  constants : ∀ decl, d = .enum decl → ∀ v ∈ decl.values, '.' ∉ v.name.toList →
    IsIdentifier v.name
  fields : ∀ decl, d = .struct decl ∨ d = .table decl → ∀ f ∈ decl.fields, IsIdentifier f.name
  structs : ∀ decl, d = .struct decl → decl.fields ≠ []

theorem Source.Declaration.grammatical_of_derives {used : List Token} {d : Source.Declaration}
    (h : Grammar.Declaration used d) : d.Grammatical := by
  cases h with
  | inNamespace _ hpath _ =>
    have hnames := Grammar.isIdentifier_of_mem_path hpath
    constructor <;> simp_all
  | enum _ hdecl =>
    cases hdecl with
    | intro hname _ _ _ hvalues =>
      have hconstants := Grammar.exists_of_mem_values hvalues
      refine ⟨by simp, by simpa using hname, ?_, by simp, by simp⟩
      rintro _ ⟨⟩ v hv hplain
      obtain ⟨part, hpart⟩ := hconstants v hv
      exact Grammar.isIdentifier_of_value hpart hplain
  | union _ hdecl =>
    cases hdecl with
    | intro hname _ _ => constructor <;> simp_all
  | struct _ hdecl hfields =>
    obtain ⟨hname, hnames⟩ := Grammar.isIdentifier_of_compound hdecl
    constructor <;> simp_all
  | table _ hdecl =>
    obtain ⟨hname, hnames⟩ := Grammar.isIdentifier_of_compound hdecl
    constructor <;> simp_all
  | _ => constructor <;> simp

/-! ## Files -/

/-- What the grammar promises of a file. -/
structure SymbolTable.Grammatical (file : SymbolTable) : Prop where
  scopePath : ∀ name ∈ file.scopePath, IsIdentifier name
  typeName : ∀ name declared, file.Holds name declared → IsIdentifier name
  constants : ∀ name e, file.Holds name (.enum e) → ∀ v ∈ e.values, IsIdentifier v.name
  fields : ∀ owner f, file.HasField owner f → IsIdentifier f.name
  structs : ∀ name s, file.Holds name (.struct s) → s.fields ≠ []

theorem Source.mem_constantsFrom {values : List Value} {last : Int} {v : Symbol.EnumValue}
    (h : v ∈ constantsFrom last values) : ∃ written ∈ values, v.name = written.name := by
  induction values generalizing last with
  | nil => cases h
  | cons first rest ih =>
    rw [constantsFrom, List.mem_cons] at h
    rcases h with rfl | h
    · exact ⟨first, List.mem_cons_self, rfl⟩
    · obtain ⟨written, hwritten, hname⟩ := ih h
      exact ⟨written, List.mem_cons_of_mem _ hwritten, hname⟩

theorem Source.Compound.Means.isIdentifier {decl : Source.Compound} {c : Symbol.Compound}
    (h : decl.Means c) (hnames : ∀ f ∈ decl.fields, IsIdentifier f.name) :
    ∀ f ∈ c.fields, IsIdentifier f.name := by
  intro f hf
  obtain ⟨written, hwritten, hmeans⟩ := exists_of_forall₂_of_mem h.fields hf
  rw [hmeans.name]
  exact hnames written hwritten

namespace SymbolTable

variable {file : SymbolTable} {schema : Source.Schema}

theorem BuiltFrom.mem_scopePath (h : BuiltFrom schema file) {name : String}
    (hname : name ∈ file.scopePath) :
    ∃ d ∈ schema, ∃ names, d.namespace? = some names ∧ name ∈ names := by
  unfold scopePath at hname
  cases hpath : file.namespacePath with
  | none => simp [hpath] at hname
  | some names =>
    have hmem : names ∈ schema.filterMap (·.namespace?) := by
      rw [← h.namespacePath, hpath]
      exact List.mem_singleton_self names
    obtain ⟨d, hd, hnames⟩ := List.mem_filterMap.mp hmem
    exact ⟨d, hd, names, hnames, by simpa [hpath] using hname⟩

/-- What is built from grammatical declarations is grammatical. -/
theorem BuiltFrom.grammatical (h : BuiltFrom schema file)
    (hschema : ∀ d ∈ schema, d.Grammatical) : file.Grammatical where
  scopePath name hname := by
    obtain ⟨d, hd, names, hnames, hmem⟩ := h.mem_scopePath hname
    exact (hschema d hd).scopePath names hnames name hmem
  typeName name declared hholds := by
    obtain ⟨d, hd, hmakes⟩ := (h.holds name declared).mp hholds
    exact (hschema d hd).typeName name hmakes.typeName?
  constants name e hholds v hv := by
    obtain ⟨d, hd, hmakes⟩ := (h.holds name _).mp hholds
    cases hmakes with
    | @enum decl _ he =>
      obtain ⟨hwell, hmeans⟩ := Symbol.Enum.ofSource_eq_ok_iff.mp he
      rw [hmeans.values] at hv
      obtain ⟨written, hwritten, hsame⟩ := Source.mem_constantsFrom hv
      rw [hsame]
      exact (hschema _ hd).constants decl rfl written hwritten (hwell.unqualified written hwritten)
  fields owner f hfield := by
    cases hfield with
    | struct hholds hf =>
      obtain ⟨d, hd, hmakes⟩ := (h.holds _ _).mp hholds
      cases hmakes with
      | struct hs =>
        exact ((Symbol.Compound.ofSource_eq_ok_iff .struct).mp hs).2.isIdentifier
          ((hschema _ hd).fields _ (.inl rfl)) f hf
    | table hholds hf =>
      obtain ⟨d, hd, hmakes⟩ := (h.holds _ _).mp hholds
      cases hmakes with
      | table ht =>
        exact ((Symbol.Compound.ofSource_eq_ok_iff .table).mp ht).2.isIdentifier
          ((hschema _ hd).fields _ (.inr rfl)) f hf
  structs name s hholds hnone := by
    obtain ⟨d, hd, hmakes⟩ := (h.holds name _).mp hholds
    cases hmakes with
    | @struct decl _ hs =>
      have hfields := ((Symbol.Compound.ofSource_eq_ok_iff .struct).mp hs).2.fields
      rw [hnone, List.forall₂_nil_right_iff] at hfields
      exact (hschema _ hd).structs decl rfl hfields

theorem grammatical_of_ofText {text : String} (h : ofText text = .ok file) :
    file.Grammatical := by
  obtain ⟨tokens, schema, hscan, hparse, hbuild⟩ := ofText_eq_ok_iff.mp h
  obtain ⟨used, hderives⟩ := Source.exists_derives_of_scan hscan hparse
  refine (builtFrom_of_build hbuild).2.grammatical fun d hd => ?_
  obtain ⟨part, hpart⟩ := Grammar.exists_of_mem_star hderives d hd
  exact Source.Declaration.grammatical_of_derives hpart

end SymbolTable

theorem Session.grammatical_of_registerTexts {session : Session} {texts : List (String × String)}
    (h : registerTexts {} texts = .ok session) :
    ∀ file ∈ session.files.values, file.Grammatical := by
  intro file hfile
  obtain ⟨text, hread⟩ := exists_ofText_of_registerTexts h file hfile
  exact SymbolTable.grammatical_of_ofText hread

end WireSchema
