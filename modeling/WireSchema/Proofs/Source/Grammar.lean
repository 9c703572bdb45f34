/-
WireSchema.Proofs.Source.Grammar — the grammar of schemas.

A production relates a list of tokens to what it stands for. `Star`, `Marked` and `Separated` are the
repetitions of the grammar; everything else is one production each, in the order of the language
definition:

  schema   = (include | decl)*          enum   = IDENT ":" IDENT metadata "{" values "}"
  path     = IDENT ("." IDENT)*         union  = IDENT metadata "{" values "}"
  values   = value ("," value)* ","?    struct = IDENT metadata "{" field+ "}"
  value    = path ("=" INT)?            table  = IDENT metadata "{" field* "}"
  metadata = ("(" (entry ("," entry)*)? ")")?
  entry    = IDENT (":" literal)?       field  = IDENT ":" type ("=" literal)? metadata ";"
  literal  = INT | FLOAT | STRING | IDENT   type = path | "[" path "]"

Keywords are identifiers like any other. Declarations, values and fields carry the place of the token
that starts their name.
-/
import WireSchema.Source.Parser

namespace WireSchema.Grammar

open WireSchema.Text (isDecimalDigit)

/-! ## Classes of token text -/

/-- A text of the form `[A-Za-z_][A-Za-z0-9_]*`. -/
def IsIdentifier (text : String) : Prop :=
  ∃ c cs, text.toList = c :: cs ∧ (c.isAlpha = true ∨ c = '_') ∧
    ∀ d ∈ cs, d.isAlphanum = true ∨ d = '_'

/-- Digits of any script, at least one. -/
def IsDigits (cs : List Char) : Prop :=
  cs ≠ [] ∧ ∀ c ∈ cs, isDecimalDigit c = true

/-- Digits with an optional minus sign. -/
def IsWhole (cs : List Char) : Prop :=
  ∃ sign digits, cs = sign ++ digits ∧ sign ∈ [[], ['-']] ∧ IsDigits digits

/-- Nothing, or a point and digits. -/
def IsFraction (cs : List Char) : Prop :=
  cs = [] ∨ ∃ digits, cs = '.' :: digits ∧ IsDigits digits

/-- Nothing, or a mark, an optional sign and digits. -/
def IsExponent (cs : List Char) : Prop :=
  cs = [] ∨ ∃ mark sign digits, cs = mark :: (sign ++ digits) ∧ mark ∈ ['e', 'E'] ∧
    sign ∈ [[], ['+'], ['-']] ∧ IsDigits digits

/-- A text of the form `-?\d+`. -/
def IsInteger (text : String) : Prop :=
  IsWhole text.toList

/-- A text of the form `-?\d+(\.\d+)?([eE][+-]?\d+)?`. -/
def IsFloat (text : String) : Prop :=
  ∃ whole fraction exponent, text.toList = whole ++ (fraction ++ exponent) ∧ IsWhole whole ∧
    IsFraction fraction ∧ IsExponent exponent

/-- A text in double quotes, without quotes inside. -/
def IsQuoted (text body : String) : Prop :=
  text.toList = '"' :: (body.toList ++ ['"']) ∧ '"' ∉ body.toList

/-- What a value token stands for: an integer, else a number, else a string, else a truth value, else
an identifier. -/
inductive Literal (t : Token) : WireSchema.Literal → Prop
  | integer {n : Int} (hclass : IsInteger t.text) (hvalue : Number.integer? t.text = some n) :
      Literal t (.integer n)
  | float {x : Number.Binary64} (helse : ¬ IsInteger t.text) (hclass : IsFloat t.text)
      (hvalue : Number.binary64? t.text = some x) : Literal t (.float x)
  | string {body : String} (helse : ¬ IsFloat t.text) (hclass : IsQuoted t.text body) :
      Literal t (.string body)
  | yes (htext : t.text = "true") : Literal t (.bool true)
  | no (htext : t.text = "false") : Literal t (.bool false)
  | ident (helse : ¬ IsFloat t.text ∧ ∀ body, ¬ IsQuoted t.text body)
      (hword : t.text ≠ "true" ∧ t.text ≠ "false") (hclass : IsIdentifier t.text) :
      Literal t (.ident t.text)

/-! ## Repetitions -/

section

variable {α : Type} (item : List Token → α → Prop)

/-- Any number of items. -/
inductive Star : List Token → List α → Prop
  | nil : Star [] []
  | cons {u v : List Token} {a : α} {as : List α} (hitem : item u a) (hrest : Star v as) :
      Star (u ++ v) (a :: as)

/-- An item behind a mark. -/
inductive Marked (mark : String) : List Token → α → Prop
  | intro {t : Token} {u : List Token} {a : α} (hmark : t.text = mark) (hitem : item u a) :
      Marked mark (t :: u) a

/-- Items with marks between them, at least one. -/
inductive Separated (mark : String) : List Token → List α → Prop
  | intro {u v : List Token} {a : α} {as : List α} (hfirst : item u a)
      (hmore : Star (Marked item mark) v as) : Separated mark (u ++ v) (a :: as)

end

/-! ## Productions -/

/-- An identifier. -/
inductive Name : List Token → String → Prop
  | intro {t : Token} (hname : IsIdentifier t.text) : Name [t] t.text

/-- Names with points between them. -/
abbrev Path : List Token → List String → Prop :=
  Separated Name "."

/-- The names of a path as one text. -/
def joined (names : List String) : String :=
  ".".intercalate names

inductive Entry : List Token → Source.MetadataEntry → Prop
  | plain {name : Token} (hname : IsIdentifier name.text) : Entry [name] ⟨name.text, none⟩
  | valued {name colon value : Token} {literal : WireSchema.Literal}
      (hname : IsIdentifier name.text) (hcolon : colon.text = ":") (hvalue : Literal value literal) :
      Entry [name, colon, value] ⟨name.text, some literal⟩

inductive Metadata : List Token → List Source.MetadataEntry → Prop
  | absent : Metadata [] []
  | empty {opening closing : Token} (hopening : opening.text = "(") (hclosing : closing.text = ")") :
      Metadata [opening, closing] []
  | entries {opening closing : Token} {body : List Token} {entries : List Source.MetadataEntry}
      (hopening : opening.text = "(") (hentries : Separated Entry "," body entries)
      (hclosing : closing.text = ")") : Metadata (opening :: (body ++ [closing])) entries

/-- An enum constant or a union member. -/
inductive Value : List Token → Source.Value → Prop
  | plain {first : Token} {tail : List Token} {names : List String}
      (hpath : Path (first :: tail) names) : Value (first :: tail) ⟨joined names, none, first.pos⟩
  | numbered {first equals number : Token} {tail : List Token} {names : List String} {n : Int}
      (hpath : Path (first :: tail) names) (hequals : equals.text = "=")
      (hnumber : IsInteger number.text) (hvalue : Number.integer? number.text = some n) :
      Value (first :: tail ++ [equals, number]) ⟨joined names, some n, first.pos⟩

/-- The body of an enum or a union. -/
inductive Values : List Token → List Source.Value → Prop
  | plain {opening closing : Token} {body : List Token} {values : List Source.Value}
      (hopening : opening.text = "\x7b") (hvalues : Separated Value "," body values)
      (hclosing : closing.text = "\x7d") : Values (opening :: (body ++ [closing])) values
  | trailing {opening comma closing : Token} {body : List Token} {values : List Source.Value}
      (hopening : opening.text = "\x7b") (hvalues : Separated Value "," body values)
      (hcomma : comma.text = ",") (hclosing : closing.text = "\x7d") :
      Values (opening :: (body ++ [comma, closing])) values

inductive Enum : List Token → Source.Enum → Prop
  | intro {name colon underlying : Token} {metadata body : List Token}
      {entries : List Source.MetadataEntry} {values : List Source.Value}
      (hname : IsIdentifier name.text) (hcolon : colon.text = ":")
      (hunderlying : IsIdentifier underlying.text) (hmetadata : Metadata metadata entries)
      (hvalues : Values body values) :
      Enum (name :: colon :: underlying :: (metadata ++ body))
        ⟨name.text, underlying.text, entries, values, name.pos⟩

inductive Union : List Token → Source.Union → Prop
  | intro {name : Token} {metadata body : List Token} {entries : List Source.MetadataEntry}
      {members : List Source.Value} (hname : IsIdentifier name.text)
      (hmetadata : Metadata metadata entries) (hmembers : Values body members) :
      Union (name :: (metadata ++ body)) ⟨name.text, entries, members, name.pos⟩

/-- The type of a field, and whether it is an array. -/
inductive FieldType : List Token → String × Bool → Prop
  | plain {path : List Token} {names : List String} (hpath : Path path names) :
      FieldType path (joined names, false)
  | array {opening closing : Token} {path : List Token} {names : List String}
      (hopening : opening.text = "[") (hpath : Path path names) (hclosing : closing.text = "]") :
      FieldType (opening :: (path ++ [closing])) (joined names, true)

inductive Default : List Token → Option WireSchema.Literal → Prop
  | absent : Default [] none
  | given {equals value : Token} {literal : WireSchema.Literal} (hequals : equals.text = "=")
      (hvalue : Literal value literal) : Default [equals, value] (some literal)

inductive Field : List Token → Source.Field → Prop
  | intro {name colon semicolon : Token} {type value metadata : List Token} {typeName : String}
      {isArray : Bool} {default : Option WireSchema.Literal} {entries : List Source.MetadataEntry}
      (hname : IsIdentifier name.text) (hcolon : colon.text = ":")
      (htype : FieldType type (typeName, isArray)) (hdefault : Default value default)
      (hmetadata : Metadata metadata entries) (hsemicolon : semicolon.text = ";") :
      Field (name :: colon :: (type ++ (value ++ (metadata ++ [semicolon]))))
        ⟨name.text, typeName, isArray, default, entries, name.pos⟩

/-- The body of a struct or a table. -/
inductive Compound : List Token → Source.Compound → Prop
  | intro {name opening closing : Token} {metadata body : List Token}
      {entries : List Source.MetadataEntry} {fields : List Source.Field}
      (hname : IsIdentifier name.text) (hmetadata : Metadata metadata entries)
      (hopening : opening.text = "\x7b") (hfields : Star Field body fields)
      (hclosing : closing.text = "\x7d") :
      Compound (name :: (metadata ++ opening :: (body ++ [closing])))
        ⟨name.text, entries, fields, name.pos⟩

/-- A string and a semicolon. -/
inductive StringLine : List Token → String → Prop
  | intro {value semicolon : Token} {body : String} (hvalue : IsQuoted value.text body)
      (hsemicolon : semicolon.text = ";") : StringLine [value, semicolon] body

/-- A name, in quotes or not. -/
def AttributeName (t : Token) (name : String) : Prop :=
  IsQuoted t.text name ∨ (IsIdentifier t.text ∧ name = t.text)

inductive Declaration : List Token → Source.Declaration → Prop
  | includeFile {keyword : Token} {line : List Token} {path : String}
      (hkeyword : keyword.text = "include") (hline : StringLine line path) :
      Declaration (keyword :: line) (.includeFile path)
  | inNamespace {keyword semicolon : Token} {path : List Token} {names : List String}
      (hkeyword : keyword.text = "namespace") (hpath : Path path names)
      (hsemicolon : semicolon.text = ";") :
      Declaration (keyword :: (path ++ [semicolon])) (.inNamespace names)
  | attributeName {keyword value semicolon : Token} {name : String}
      (hkeyword : keyword.text = "attribute") (hname : AttributeName value name)
      (hsemicolon : semicolon.text = ";") :
      Declaration [keyword, value, semicolon] (.attributeName name)
  | rootType {keyword semicolon : Token} {path : List Token} {names : List String}
      (hkeyword : keyword.text = "root_type") (hpath : Path path names)
      (hsemicolon : semicolon.text = ";") :
      Declaration (keyword :: (path ++ [semicolon])) (.rootType (joined names))
  | fileExtension {keyword : Token} {line : List Token} {extension : String}
      (hkeyword : keyword.text = "file_extension") (hline : StringLine line extension) :
      Declaration (keyword :: line) (.fileExtension extension)
  | fileIdentifier {keyword : Token} {line : List Token} {identifier : String}
      (hkeyword : keyword.text = "file_identifier") (hline : StringLine line identifier) :
      Declaration (keyword :: line) (.fileIdentifier identifier)
  | enum {keyword : Token} {body : List Token} {decl : Source.Enum}
      (hkeyword : keyword.text = "enum") (hdecl : Enum body decl) :
      Declaration (keyword :: body) (.enum decl)
  | union {keyword : Token} {body : List Token} {decl : Source.Union}
      (hkeyword : keyword.text = "union") (hdecl : Union body decl) :
      Declaration (keyword :: body) (.union decl)
  | struct {keyword : Token} {body : List Token} {decl : Source.Compound}
      (hkeyword : keyword.text = "struct") (hdecl : Compound body decl)
      (hfields : decl.fields ≠ []) : Declaration (keyword :: body) (.struct decl)
  | table {keyword : Token} {body : List Token} {decl : Source.Compound}
      (hkeyword : keyword.text = "table") (hdecl : Compound body decl) :
      Declaration (keyword :: body) (.table decl)

/-- A schema. -/
abbrev Schema : List Token → Source.Schema → Prop :=
  Star Declaration

/-! ## Ends of phrases -/

section

variable {t : Token} {u v : List Token}

/-- The last token of a phrase is not the end of the text. -/
def Ends (used : List Token) : Prop :=
  ∃ front t, used = front ++ [t] ∧ t.text ≠ ""

theorem Ends.singleton {text : String} (h : t.text = text) (hne : text ≠ "") : Ends [t] :=
  ⟨[], t, rfl, h ▸ hne⟩

theorem Ends.append (h : Ends v) : Ends (u ++ v) := by
  obtain ⟨front, t, rfl, ht⟩ := h
  exact ⟨u ++ front, t, (List.append_assoc ..).symm, ht⟩

theorem Ends.cons (h : Ends v) : Ends (t :: v) :=
  Ends.append (u := [t]) h

theorem ends_of_values {values : List Source.Value} (h : Values u values) : Ends u := by
  cases h with
  | plain _ _ hclosing => exact .cons (.append (.singleton hclosing (by decide)))
  | trailing _ _ _ hclosing => exact .cons (.append (.cons (.singleton hclosing (by decide))))

theorem ends_of_compound {decl : Source.Compound} (h : Compound u decl) : Ends u := by
  cases h with
  | intro _ _ _ _ hclosing =>
    exact .cons (.append (.cons (.append (.singleton hclosing (by decide)))))

theorem ends_of_stringLine {text : String} (h : StringLine u text) : Ends u := by
  cases h with
  | intro _ hsemicolon => exact .cons (.singleton hsemicolon (by decide))

theorem ends_of_declaration {d : Source.Declaration} (h : Declaration u d) : Ends u := by
  cases h with
  | includeFile _ hline => exact .cons (ends_of_stringLine hline)
  | inNamespace _ _ hsemicolon => exact .cons (.append (.singleton hsemicolon (by decide)))
  | attributeName _ _ hsemicolon => exact .cons (.cons (.singleton hsemicolon (by decide)))
  | rootType _ _ hsemicolon => exact .cons (.append (.singleton hsemicolon (by decide)))
  | fileExtension _ hline => exact .cons (ends_of_stringLine hline)
  | fileIdentifier _ hline => exact .cons (ends_of_stringLine hline)
  | enum _ hdecl =>
    cases hdecl with
    | intro _ _ _ _ hvalues => exact .cons (.cons (.cons (.cons (.append (ends_of_values hvalues)))))
  | union _ hdecl =>
    cases hdecl with
    | intro _ _ hmembers => exact .cons (.cons (.append (ends_of_values hmembers)))
  | struct _ hdecl _ => exact .cons (ends_of_compound hdecl)
  | table _ hdecl => exact .cons (ends_of_compound hdecl)

theorem ends_of_schema {schema : Source.Schema} (h : Schema u schema) : u = [] ∨ Ends u := by
  induction h with
  | nil => exact .inl rfl
  | cons hd _ ih =>
    rcases ih with rfl | hv
    · rw [List.append_nil]
      exact .inr (ends_of_declaration hd)
    · exact .inr hv.append

/-! ## Fronts of phrases -/

theorem cons_of_path {names : List String} (h : Path u names) :
    ∃ t w, u = t :: w ∧ IsIdentifier t.text := by
  cases h with
  | intro hfirst _ =>
    cases hfirst with
    | intro hname => exact ⟨_, _, rfl, hname⟩

theorem cons_of_entry {entry : Source.MetadataEntry} (h : Entry u entry) :
    ∃ t w, u = t :: w ∧ IsIdentifier t.text := by
  cases h with
  | plain hname => exact ⟨_, _, rfl, hname⟩
  | valued hname _ _ => exact ⟨_, _, rfl, hname⟩

theorem cons_of_value {value : Source.Value} (h : Value u value) :
    ∃ t w, u = t :: w ∧ IsIdentifier t.text := by
  cases h with
  | plain hpath =>
    obtain ⟨t, w, hu, hname⟩ := cons_of_path hpath
    cases hu
    exact ⟨_, _, rfl, hname⟩
  | numbered hpath _ _ _ =>
    obtain ⟨t, w, hu, hname⟩ := cons_of_path hpath
    cases hu
    exact ⟨_, _, rfl, hname⟩

theorem cons_of_field {f : Source.Field} (h : Field u f) :
    ∃ t w, u = t :: w ∧ IsIdentifier t.text := by
  cases h with
  | intro hname => exact ⟨_, _, rfl, hname⟩

theorem cons_of_declaration {d : Source.Declaration} (h : Declaration u d) :
    ∃ t w, u = t :: w ∧ t.text ≠ "" := by
  cases h with
  | includeFile hkeyword | inNamespace hkeyword | attributeName hkeyword | rootType hkeyword
  | fileExtension hkeyword | fileIdentifier hkeyword | enum hkeyword | union hkeyword
  | struct hkeyword | table hkeyword =>
    exact ⟨_, _, rfl, hkeyword ▸ by decide⟩

end

end WireSchema.Grammar
