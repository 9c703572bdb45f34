/-
WireSchema.Proofs.Code.Text — what stands in the text of emitted code.

Code is written line by line, each part by a function of its own. Here the text of a type is given as
a whole for each kind (`EnumItem.code`, `UnionItem.code`, `StructItem.code`, `TableItem.code`): the
signature, then what is in the braces, with a line for each variant, field, initial value, constant
and tag. The text of a file is what stands in front, the texts of its types in order and the braces
that are still open (`SourceFile.code`). `Item.text_eq_code` and `SourceFile.text_append_newline` say
that this is what is written, whatever the names are.

A path is read back from its text by cutting at the double colons (`readPath`). Nothing is lost where
no part of it has a colon inside (`pathParts_intercalate`).
-/
import WireSchema.Code.Render

namespace WireSchema.Code

/-! ## Lines -/

/-- Lines, each with its end. -/
def unlines (lines : List String) : String :=
  String.join (lines.map fun line => line ++ "\n")

/-- Lines between braces. Where there are none, one is left empty. -/
def body (lines : List String) : String :=
  if lines.isEmpty then "\n" else unlines lines

@[simp] theorem unlines_nil : unlines [] = "" := rfl

@[simp] theorem unlines_cons (line : String) (lines : List String) :
    unlines (line :: lines) = line ++ "\n" ++ unlines lines := by
  simp [unlines]

@[simp] theorem unlines_append (front back : List String) :
    unlines (front ++ back) = unlines front ++ unlines back := by
  simp [unlines, String.join_append]

theorem joinLines_eq_unlines {lines : List String} (h : lines ≠ []) :
    joinLines lines ++ "\n" = unlines lines := by
  induction lines with
  | nil => exact absurd rfl h
  | cons line rest ih =>
    cases rest with
    | nil => simp [joinLines]
    | cons next rest =>
      have hrest := ih (List.cons_ne_nil next rest)
      rw [joinLines] at hrest
      rw [joinLines, String.intercalate_cons_cons, String.append_assoc, hrest, unlines_cons line]

theorem joinLines_eq_body (lines : List String) : joinLines lines ++ "\n" = body lines := by
  cases lines with
  | nil => rfl
  | cons line rest =>
    rw [joinLines_eq_unlines (List.cons_ne_nil line rest)]
    rfl

/-! ## Types -/

/-- The lines of constants. -/
def constantLines (constants : List Constant) : List String :=
  constants.map fun c => "    pub const " ++ c.name ++ ": usize = " ++ toString c.value ++ ";"

/-- The lines of fields. -/
def fieldLines (fields : List FieldItem) : List String :=
  fields.map fun f => "    pub " ++ f.ident ++ ": " ++ f.typeText ++ ","

/-- The implementation of a default, around the value it has. -/
def defaultCode (ident value : String) : String :=
  unlines
    ["",
     "impl Default for " ++ ident ++ " \x7b",
     "    fn default() -> Self \x7b"] ++
    value ++
    unlines
      ["    \x7d",
       "\x7d"]

/-- A value with a line for each field. -/
def initialsCode (initials : List (String × Initial)) : String :=
  unlines ["        Self \x7b"] ++
    body (initials.map fun entry => "            " ++ entry.1 ++ ": " ++ entry.2.text ++ ",") ++
    unlines ["        \x7d"]

/-- The text of an enum: its variants with their values, and its default, if there is one. -/
def EnumItem.code (e : EnumItem) : String :=
  unlines
    ["#[derive(" ++ ", ".intercalate e.derives ++ ")]",
     "#[repr(" ++ e.representation ++ ")]",
     "pub enum " ++ e.ident ++ " \x7b"] ++
    body (e.variants.map fun variant =>
      "    " ++ variant.1 ++ " = " ++ toString variant.2 ++ ",") ++
    unlines ["\x7d"] ++
    (e.default.map fun variant =>
      defaultCode e.ident (unlines ["        " ++ e.ident ++ "::" ++ variant])).getD ""

/-- The text of a union: the variant for no member and one for each member, and the tags, zero for no
member and counted from one for the members. -/
def UnionItem.code (u : UnionItem) : String :=
  unlines
    ["#[derive(" ++ ", ".intercalate u.derives ++ ")]",
     "pub enum " ++ u.ident ++ " \x7b",
     "    #[default]",
     "    None,"] ++
    unlines (u.variants.map fun variant => "    " ++ variant.1 ++ "(" ++ variant.2.text ++ "),") ++
    unlines
      ["\x7d",
       "",
       "impl " ++ u.ident ++ " \x7b"] ++
    (u.extent.map fun extent =>
      unlines (constantLines [⟨"SIZE", extent.size⟩, ⟨"ALIGN", extent.alignment⟩] ++ [""])).getD "" ++
    unlines
      ["    pub fn tag(&self) -> " ++ u.tagType ++ " \x7b",
       "        match self \x7b",
       "            Self::None => 0,"] ++
    unlines (u.variants.zipIdx.map fun entry =>
      "            Self::" ++ entry.1.1 ++ "(_) => " ++ toString (entry.2 + 1) ++ ",") ++
    unlines
      ["        \x7d",
       "    \x7d",
       "\x7d"]

/-- The text of a struct: its fields, its default, if the fields have initial values, and its extent
with a check of the size. -/
def StructItem.code (s : StructItem) : String :=
  unlines
    ["#[derive(" ++ ", ".intercalate s.derives ++ ")]",
     "#[repr(C, align(" ++ toString s.alignment ++ "))]",
     "pub struct " ++ s.ident ++ " \x7b"] ++
    body (fieldLines s.fields) ++
    unlines ["\x7d"] ++
    (s.initials.map fun values => defaultCode s.ident (initialsCode values)).getD "" ++
    (s.extent.map fun extent =>
      unlines
        (["",
          "impl " ++ s.ident ++ " \x7b"] ++
          constantLines [⟨"SIZE", extent.size⟩, ⟨"ALIGN", extent.alignment⟩] ++
          ["\x7d",
           "",
           "const _: () = assert!(std::mem::size_of::<" ++ s.ident ++ ">() == " ++ s.ident ++
             "::SIZE);"])).getD ""

/-- The text of a table: its fields, its default, if the fields have initial values, and its
constants. -/
def TableItem.code (t : TableItem) : String :=
  unlines
    ["#[derive(" ++ ", ".intercalate t.derives ++ ")]",
     "pub struct " ++ t.ident ++ " \x7b"] ++
    body (fieldLines t.fields) ++
    unlines ["\x7d"] ++
    (t.initials.map fun values => defaultCode t.ident (initialsCode values)).getD "" ++
    (t.constants.map fun constants =>
      unlines (["", "impl " ++ t.ident ++ " \x7b"] ++ constantLines constants ++ ["\x7d"])).getD ""

/-- The text of a type. -/
def Item.code : Item → String
  | enum item => item.code
  | union item => item.code
  | struct item => item.code
  | table item => item.code

/-! ## Written types -/

theorem map_constantLine (constants : List Constant) :
    constants.map Constant.line = constantLines constants := rfl

theorem map_fieldLine (fields : List FieldItem) :
    fields.map FieldItem.line = fieldLines fields := rfl

theorem map_extentLine (e : Extent) : (extentConstants e).map Constant.line =
    constantLines [⟨"SIZE", e.size⟩, ⟨"ALIGN", e.alignment⟩] := rfl

theorem unlines_defaultLines (ident : String) (initials : List (String × Initial)) :
    unlines (defaultLines ident initials) = defaultCode ident (initialsCode initials) := by
  simp only [defaultLines, defaultCode, initialsCode, unlines_cons, unlines_nil,
    joinLines_eq_body, String.append_assoc, String.append_empty, String.empty_append]

theorem tagLine_zero : tagLine noMember 0 = "            Self::None => 0," := by
  show "            Self::" ++ "None" ++ " => " ++ "0" ++ "," = "            Self::None => 0,"
  simp

theorem tagLine_succ (ident : String) (tag : Nat) : tagLine ident (tag + 1) =
    "            Self::" ++ ident ++ "(_) => " ++ toString (tag + 1) ++ "," := by
  have harrow : "(_) => " = "(_)" ++ " => " := by simp
  show "            Self::" ++ (ident ++ "(_)") ++ " => " ++ toString (tag + 1) ++ "," = _
  rw [harrow]
  simp only [String.append_assoc, -String.reduceAppend]

theorem map_tagLine (u : UnionItem) : u.tags.map (fun entry => tagLine entry.1 entry.2) =
    "            Self::None => 0," :: u.variants.zipIdx.map fun entry =>
      "            Self::" ++ entry.1.1 ++ "(_) => " ++ toString (entry.2 + 1) ++ "," := by
  rw [UnionItem.tags, List.map_cons, List.map_map, tagLine_zero]
  refine congrArg _ (List.map_congr_left fun entry _ => ?_)
  exact tagLine_succ entry.1.1 entry.2

-- The texts are compared piece by piece, so literals that meet are not joined.
theorem EnumItem.unlines_lines (e : EnumItem) : unlines e.lines = e.code := by
  cases hdefault : e.default <;>
    simp [EnumItem.lines, EnumItem.code, hdefault, derivesLine, defaultCode, joinLines_eq_body,
      String.append_assoc, -String.reduceAppend]

theorem UnionItem.unlines_lines (u : UnionItem) : unlines u.lines = u.code := by
  have hnone : "    " ++ noMember ++ "," = "    None," := by simp [noMember]
  cases hextent : u.extent <;>
    simp [UnionItem.lines, UnionItem.code, hextent, hnone, derivesLine, map_tagLine,
      map_extentLine, String.append_assoc, -String.reduceAppend]

theorem StructItem.unlines_lines (s : StructItem) : unlines s.lines = s.code := by
  cases hinitials : s.initials <;> cases hextent : s.extent <;>
    simp [StructItem.lines, StructItem.code, hinitials, hextent, derivesLine, map_fieldLine,
      map_extentLine, unlines_defaultLines, joinLines_eq_body, String.append_assoc,
      -String.reduceAppend]

theorem TableItem.unlines_lines (t : TableItem) : unlines t.lines = t.code := by
  cases hinitials : t.initials <;> cases hconstants : t.constants <;>
    simp [TableItem.lines, TableItem.code, hinitials, hconstants, derivesLine, map_fieldLine,
      map_constantLine, unlines_defaultLines, joinLines_eq_body, String.append_assoc,
      -String.reduceAppend]

theorem Item.unlines_lines (i : Item) : unlines i.lines = i.code := by
  cases i with
  | enum e => exact e.unlines_lines
  | union u => exact u.unlines_lines
  | struct s => exact s.unlines_lines
  | table t => exact t.unlines_lines

theorem Item.lines_ne_nil (i : Item) : i.lines ≠ [] := by
  cases i <;>
    simp [Item.lines, EnumItem.lines, UnionItem.lines, StructItem.lines, TableItem.lines]

/-- **Written types.** What is written of a type is its text, whatever names it has. -/
theorem Item.text_eq_code (i : Item) : i.text = i.code :=
  (joinLines_eq_unlines i.lines_ne_nil).trans i.unlines_lines

/-- How a value is written. -/
inductive Value.Written : Value → String → Prop
  | verbatim (text : String) : Written (.verbatim text) text
  | variant (path : TypePath) (ident : String) :
      Written (.variant path ident) (path.text ++ "::" ++ ident)

theorem Value.written_text (value : Value) : value.Written value.text := by
  cases value with
  | verbatim text => exact .verbatim text
  | variant path ident => exact .variant path ident

/-! ## Files -/

/-- The file with some types that stands for a compiled file. -/
def SourceFile.ofItems (source : Compiled.File) (settings : CodeSettings) (items : List Item) :
    SourceFile where
  path := source.path
  modules := source.scopePath.map moduleIdent
  usesSerialize := settings.deriveSerialize
  fileIdentifier := source.fileIdentifier
  fileExtension := source.fileExtension
  items := items

/-- The constants of a file, an empty line behind them. -/
def SourceFile.headerCode (file : SourceFile) : String :=
  (file.fileIdentifier.map fun text =>
    unlines ["pub const FILE_IDENTIFIER: &str = " ++ stringLiteral text ++ ";"]).getD "" ++
  (file.fileExtension.map fun text =>
    unlines ["pub const FILE_EXTENSION: &str = " ++ stringLiteral text ++ ";"]).getD "" ++
  if file.fileIdentifier.isSome || file.fileExtension.isSome then unlines [""] else ""

/-- The text of a file: its modules are opened, its types stand there one after the other with an
empty line behind each, and the modules are closed. -/
def SourceFile.code (file : SourceFile) : String :=
  unlines ["// Generated by flowflat from " ++ file.path ++ ". Do not edit.", ""] ++
    unlines (file.modules.map fun ident => "pub mod " ++ ident ++ " \x7b") ++
    (if file.usesSerialize then unlines ["use serde::Serialize;", ""] else "") ++
    file.headerCode ++
    unlines (file.items.map Item.code) ++
    unlines (file.modules.map fun _ => "\x7d")

theorem SourceFile.unlines_headerLines (file : SourceFile) :
    unlines file.headerLines = file.headerCode := by
  cases hidentifier : file.fileIdentifier <;> cases hextension : file.fileExtension <;>
    simp [SourceFile.headerLines, SourceFile.headerCode, hidentifier, hextension,
      String.append_assoc]

/-- **Written files.** A file is written as its text, without the end of the last line. -/
theorem SourceFile.text_append_newline (file : SourceFile) : file.text ++ "\n" = file.code := by
  have hitems : file.items.map Item.text = file.items.map Item.code :=
    List.map_congr_left fun i _ => i.text_eq_code
  rw [SourceFile.text, joinLines_eq_unlines (by simp), hitems, SourceFile.code]
  cases file.usesSerialize <;>
    simp only [unlines_append, file.unlines_headerLines, String.append_assoc, if_true, if_false,
      Bool.false_eq_true, unlines_nil, String.empty_append]

/-! ## Paths -/

/-- The parts of a text between its double colons. -/
def segments : List Char → List (List Char)
  | [] => [[]]
  | ':' :: ':' :: rest => [] :: segments rest
  | c :: rest => (segments rest).modifyHead (c :: ·)

/-- The parts of a written path. -/
def pathParts (written : String) : List String :=
  (segments written.toList).map String.ofList

/-- Where a written path leads that is read inside some modules: from the root, if it starts there,
and from these modules otherwise. -/
def readPath (around : List String) (written : String) : List String × String :=
  let modules := (pathParts written).dropLast
  let ident := (pathParts written).getLastD ""
  if modules.head? = some "crate" then (modules.tail, ident) else (around ++ modules, ident)

theorem segments_cons {c : Char} (h : c ≠ ':') (rest : List Char) :
    segments (c :: rest) = (segments rest).modifyHead (c :: ·) := by
  rw [segments]
  rintro _ rfl
  exact absurd rfl h

/-- What stands in front of the first double colon is the first part. -/
theorem segments_append {part : List Char} (h : ':' ∉ part) (rest : List Char) :
    segments (part ++ ':' :: ':' :: rest) = part :: segments rest := by
  induction part with
  | nil => rfl
  | cons c part ih =>
    obtain ⟨hc, hpart⟩ := List.ne_and_not_mem_of_not_mem_cons h
    rw [List.cons_append, segments_cons hc.symm, ih hpart]
    rfl

theorem segments_eq_singleton {part : List Char} (h : ':' ∉ part) : segments part = [part] := by
  induction part with
  | nil => rfl
  | cons c part ih =>
    obtain ⟨hc, hpart⟩ := List.ne_and_not_mem_of_not_mem_cons h
    rw [segments_cons hc.symm, ih hpart]
    rfl

/-- Parts without colons are found again in the text that joins them. -/
theorem pathParts_intercalate {parts : List String} (hne : parts ≠ [])
    (h : ∀ part ∈ parts, ':' ∉ part.toList) : pathParts ("::".intercalate parts) = parts := by
  induction parts with
  | nil => exact absurd rfl hne
  | cons part rest ih =>
    obtain ⟨hpart, hrest⟩ := List.forall_mem_cons.mp h
    cases rest with
    | nil => simp [pathParts, segments_eq_singleton hpart]
    | cons next rest =>
      have hjoined : ("::".intercalate (part :: next :: rest)).toList =
          part.toList ++ ':' :: ':' :: ("::".intercalate (next :: rest)).toList := by
        simp [String.intercalate_cons_cons]
      rw [pathParts, hjoined, segments_append hpart, List.map_cons, String.ofList_toList]
      exact congrArg _ (ih (List.cons_ne_nil next rest) hrest)

theorem readPath_bare (around : List String) {ident : String} (h : ':' ∉ ident.toList) :
    readPath around (TypePath.bare ident).text = (around, ident) := by
  have hparts : pathParts (TypePath.bare ident).text = [ident] := by
    simp [pathParts, TypePath.text, segments_eq_singleton h]
  simp [readPath, hparts]

theorem readPath_rooted (around : List String) {modules : List String} {ident : String}
    (hmodules : ∀ part ∈ modules, ':' ∉ part.toList) (hident : ':' ∉ ident.toList) :
    readPath around (TypePath.rooted modules ident).text = (modules, ident) := by
  have hplain : ∀ part ∈ ["crate"] ++ modules ++ [ident], ':' ∉ part.toList := by
    simp only [List.mem_append, List.mem_singleton, or_imp, forall_and, forall_eq]
    exact ⟨⟨by decide, hmodules⟩, hident⟩
  have hparts : pathParts (TypePath.rooted modules ident).text = ["crate"] ++ modules ++ [ident] :=
    pathParts_intercalate (by simp) hplain
  simp only [readPath, hparts, List.dropLast_concat, List.getLastD_concat, List.singleton_append,
    List.head?_cons, List.tail_cons, if_true]

end WireSchema.Code
