/-
WireSchema.Code.Render — the text of emitted code.

* `Item.lines` — the lines of one emitted type.
* `SourceFile.text` — the text of one file.
* `generate` — the text for every file of a compiled session.
-/
import WireSchema.Code.Emit

namespace WireSchema.Code

/-- Lines joined by newlines, the last one without. -/
def joinLines (lines : List String) : String :=
  "\n".intercalate lines

/-- The text of a type path. -/
def TypePath.text : TypePath → String
  | bare ident => ident
  | rooted modules ident => "::".intercalate (["crate"] ++ modules ++ [ident])

/-- The text of a type. -/
def BaseType.text : BaseType → String
  | native name => name
  | named path => path.text

/-- The text of a field's type. -/
def FieldItem.typeText (f : FieldItem) : String :=
  match f.holder with
  | .plain => f.type.text
  | .optional => "Option<" ++ f.type.text ++ ">"
  | .vector => "Vec<" ++ f.type.text ++ ">"

/-- The text of a value. -/
def Value.text : Value → String
  | variant path ident => path.text ++ "::" ++ ident
  | verbatim text => text

/-- The text of an initial value. -/
def Initial.text : Initial → String
  | fallback => "Default::default()"
  | plain value => value.text
  | present value => "Some(" ++ value.text ++ ")"

/-- The line that derives traits. -/
def derivesLine (traits : List String) : String :=
  "#[derive(" ++ ", ".intercalate traits ++ ")]"

/-- The line of a field. -/
def FieldItem.line (f : FieldItem) : String :=
  "    pub " ++ f.ident ++ ": " ++ f.typeText ++ ","

/-- The line of a constant. -/
def Constant.line (c : Constant) : String :=
  "    pub const " ++ c.name ++ ": usize = " ++ toString c.value ++ ";"

/-- The constants for size and alignment. -/
def extentConstants (e : Extent) : List Constant :=
  [⟨"SIZE", e.size⟩, ⟨"ALIGN", e.alignment⟩]

/-- The lines that implement the default of a type whose fields have initial values. -/
def defaultLines (ident : String) (initials : List (String × Initial)) : List String :=
  ["",
   "impl Default for " ++ ident ++ " \x7b",
   "    fn default() -> Self \x7b",
   "        Self \x7b",
   joinLines (initials.map fun (field, value) => "            " ++ field ++ ": " ++ value.text ++ ","),
   "        \x7d",
   "    \x7d",
   "\x7d"]

/-- The lines of an enum. -/
def EnumItem.lines (e : EnumItem) : List String :=
  [derivesLine e.derives,
   "#[repr(" ++ e.representation ++ ")]",
   "pub enum " ++ e.ident ++ " \x7b",
   joinLines (e.variants.map fun (ident, value) => "    " ++ ident ++ " = " ++ toString value ++ ","),
   "\x7d"] ++
    match e.default with
    | none => []
    | some variant =>
      ["",
       "impl Default for " ++ e.ident ++ " \x7b",
       "    fn default() -> Self \x7b",
       "        " ++ e.ident ++ "::" ++ variant,
       "    \x7d",
       "\x7d"]

/-- The line that gives a variant's tag. -/
def tagLine (ident : String) (tag : Nat) : String :=
  "            Self::" ++ (if tag == 0 then ident else ident ++ "(_)") ++ " => " ++ toString tag ++ ","

/-- The lines of a union. -/
def UnionItem.lines (u : UnionItem) : List String :=
  [derivesLine u.derives,
   "pub enum " ++ u.ident ++ " \x7b",
   "    #[default]",
   "    " ++ noMember ++ ","] ++
    u.variants.map (fun (ident, path) => "    " ++ ident ++ "(" ++ path.text ++ "),") ++
    ["\x7d",
     "",
     "impl " ++ u.ident ++ " \x7b"] ++
    (match u.extent with
      | some extent => (extentConstants extent).map Constant.line ++ [""]
      | none => []) ++
    ["    pub fn tag(&self) -> " ++ u.tagType ++ " \x7b",
     "        match self \x7b"] ++
    u.tags.map (fun (ident, tag) => tagLine ident tag) ++
    ["        \x7d",
     "    \x7d",
     "\x7d"]

/-- The lines of a struct. -/
def StructItem.lines (s : StructItem) : List String :=
  [derivesLine s.derives,
   "#[repr(C, align(" ++ toString s.alignment ++ "))]",
   "pub struct " ++ s.ident ++ " \x7b",
   joinLines (s.fields.map FieldItem.line),
   "\x7d"] ++
    (match s.initials with
      | some initials => defaultLines s.ident initials
      | none => []) ++
    match s.extent with
    | none => []
    | some extent =>
      ["",
       "impl " ++ s.ident ++ " \x7b"] ++ (extentConstants extent).map Constant.line ++
        ["\x7d",
         "",
         "const _: () = assert!(std::mem::size_of::<" ++ s.ident ++ ">() == " ++ s.ident ++ "::SIZE);"]

/-- The lines of a table. -/
def TableItem.lines (t : TableItem) : List String :=
  [derivesLine t.derives,
   "pub struct " ++ t.ident ++ " \x7b",
   joinLines (t.fields.map FieldItem.line),
   "\x7d"] ++
    (match t.initials with
      | some initials => defaultLines t.ident initials
      | none => []) ++
    match t.constants with
    | none => []
    | some constants =>
      ["",
       "impl " ++ t.ident ++ " \x7b"] ++ constants.map Constant.line ++
        ["\x7d"]

/-- The lines of an item. -/
def Item.lines : Item → List String
  | enum item => item.lines
  | union item => item.lines
  | struct item => item.lines
  | table item => item.lines

/-- The text of an item, a newline at its end. -/
def Item.text (item : Item) : String :=
  joinLines item.lines ++ "\n"

/-- The constants for the identifier and the extension of a file. -/
def SourceFile.headerLines (file : SourceFile) : List String :=
  let identifier := file.fileIdentifier.map fun text =>
    "pub const FILE_IDENTIFIER: &str = " ++ stringLiteral text ++ ";"
  let extension := file.fileExtension.map fun text =>
    "pub const FILE_EXTENSION: &str = " ++ stringLiteral text ++ ";"
  let constants := identifier.toList ++ extension.toList
  if constants.isEmpty then [] else constants ++ [""]

/-- The text of a file of code. -/
def SourceFile.text (file : SourceFile) : String :=
  joinLines <|
    ["// Generated by flowflat from " ++ file.path ++ ". Do not edit.", ""] ++
    file.modules.map (fun ident => "pub mod " ++ ident ++ " \x7b") ++
    (if file.usesSerialize then ["use serde::Serialize;", ""] else []) ++
    file.headerLines ++
    file.items.map Item.text ++
    file.modules.map fun _ => "\x7d"

/-- The code for the compiled file with a path. -/
def text (compiled : Compiled) (path : String) (settings : CodeSettings) : Except Error String :=
  SourceFile.text <$> SourceFile.ofCompiled compiled path settings

/-- The code for every file of a compiled session, with the file's path. -/
def generate (compiled : Compiled) (settings : CodeSettings) :
    Except Error (List (String × String)) :=
  compiled.files.mapM fun file => do
    return (file.path, ← text compiled file.path settings)

end WireSchema.Code
