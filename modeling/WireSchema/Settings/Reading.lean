/-
WireSchema.Settings.Reading — settings from the text of a settings file.

A section is a record, or a list that gives its entries in order. A record may hold entries nobody
knows, but no known entry twice; what a section leaves out keeps its default.
-/
import WireSchema.Settings
import WireSchema.Settings.Outline

namespace WireSchema

namespace Settings

/-- The entries of a section with the given entry names. -/
def section? (names : List String) : Outline → Option (List (String × Outline))
  | .record members => do
    let named ← members.mapM fun (key, value) => do return (← unitsText? key, value)
    let known := named.filter fun entry => names.contains entry.1
    if (known.map (·.1)).Nodup then some known else none
  | .list items => if items.length ≤ names.length then some (names.zip items) else none
  | .flag _ | .text _ | .other => none

/-- An entry read by `read?`, or its default if it is left out. -/
def entryD? {α : Type} (entries : List (String × Outline)) (name : String)
    (read? : Outline → Option α) (default : α) : Option α :=
  match entries.lookup name with
  | some outline => read? outline
  | none => some default

/-- An entry that is a text. -/
def text? : Outline → Option String
  | .text units => unitsText? units
  | _ => none

/-- An entry that is a flag. -/
def flag? : Outline → Option Bool
  | .flag value => some value
  | _ => none

/-- The section of the compilation. -/
def compiler? (outline : Outline) : Option CompilerSettings := do
  let defaults : CompilerSettings := {}
  let entries ← section? ["union_discriminant"] outline
  return ⟨← entryD? entries "union_discriminant" text? defaults.unionDiscriminant⟩

/-- The section of the emitted code. -/
def code? (outline : Outline) : Option CodeSettings := do
  let defaults : CodeSettings := {}
  let entries ← section? ["serde_derives", "emit_layout_constants"] outline
  return {
    deriveSerialize := ← entryD? entries "serde_derives" flag? defaults.deriveSerialize
    emitLayoutConstants :=
      ← entryD? entries "emit_layout_constants" flag? defaults.emitLayoutConstants }

/-- All settings. -/
def ofOutline? (outline : Outline) : Option Settings := do
  let entries ← section? ["compiler", "rust"] outline
  return {
    compiler := ← entryD? entries "compiler" compiler? {}
    code := ← entryD? entries "rust" code? {} }

/-- The settings a text describes. -/
def ofText (text : String) : Except Error Settings :=
  match (Outline.read? text).bind ofOutline? with
  | some settings => .ok settings
  | none => .error .settings

end Settings

end WireSchema
