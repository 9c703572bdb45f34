/-
WireSchema.SymbolTable.Build — the symbol table of one parsed file.

Declarations are taken in order; the first that breaks a rule of its file stops the build. Nothing is
resolved: type names stay as written.
-/
import WireSchema.Error
import WireSchema.Number.Reading
import WireSchema.Source
import WireSchema.SymbolTable

namespace WireSchema

/-- Recognises one metadata entry. Only `force_align` looks at its value. -/
def Metadata.ofEntry (entry : Source.MetadataEntry) : Except BuildFault Metadata :=
  if entry.name == "deprecated" then .ok .deprecated
  else if entry.name == "required" then .ok .required
  else if entry.name == "key" then .ok .key
  else if entry.name == "force_align" then
    match entry.value with
    | some (.integer n) =>
      if 0 < n && n ≤ maxForceAlign then .ok (.forceAlign n.toNat)
      else .error (.forceAlign entry.value)
    | _ => .error (.forceAlign entry.value)
  else if isReserved entry.name then .ok (.builtin entry.name entry.value)
  else .ok (.user entry.name entry.value)

/-- Recognises metadata entries in order. -/
def Metadata.ofEntries (entries : List Source.MetadataEntry) : Except BuildFault (List Metadata) :=
  entries.mapM ofEntry

namespace Symbol

/-! ## Enums -/

/-- The value of a constant: the one written, or one more than the value before it. -/
def enumValue (enum : String) (last : Int) (constant : Source.Value) : Except BuildFault Int :=
  match constant.value with
  | some explicit => .ok explicit
  | none =>
    if last < Number.maxInteger then .ok (last + 1)
    else .error (.enumOverflow enum constant.name)

/-- Numbers the constants of an enum. `last` is the value before the next constant and `done` holds
the constants so far. -/
def enumValues (enum : String) (underlying : Primitive) (least greatest last : Int)
    (done : List EnumValue) : List Source.Value → Except BuildFault (List EnumValue)
  | [] => .ok done
  | constant :: rest =>
    if constant.name.toList.contains '.' then
      .error (.qualifiedEnumName enum constant.name)
    else
      match enumValue enum last constant with
      | .error fault => .error fault
      | .ok value =>
        if done.any fun v => v.value == value then .error (.repeatedEnumValue enum value)
        else if done.any fun v => v.name == constant.name then
          .error (.repeatedEnumName enum constant.name)
        else if value < least || greatest < value then
          .error (.enumRange enum value constant.name underlying)
        else
          enumValues enum underlying least greatest value (done ++ [⟨constant.name, value⟩]) rest

/-- Builds an enum: the base is an integer primitive, names and values are distinct and fit it. -/
def Enum.ofSource (decl : Source.Enum) : Except BuildFault Enum := do
  match Primitive.ofName? decl.underlying with
  | none => throw (.enumBase decl.underlying decl.name)
  | some underlying =>
    match underlying.integerRange? with
    | none => throw (.enumBase decl.underlying decl.name)
    | some (least, greatest) =>
      let values ← enumValues decl.name underlying least greatest (-1) [] decl.values
      let metadata ← Metadata.ofEntries decl.metadata
      return ⟨decl.name, underlying, values, metadata⟩

/-! ## Unions -/

/-- The members of a union; none has a value and none occurs twice. -/
def unionMembers (union : String) (done : List String) :
    List Source.Value → Except BuildFault (List String)
  | [] => .ok done
  | member :: rest =>
    match member.value with
    | some value => .error (.unionMemberValue union member.name value)
    | none =>
      if done.contains member.name then .error (.repeatedMember union member.name)
      else unionMembers union (done ++ [member.name]) rest

/-- Builds a union. -/
def Union.ofSource (decl : Source.Union) : Except BuildFault Union := do
  let members ← unionMembers decl.name [] decl.members
  let metadata ← Metadata.ofEntries decl.metadata
  return ⟨decl.name, members, metadata⟩

/-! ## Structs and tables -/

/-- Builds the fields of a struct or a table; their names are distinct. -/
def fieldsOf (kind : Kind) (owner : String) (done : List Field) :
    List Source.Field → Except BuildFault (List Field)
  | [] => .ok done
  | field :: rest =>
    if done.any fun f => f.name == field.name then
      .error (.repeatedField field.name kind owner)
    else
      match Metadata.ofEntries field.metadata with
      | .error fault => .error fault
      | .ok metadata =>
        let built : Field :=
          ⟨field.name, field.pos, field.typeName, field.isArray, field.default, metadata⟩
        fieldsOf kind owner (done ++ [built]) rest

/-- Builds a struct or a table. -/
def Compound.ofSource (kind : Kind) (decl : Source.Compound) : Except BuildFault Compound := do
  let fields ← fieldsOf kind decl.name [] decl.fields
  let metadata ← Metadata.ofEntries decl.metadata
  return ⟨decl.name, decl.pos, fields, metadata⟩

end Symbol

namespace SymbolTable

/-- Refuses the name of a type that exists. -/
def checkNew (file : SymbolTable) (name : String) : Except BuildFault Unit :=
  if file.typeExists name then .error (.repeatedType name) else .ok ()

/-- Adds one declaration to a symbol table. -/
def declare (file : SymbolTable) : Source.Declaration → Except BuildFault SymbolTable
  | .includeFile path => .ok { file with includes := file.includes ++ [path] }
  | .inNamespace path =>
    match file.namespacePath with
    | some previous => .error (.repeatedNamespace path previous)
    | none => .ok { file with namespacePath := some path }
  | .attributeName name =>
    if file.attributes.contains name then .error (.repeatedAttribute name)
    else if Metadata.isReserved name then .error (.reservedAttribute name)
    else .ok { file with attributes := file.attributes ++ [name] }
  | .rootType name =>
    if (Primitive.ofName? name).isSome then .error (.primitiveRoot name)
    else if file.rootTypes.contains name then .ok file
    else .ok { file with rootTypes := file.rootTypes ++ [name] }
  | .fileExtension extension =>
    match file.fileExtension with
    | some previous => .error (.repeatedExtension previous extension)
    | none => .ok { file with fileExtension := some extension }
  | .fileIdentifier identifier =>
    if identifier.utf8ByteSize != Wire.fileIdentifierLength then
      .error (.identifierLength Wire.fileIdentifierLength identifier)
    else
      match file.fileIdentifier with
      | some previous => .error (.repeatedIdentifier previous identifier)
      | none => .ok { file with fileIdentifier := some identifier }
  | .enum decl => do
    file.checkNew decl.name
    let built ← Symbol.Enum.ofSource decl
    return { file with
      enums := file.enums.insert decl.name built
      declarationOrder := file.declarationOrder ++ [decl.name] }
  | .union decl => do
    file.checkNew decl.name
    let built ← Symbol.Union.ofSource decl
    return { file with
      unions := file.unions.insert decl.name built
      declarationOrder := file.declarationOrder ++ [decl.name] }
  | .struct decl => do
    file.checkNew decl.name
    let built ← Symbol.Compound.ofSource .struct decl
    return { file with
      structs := file.structs.insert decl.name built
      declarationOrder := file.declarationOrder ++ [decl.name] }
  | .table decl => do
    file.checkNew decl.name
    let built ← Symbol.Compound.ofSource .table decl
    return { file with
      tables := file.tables.insert decl.name built
      declarationOrder := file.declarationOrder ++ [decl.name] }

/-- The symbol table of a schema. -/
def build (schema : Source.Schema) : Except BuildFault SymbolTable :=
  schema.foldlM declare {}

end SymbolTable

end WireSchema
