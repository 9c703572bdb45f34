/-
WireSchema.Error — every reason a schema, a setting or a file is refused.

Each cause is a constructor with the data its message needs; `Error.kind` classifies the causes and
`Error.message` is the only place where they become text.

* `BuildFault` — a declaration breaks a rule of its own file.
* `Violation` — a file breaks a rule that needs the whole session.
* `InternalFault` — a step was handed something an earlier step should have refused.
* `IoFault` — a file could not be read or written.
-/
import WireSchema.Kind
import WireSchema.Literal
import WireSchema.ParseError
import WireSchema.TypeName

namespace WireSchema

open WireSchema.Text (quote)

/-- The classes of error. -/
inductive ErrorKind where
  | io
  | parse
  | duplicateDefinition
  | reservedIdentifier
  | typeResolution
  | typeCompatibility
  | structural
  | value
  | unknownAttribute
  | internal
  deriving DecidableEq

/-- The words that open the message of an error of this class. -/
def ErrorKind.heading : ErrorKind → String
  | io => "I/O error: "
  | parse => "Parse error "
  | duplicateDefinition => "Duplicate definition: "
  | reservedIdentifier => "Reserved identifier: "
  | typeResolution => "Type not found: "
  | typeCompatibility => "Type mismatch: "
  | structural => "Structural error: "
  | value => "Invalid value: "
  | unknownAttribute => "Unknown attribute: "
  | internal => "Internal error: "

/-! ## Rules of one file -/

/-- A declaration that breaks a rule of its own file. -/
inductive BuildFault where
  | repeatedNamespace (new previous : List String)
  | repeatedAttribute (name : String)
  | reservedAttribute (name : String)
  | primitiveRoot (name : String)
  | repeatedExtension (previous new : String)
  | identifierLength (required : Nat) (identifier : String)
  | repeatedIdentifier (previous new : String)
  | repeatedType (name : String)
  | enumBase (underlying enum : String)
  | qualifiedEnumName (enum name : String)
  | enumOverflow (enum name : String)
  | repeatedEnumValue (enum : String) (value : Int)
  | repeatedEnumName (enum name : String)
  | enumRange (enum : String) (value : Int) (name : String) (underlying : Primitive)
  | unionMemberValue (union member : String) (value : Int)
  | repeatedMember (union member : String)
  | repeatedField (field : String) (kind : Kind) (owner : String)
  | forceAlign (value : Option Literal)
  deriving DecidableEq

/-- The class of a fault. -/
def BuildFault.kind : BuildFault → ErrorKind
  | repeatedNamespace .. | repeatedAttribute .. | repeatedExtension .. | repeatedIdentifier ..
  | repeatedType .. | repeatedMember .. | repeatedField .. => .duplicateDefinition
  | reservedAttribute .. => .reservedIdentifier
  | primitiveRoot .. => .structural
  | enumBase .. => .typeCompatibility
  | identifierLength .. | qualifiedEnumName .. | enumOverflow .. | repeatedEnumValue ..
  | repeatedEnumName .. | enumRange .. | unionMemberValue .. | forceAlign .. => .value

/-- The text of a fault, without its heading. -/
def BuildFault.detail : BuildFault → String
  | repeatedNamespace new previous =>
    "Unexpected namespace declaration " ++ quote (dotted new) ++ ", " ++ quote (dotted previous) ++
      " was declared before"
  | repeatedAttribute name => "Attribute " ++ quote name ++ " defined multiple times"
  | reservedAttribute name => "Attribute " ++ quote name ++ " is reserved"
  | primitiveRoot name => "Primitive type " ++ quote name ++ " can't be declared as root type"
  | repeatedExtension previous new =>
    "Multiple file extensions " ++ quote previous ++ " and " ++ quote new
  | identifierLength required identifier =>
    "File identifiers need to be exactly " ++ toString required ++ " bytes long but " ++
      quote identifier ++ " is " ++ toString identifier.utf8ByteSize ++ " bytes long"
  | repeatedIdentifier previous new =>
    "Multiple file identifiers " ++ quote previous ++ " and " ++ quote new
  | repeatedType name => "Type " ++ quote name ++ " already exists"
  | enumBase underlying enum =>
    "Type " ++ quote underlying ++ " can't be used as base for enum " ++ quote enum
  | qualifiedEnumName enum name =>
    "Enum " ++ quote enum ++ " declares qualified identifier " ++ quote name
  | enumOverflow enum name => "Enum " ++ quote enum ++ ": value of " ++ quote name ++ " overflows"
  | repeatedEnumValue enum value =>
    "Duplicate value for enum " ++ quote enum ++ ": " ++ toString value
  | repeatedEnumName enum name =>
    "Duplicate identifier for enum " ++ quote enum ++ ": " ++ quote name
  | enumRange enum value name underlying =>
    "Enum " ++ quote enum ++ ": value " ++ toString value ++ " of " ++ quote name ++
      " does not fit in " ++ underlying.name
  | unionMemberValue union member value =>
    "Can't assign values to union members (union=" ++ quote union ++ ", member=" ++ quote member ++
      ", value=" ++ toString value ++ ")"
  | repeatedMember union member =>
    "Union " ++ quote union ++ " lists member " ++ quote member ++ " twice"
  | repeatedField field kind owner =>
    "Duplicate field " ++ quote field ++ " in " ++ kind.name ++ " " ++ quote owner
  | forceAlign value =>
    "force_align needs a positive integer, found " ++
      match value with
      | some literal => quote literal.text
      | none => "nothing"

/-! ## Rules of a session -/

/-- Where in a file a rule is broken. -/
inductive Location where
  | field (field : String) (kind : Kind) (owner : String)
  | declaration (kind : Kind) (owner : String)
  deriving DecidableEq

/-- The words for a location. -/
def Location.text : Location → String
  | field name kind owner => "Field " ++ quote name ++ " in " ++ kind.name ++ " " ++ quote owner
  | declaration kind owner => kind.name ++ " " ++ quote owner

/-- A rule that a session breaks. -/
inductive Violation where
  | repeatedName (name : TypeName) (first second : String)
  | rootNotTable (root : String) (kind : Kind)
  | rootMissing (root : String)
  | unionTooLarge (union : String) (count : Nat) (discriminant : Primitive) (limit : Nat)
  | memberNotTable (member union : String) (kind : Kind)
  | memberMissing (member union : String)
  | fieldTypeMissing (field : String) (kind : Kind) (owner typeLiteral typeName : String)
  | defaultOnArray (location : Location) (typeLiteral : String)
  | defaultNotInEnum (location : Location) (value : Literal) (names : List String)
  | defaultNotInPrimitive (location : Location) (value : Literal) (primitive : Primitive)
  | defaultOnAggregate (location : Location) (typeLiteral : String)
  | notFixedSize (location : Location) (typeLiteral : String)
  | deprecatedInStruct (location : Location)
  | requiredScalar (location : Location)
  | forceAlignPlace (location : Location)
  | forceAlignValue (location : Location) (limit bytes : Nat)
  | undeclaredAttribute (location : Location) (name : String)
  deriving DecidableEq

/-- The class of a violation. -/
def Violation.kind : Violation → ErrorKind
  | repeatedName .. => .duplicateDefinition
  | rootNotTable .. | memberNotTable .. | notFixedSize .. | deprecatedInStruct ..
  | forceAlignPlace .. => .structural
  | rootMissing .. | memberMissing .. | fieldTypeMissing .. => .typeResolution
  | unionTooLarge .. | forceAlignValue .. => .value
  | defaultOnArray .. | defaultNotInEnum .. | defaultNotInPrimitive .. | defaultOnAggregate ..
  | requiredScalar .. => .typeCompatibility
  | undeclaredAttribute .. => .unknownAttribute

/-- The text of a violation, without its heading. -/
def Violation.detail : Violation → String
  | repeatedName name first second =>
    "Type " ++ quote name.text ++ " is defined in both " ++ quote first ++ " and " ++ quote second
  | rootNotTable root kind =>
    "Type " ++ quote root ++ " was declared to be root but is a " ++ kind.name ++ ", not a table"
  | rootMissing root => "Type " ++ quote root ++ " was declared to be root but doesn't exist"
  | unionTooLarge union count discriminant limit =>
    "Union " ++ quote union ++ " has " ++ toString count ++ " members but a " ++
      discriminant.name ++ " discriminant holds at most " ++ toString limit
  | memberNotTable member union kind =>
    "Type " ++ quote member ++ " was used in union " ++ quote union ++ " but is a " ++ kind.name ++
      ", not a table"
  | memberMissing member union =>
    "Type " ++ quote member ++ " was used in union " ++ quote union ++ " but doesn't exist"
  | fieldTypeMissing field kind owner typeLiteral typeName =>
    (if kind == .struct then "Struct " else "Table ") ++ quote owner ++ " defines field " ++
      quote field ++ " of type " ++ typeLiteral ++ ", but " ++ quote typeName ++ " can't be found"
  | defaultOnArray location typeLiteral =>
    location.text ++ ": Can't assign value to array type " ++ typeLiteral
  | defaultNotInEnum location value names =>
    location.text ++ ": invalid enum value " ++ quote value.text ++ ", possible values are: [" ++
      ", ".intercalate names ++ "]"
  | defaultNotInPrimitive location value primitive =>
    location.text ++ ": " ++ quote value.text ++ " is not a valid " ++ primitive.name ++ " value"
  | defaultOnAggregate location typeLiteral =>
    location.text ++ ": Can't assign value to user defined type " ++ typeLiteral
  | notFixedSize location typeLiteral =>
    location.text ++ ": structs can only hold scalars, enums and structs, not " ++ typeLiteral
  | deprecatedInStruct location => location.text ++ ": struct fields can't be deprecated"
  | requiredScalar location =>
    location.text ++ ": only non-scalar table fields can be required"
  | forceAlignPlace location => location.text ++ ": force_align only applies to structs"
  | forceAlignValue location limit bytes =>
    location.text ++ ": force_align must be a power of two up to " ++ toString limit ++
      ", found " ++ toString bytes
  | undeclaredAttribute location name =>
    location.text ++ " uses attribute " ++ quote name ++ ", which was never declared"

/-! ## Faults between steps -/

/-- Something an earlier step should have refused. -/
inductive InternalFault where
  | listedButMissing (name : String)
  | neverDeclared (name : TypeName)
  | layoutNotReady (field : String) (owner type : TypeName)
  | notCached (name : TypeName)
  | lost (name : TypeName)
  | neverCompiled (name : TypeName)
  | defaultSurvived (value : Literal) (field : String)
  deriving DecidableEq

/-- The text of a fault between steps, without its heading. -/
def InternalFault.detail : InternalFault → String
  | listedButMissing name => "Declaration " ++ quote name ++ " is listed but missing"
  | neverDeclared name => quote name.text ++ " is ordered but was never declared"
  | layoutNotReady field owner type =>
    "field " ++ quote field ++ " of " ++ quote owner.text ++ " needs the layout of " ++
      quote type.text ++ ", which was not computed yet"
  | notCached name => "layout of " ++ quote name.text ++ " was not cached"
  | lost name => quote name.text ++ " lost during compilation"
  | neverCompiled name => quote name.text ++ " is ordered but was never compiled"
  | defaultSurvived value field =>
    "default " ++ quote value.text ++ " of field " ++ quote field ++ " survived validation"

/-! ## Files -/

/-- Why a file could not be read or written. -/
inductive IoFault where
  | notFound
  | isDirectory
  | notDirectory
  | alreadyExists
  | invalidText
  | other (text : String)
  deriving DecidableEq

/-- The text of a file fault. -/
def IoFault.detail : IoFault → String
  | notFound => "No such file or directory (os error 2)"
  | isDirectory => "Is a directory (os error 21)"
  | notDirectory => "Not a directory (os error 20)"
  | alreadyExists => "File exists (os error 17)"
  | invalidText => "stream did not contain valid UTF-8"
  | other text => text

/-! ## All errors -/

/-- Every reason for which a run stops. -/
inductive Error where
  | io (fault : IoFault)
  | parse (error : ParseError)
  | build (fault : BuildFault)
  | repeatedFile (path : String)
  | discriminant (name : String)
  | settings
  | unresolved (name : String)
  | rule (violation : Violation)
  | cycle (names : List TypeName)
  | internal (fault : InternalFault)
  | fileNotCompiled (path : String)
  | variantClash (union member : TypeName)
  | outputClash (first second output : String)
  deriving DecidableEq

namespace Error

/-- The class of an error. -/
def kind : Error → ErrorKind
  | io _ => .io
  | parse _ => .parse
  | build fault => fault.kind
  | repeatedFile _ => .duplicateDefinition
  | unresolved _ => .typeResolution
  | rule violation => violation.kind
  | cycle _ => .structural
  | internal _ => .internal
  | discriminant _ | settings | fileNotCompiled _ | variantClash .. | outputClash .. => .value

/-- The text of an error, without its heading. -/
def detail : Error → String
  | io fault => fault.detail
  | parse error =>
    "at line " ++ toString error.pos.line ++ ", column " ++ toString error.pos.column ++ ": " ++
      error.fault.message
  | build fault => fault.detail
  | repeatedFile path => "File " ++ quote path ++ " was registered twice"
  | discriminant name =>
    quote name ++ " can't be used as union discriminant, use an unsigned 1 or 2 byte integer"
  | settings => "Invalid config"
  | unresolved name => quote name
  | rule violation => violation.detail
  | cycle names =>
    "cyclic dependency between types: " ++ ", ".intercalate (names.map TypeName.text)
  | internal fault => fault.detail
  | fileNotCompiled path => quote path ++ " is not part of the compiled session"
  | variantClash union member =>
    "Union " ++ quote union.text ++ " has no distinct Rust variant name for member " ++
      quote member.text
  | outputClash first second output =>
    first ++ " and " ++ second ++ " would both be written to " ++ output

/-- The text of an error. -/
def message (e : Error) : String :=
  e.kind.heading ++ e.detail

end Error

end WireSchema
