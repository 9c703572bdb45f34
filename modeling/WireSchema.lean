import WireSchema.Files.Tree
import WireSchema.Main
import WireSchema.Proofs.Session.Compile
import WireSchema.Proofs.Session.WellFormed
import WireSchema.Proofs.Compiled.Stages
import WireSchema.Proofs.Compiled.Closed
import WireSchema.Proofs.Compiled.Calls
import WireSchema.Proofs.Session.Alike
import WireSchema.Proofs.Compiled.Rearranged
import WireSchema.Proofs.Source.Grammar
import WireSchema.Proofs.Source.Lexical
import WireSchema.Proofs.Source.Lexemes
import WireSchema.Proofs.Source.Tokens
import WireSchema.Proofs.Source.Verdict
import WireSchema.Proofs.Source.Judged
import WireSchema.Proofs.Source.Stops
import WireSchema.Proofs.Source.Places
import WireSchema.Proofs.Source.Trivia
import WireSchema.Proofs.Source.Parser
import WireSchema.Proofs.SymbolTable.WellFormed
import WireSchema.Proofs.SymbolTable.Numbering
import WireSchema.Proofs.Compiled.Vtable
import WireSchema.Proofs.Compiled.Files
import WireSchema.Proofs.Compiled.Leaves
import WireSchema.Proofs.Code.Emission
import WireSchema.Proofs.Code.References
import WireSchema.Proofs.Code.Partition
import WireSchema.Proofs.TypeName
import WireSchema.Proofs.Session.Resolution
import WireSchema.Proofs.Session.Grammatical
import WireSchema.Proofs.Compiled.Tables
import WireSchema.Proofs.Code.Identifier
import WireSchema.Proofs.Code.Hygiene
import WireSchema.Proofs.Code.Tables
import WireSchema.Proofs.Compiled.Unions
import WireSchema.Proofs.Code.Constants
import WireSchema.Proofs.Code.Unions
import WireSchema.Proofs.Compiled.Discriminant
import WireSchema.Proofs.Compiled.Evolution
import WireSchema.Proofs.Code.SnakeCase
import WireSchema.Proofs.Compiled.Names
import WireSchema.Proofs.Files.Tree
import WireSchema.Proofs.CommandLine.Delivery
