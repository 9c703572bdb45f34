/-
WireSchema.Token — positioned tokens of a schema text.

`Token.scan` cuts a text into pieces, drops white space and comments, and ends the list with an empty
token at the end of the text. Where no piece starts it reports the stretch up to the next place where
one does.
-/
import WireSchema.Lexeme
import WireSchema.ParseError

namespace WireSchema

/-- A token and where it starts. The end of a text is an empty token. -/
structure Token where
  text : String
  pos : Position
  deriving DecidableEq

namespace Token

/-- Whether a token marks the end of the text. -/
def isEnd (t : Token) : Bool :=
  t.text.isEmpty

/-- The stretch at the front of a text in which no piece starts. -/
def unlexed (before : Option Char) : List Char → List Char
  | [] => []
  | c :: cs => if (lexeme? before (c :: cs)).isSome then [] else c :: unlexed (some c) cs

/-- The tokens of a text that stands at `pos` after the character `before`. -/
def scanFrom (before : Option Char) (pos : Position) (cs : List Char) :
    Except ParseError (List Token) :=
  match cs with
  | [] => .ok [⟨"", pos⟩]
  | c :: rest =>
    match h : lexeme? before (c :: rest) with
    | none => .error ⟨pos, .unlexed (String.ofList (unlexed before (c :: rest)))⟩
    | some lexeme =>
      let piece := (c :: rest).take lexeme.length
      have := lexeme?_pos h
      match scanFrom piece.getLast? (pos.advance piece) ((c :: rest).drop lexeme.length) with
      | .error e => .error e
      | .ok tokens =>
        if lexeme.kind.isTrivia then .ok tokens
        else .ok (⟨String.ofList piece, pos⟩ :: tokens)
termination_by cs.length
decreasing_by
  simp only [List.length_drop, List.length_cons]
  omega

/-- The tokens of a schema text, an empty one last. -/
def scan (text : String) : Except ParseError (List Token) :=
  scanFrom none .start text.toList

end Token

end WireSchema
