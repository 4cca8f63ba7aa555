import Termbase.Settings.Yaml.Grammar
import Termbase.Settings.Yaml.Layout

namespace Termbase.Yaml

namespace Token

def isOutside : Token → Bool
  | .directive _ => true
  | .documentStart => true
  | .documentEnd => true
  | _ => false

end Token

/-- Reads the directives in front of a document and gives the address of a handle. Each directive
takes the place of all before it, and only one may be a version. -/
def directives? (hasVersion : Bool) (handles : List (String × String)) :
    List Token → Option (List (String × String) × List Token)
  | .directive .version :: tokens => if hasVersion then none else directives? true [] tokens
  | .directive (.handle name address) :: tokens =>
    directives? hasVersion [(name, address)] tokens
  | tokens => some (handles, tokens)

namespace Grammar

def opening : Grammar Unit := do
  let source ← get
  let (handles, tokens) ← StateT.lift (directives? false [] source.tokens)
  set { source with handles := handles, tokens := tokens }
  expect .documentStart

def isAtEnd : Grammar Bool := do return (← next?).all Token.isOutside

/-- Reads a document, which may lack a start. -/
def document (fuel : Nat) : Grammar Node := do
  if ← isAtEnd then
    opening
    if ← isAtEnd then return .nothing
  node fuel true false

end Grammar

def withoutEnds (tokens : List Token) : List Token := tokens.dropWhile (· = .documentEnd)

/-- The node of the one document of a text. A text without any is an empty mapping. -/
def Node.ofTokens? (tokens : List Token) : Option Node :=
  match withoutEnds tokens with
  | [] => some (.mapping [])
  | tokens => do
    let (node, source) ←
      (Grammar.document (4 * tokens.length + 4)).run (Source.ofTokens tokens)
    if (withoutEnds source.tokens).isEmpty then some node else none

end Termbase.Yaml
