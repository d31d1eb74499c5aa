import MessageCatalog.Go.Grammar

/-! # From source to tree

`parse` cuts a source into lexemes, reads the tokens by the grammar, and puts the comments back
into the tree, each into the innermost node that it stands in.  A source that does not follow
the grammar has no tree; the location given instead is that of the declaration or statement
that could not be read.
-/

namespace MessageCatalog.Go

namespace Node

mutual

/-- Put nodes that lie inside a node, in the order of the text, among its descendants. -/
def weave (extra : List Node) : Node → Node
  | mk k r s t cs => mk k r s t (weaveAll extra cs)

/-- Put nodes among siblings: into the sibling that each stands in, or between two. -/
def weaveAll (extra : List Node) : List Node → List Node
  | [] => extra
  | n :: ns =>
    let (before, rest) := extra.span (·.start.offset < n.start.offset)
    let (inside, later) := rest.span (·.start.offset < n.stop.offset)
    before ++ n.weave inside :: weaveAll later ns

end

end Node

/-- Read tokens by a pattern of the grammar. -/
def Grammar.read? (p : Grammar.P) (tokens : List Token) : Option Pattern.State :=
  p.run Grammar.rules (200 * (tokens.length + 4)) ⟨true, true, false⟩ ⟨tokens, Place.origin, []⟩

/-- Where reading stops: the first token of what could not be read. -/
def Grammar.stuck (tokens : List Token) : Location :=
  let readable := Pattern.many (.seq (.rule .topLevel) .terminator)
  match Grammar.read? readable tokens with
  | some s => (Pattern.nextStart s).location
  | none => ⟨1, 1⟩

/-- The syntax tree of a source, or where it is at fault. -/
def parse (source : String) : Except Location Node := do
  let lexemes ← Token.ofSource source
  let tokens := lexemes.filter fun t => t.lexeme ≠ .blank ∧ t.lexeme ≠ .comment
  let comments := (lexemes.filter (·.lexeme = .comment)).map (Pattern.tokenNode .comment)
  match Grammar.read? (.rule .source) tokens with
  | some s =>
    let stop := source.toList.foldl Place.after Place.origin
    return .mk .sourceFile none Place.origin stop (Node.weaveAll comments s.nodes.reverse)
  | none => .error (Grammar.stuck tokens)

end MessageCatalog.Go
