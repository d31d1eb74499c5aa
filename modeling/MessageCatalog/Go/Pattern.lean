import MessageCatalog.Go.Token

/-! # Patterns over tokens

A grammar is data: a pattern for each of its rules.  `Pattern.run` reads tokens by a pattern,
trying alternatives in order and never coming back to one that has matched, and collects the
nodes of the tree.

* **Line breaks.**  Every pattern that takes a token skips the line breaks before it.  Where a
  line break may end a statement, `sameLine` refuses to go on after one; inside parentheses
  and the like it never does (`Mode.breaks`).
* **Nodes.**  `leaf` leaves a node for a token, `node` one for all that a pattern matched, and
  `wrap` makes the node read last the first child of a new one, which is how a postfix or an
  infix operator takes what stands before it.
* **Fuel.**  A run is bounded by a number that the caller computes from the length of the
  input; it is only there to make `run` total.
-/

namespace MessageCatalog.Go

/-- What is significant where a pattern is matched. -/
structure Mode where
  /-- A line break may end a statement here. -/
  breaks : Bool
  /-- A named type may be followed by a composite literal's braces here. -/
  literals : Bool
  /-- This is the subject of a switch, where `.(type)` ends it. -/
  subject : Bool
deriving DecidableEq, Repr, Inhabited

/-- A test of one token. -/
inductive Test where
  /-- A word of the list. -/
  | keyword (words : List String)
  /-- A word not of the list. -/
  | name (reserved : List String)
  /-- A symbol of the list. -/
  | symbol (symbols : List String)
  /-- A lexeme of a class. -/
  | lexeme (kind : Lexeme)
deriving Repr

/-- The test accepts the token. -/
def Test.accepts (t : Token) : Test → Bool
  | keyword ws => t.lexeme = .word && ws.contains t.text
  | name ws => t.lexeme = .word && !ws.contains t.text
  | symbol ss => t.lexeme = .symbol && ss.contains t.text
  | lexeme k => t.lexeme = k

/-- Patterns over tokens, with the rules of a grammar as their names. -/
inductive Pattern (ρ : Type) where
  /-- Nothing. -/
  | empty
  /-- One token, without a node. -/
  | token (test : Test)
  /-- One token, as a node. -/
  | leaf (kind : Kind) (test : Test)
  /-- An operator of one operand, cut off the front of a longer symbol if need be. -/
  | unaryOperator
  /-- The end of a statement: a line break, a semicolon, or the end of the text. -/
  | terminator
  /-- The end of the text. -/
  | done
  /-- No significant line break comes next. -/
  | sameLine
  /-- The mode passes a test. -/
  | mode (test : Mode → Bool)
  /-- The node read last passes a test. -/
  | recent (test : Node → Bool)
  /-- One pattern after the other. -/
  | seq (p q : Pattern ρ)
  /-- The first pattern or else the second. -/
  | alt (p q : Pattern ρ)
  /-- The second pattern after the first, or the third where the first does not match. -/
  | branch (p q r : Pattern ρ)
  /-- As many matches as there are. -/
  | many (p : Pattern ρ)
  /-- The pattern would match; nothing is taken. -/
  | ahead (p : Pattern ρ)
  /-- The pattern would not match; nothing is taken. -/
  | absent (p : Pattern ρ)
  /-- All that the pattern matches becomes one node. -/
  | node (kind : Kind) (p : Pattern ρ)
  /-- The node read last, in a role if one is given, and what the pattern matches become one
  node. -/
  | wrap (kind : Kind) (role : Option Role) (p : Pattern ρ)
  /-- The node that the pattern leaves gets a role. -/
  | inRole (role : Role) (p : Pattern ρ)
  /-- The pattern in another mode. -/
  | within (change : Mode → Mode) (p : Pattern ρ)
  /-- The pattern of a rule. -/
  | rule (r : ρ)

namespace Pattern

variable {ρ : Type}

/-- Patterns one after the other. -/
def seqs : List (Pattern ρ) → Pattern ρ
  | [] => .empty
  | [p] => p
  | p :: ps => .seq p (seqs ps)

/-- The first of the patterns that matches. -/
def alts : List (Pattern ρ) → Pattern ρ
  | [] => .absent .empty
  | [p] => p
  | p :: ps => .alt p (alts ps)

/-- The pattern or nothing. -/
def opt (p : Pattern ρ) : Pattern ρ := .alt p .empty

/-! ### Running a pattern -/

/-- The tokens ahead, the end of the token taken last, and the nodes so far, last first. -/
structure State where
  tokens : List Token
  last : Place
  nodes : List Node
deriving Inhabited

/-- The tokens ahead without line breaks at the front. -/
def skipBreaks (ts : List Token) : List Token := ts.dropWhile (·.lexeme = .lineBreak)

/-- Take a token that passes a test. -/
def take? (test : Test) (s : State) : Option (Token × State) :=
  match skipBreaks s.tokens with
  | t :: ts => if test.accepts t then some (t, { s with tokens := ts, last := t.stop }) else none
  | [] => none

/-- A node for a token. -/
def tokenNode (kind : Kind) (t : Token) : Node := .mk kind none t.start t.stop []

/-- Where the next token starts. -/
def nextStart (s : State) : Place :=
  match skipBreaks s.tokens with
  | t :: _ => t.start
  | [] => s.last

/-- Take an operator of one operand; what is left of a longer symbol stays. -/
def takeUnary? (s : State) : Option State :=
  match skipBreaks s.tokens with
  | t :: ts =>
    if t.lexeme ≠ .symbol then none
    else if t.text = "<-" then some { s with tokens := ts, last := t.stop }
    else match t.text.toList with
      | c :: cs =>
        if ['+', '-', '!', '^', '*', '&'].contains c then
          let p := t.start.after c
          let rest := if cs.isEmpty then ts else ⟨.symbol, String.ofList cs, p, t.stop⟩ :: ts
          some { s with tokens := rest, last := p }
        else none
      | [] => none
  | [] => none

/-- Take the end of a statement; the end of the text is not taken. -/
def takeTerminator? (s : State) : Option State :=
  match s.tokens with
  | [] => some s
  | t :: ts =>
    if t.lexeme = .lineBreak || (t.lexeme = .symbol && (t.text = ";" || t.text = "\x00")) then
      some { s with tokens := ts, last := t.stop }
    else none

/-- Read tokens by a pattern of a grammar. -/
def run (grammar : ρ → Pattern ρ) : Nat → Mode → Pattern ρ → State → Option State
  | 0, _, _, _ => none
  | fuel + 1, m, p, s => match p with
    | empty => some s
    | token test => (take? test s).map (·.2)
    | leaf kind test => (take? test s).map fun (t, s') =>
      { s' with nodes := tokenNode kind t :: s'.nodes }
    | unaryOperator => takeUnary? s
    | terminator => takeTerminator? s
    | done => if (skipBreaks s.tokens).isEmpty then some s else none
    | sameLine => match m.breaks, s.tokens with
      | true, t :: _ => if t.lexeme = .lineBreak then none else some s
      | _, _ => some s
    | mode test => if test m then some s else none
    | recent test => match s.nodes with
      | n :: _ => if test n then some s else none
      | [] => none
    | seq p q => (run grammar fuel m p s).bind fun s' => run grammar fuel m q s'
    | alt p q => match run grammar fuel m p s with
      | some s' => some s'
      | none => run grammar fuel m q s
    | branch p q r => match run grammar fuel m p s with
      | some s' => run grammar fuel m q s'
      | none => run grammar fuel m r s
    | many p => match run grammar fuel m p s with
      | some s' => run grammar fuel m (many p) s'
      | none => some s
    | ahead p => (run grammar fuel m p s).map fun _ => s
    | absent p => match run grammar fuel m p s with
      | some _ => none
      | none => some s
    | node kind p => (run grammar fuel m p { s with nodes := [] }).map fun s' =>
      { s' with nodes := .mk kind none (nextStart s) s'.last s'.nodes.reverse :: s.nodes }
    | wrap kind role p => match s.nodes with
      | n :: ns => (run grammar fuel m p { s with nodes := [] }).map fun s' =>
        let first := match role with
          | some r => n.withRole r
          | none => n
        { s' with nodes := .mk kind none n.start s'.last (first :: s'.nodes.reverse) :: ns }
      | [] => none
    | inRole role p => (run grammar fuel m p s).map fun s' => match s'.nodes with
      | n :: ns => { s' with nodes := n.withRole role :: ns }
      | [] => s'
    | within change p => run grammar fuel (change m) p s
    | rule r => run grammar fuel m (grammar r) s

end Pattern

end MessageCatalog.Go
