import MessageCatalog.Go.Pattern

/-! # The grammar of Go sources

The patterns of declarations, statements, expressions and types.  Reading is by syntax alone,
and wider than the language: the package clause may be missing, statements may stand outside
functions, and a comma before a line break is never needed.

* **Keywords.**  A word is a keyword only where its keyword may stand; elsewhere it is an
  identifier.
* **Braces.**  In the header of an `if`, `for` or `switch` a named type is not followed by a
  composite literal: the brace opens the body.
* **Conversion or call.**  `T(x)` with one operand is a conversion when `T` can only be a type
  (`[]byte`, `chan int`, `struct{}`, …) or is a name with type arguments, `name[A, B]` or
  `pkg.name[A]`; otherwise it is a call.
* **`new` and `make`** are calls whose first argument is a type.
-/

namespace MessageCatalog.Go

/-- The rules of the grammar. -/
inductive Rule where
  | source
  | topLevel
  | statement
  | block
  | statements
  | caseStatements
  | simpleStatement
  | initializer
  | ifStatement
  | typeSwitchHead
  | varSpec
  | constSpec
  | typeSpec
  | importSpec
  | expression
  | expressions
  | conjunction
  | comparison
  | sum
  | product
  | unary
  | primary
  | operand
  | suffix
  | argumentList
  | typeArgumentList
  | literalValue
  | literalElement
  | anyType
  | simpleType
  | typeName
  | typeArguments
  | typeUnion
  | typeParameters
  | literalType
  | convertible
  | parameters
  | result
  | field
  | interfaceElement
deriving DecidableEq, Repr

namespace Grammar

open Pattern

/-- Patterns of this grammar. -/
abbrev P := Pattern Rule

/-! ### Words and symbols -/

/-- Keywords at the start of a statement. -/
def statementWords : List String := ["var", "const", "type", "return", "go", "defer", "if", "for",
  "switch", "select", "fallthrough", "break", "continue", "goto"]

/-- Keywords at the start of a type. -/
def typeWords : List String := ["struct", "interface", "map", "chan", "func"]

/-- Keywords at the start of an expression. -/
def expressionWords : List String := typeWords ++ ["nil", "true", "false", "iota", "new", "make"]

/-- Operators that assign. -/
def assignments : List String := ["=", ":=", "+=", "-=", "|=", "^=", "*=", "/=", "%=", "<<=",
  ">>=", "&=", "&^="]

/-- A symbol. -/
def sym (s : String) : P := .token (.symbol [s])

/-- A symbol on the same line as what stands before it. -/
def next (s : String) : P := .seq .sameLine (sym s)

/-- A keyword. -/
def kw (w : String) : P := .token (.keyword [w])

/-- Any word, where no keyword may stand. -/
def name : P := .token (.name [])

/-- A string literal. -/
def string : P :=
  .alt (.leaf .interpretedStringLiteral (.lexeme .interpreted))
    (.leaf .rawStringLiteral (.lexeme .raw))

/-- A pattern again and again, with a separator between two. -/
def sepBy (p separator : P) : P := .seq p (.many (.seq separator p))

/-! ### Modes -/

/-- Between parentheses and the like no line break is significant. -/
def nested (p : P) : P := .within (fun _ => ⟨false, true, false⟩) p

/-- Between the braces of a body line breaks end statements. -/
def body (p : P) : P := .within (fun _ => ⟨true, true, false⟩) p

/-- In the header of a statement a brace opens the body. -/
def header (p : P) : P := .within (fun _ => ⟨false, false, false⟩) p

/-- In the header of a switch `.(type)` ends the subject as well. -/
def subject (p : P) : P := .within (fun _ => ⟨false, false, true⟩) p

/-- Where no body can follow, braces are literal again. -/
def literals (p : P) : P := .within (fun m => { m with literals := true, subject := false }) p

/-- A pattern in parentheses. -/
def parens (p : P) : P := nested (seqs [sym "(", p, sym ")"])

/-- A pattern in brackets. -/
def brackets (p : P) : P := nested (seqs [sym "[", p, sym "]"])

/-- A pattern in braces, as literals have them. -/
def braces (p : P) : P := nested (seqs [sym "\x7b", p, sym "\x7d"])

/-- A pattern in braces, as bodies have them. -/
def bodyBraces (p : P) : P := body (seqs [sym "\x7b", p, sym "\x7d"])

/-- Items on lines of their own, or divided by semicolons. -/
def items (p : P) : P := opt (.seq (sepBy p .terminator) (opt .terminator))

/-- One declaration, or several in parentheses with each on its own line. -/
def declarations (spec : P) : P :=
  .alt (body (seqs [sym "(", .many (.seq spec .terminator), sym ")"])) spec

/-- An item of a list that may end in a comma. -/
def commaList (p : P) : P := .seq (sepBy p (sym ",")) (opt (sym ","))

/-! ### Statements -/

/-- An expression, or an assignment, send or step whose right side is given. -/
def simpleWith (values value : P) : P :=
  .seq (.rule .expression) (alts [
    seqs [.many (.seq (next ",") (.rule .expression)), .sameLine, .token (.symbol assignments),
      values],
    .seq (next "<-") value,
    .seq .sameLine (.token (.symbol ["++", "--"])),
    .empty])

/-- A clause of a switch or select. -/
def clause (head : P) : P :=
  .seq (.alt (.seq (kw "case") (nested head)) (kw "default"))
    (.seq (nested (sym ":")) (.rule .caseStatements))

/-- The clauses of a switch or select. -/
def clauses (head : P) : P := bodyBraces (.many (clause head))

/-- An initializer with its semicolon, if there is one, and then a pattern. -/
def initialized (p : P) : P := .branch (.seq (.rule .initializer) (sym ";")) p p

/-- What a `for` repeats over. -/
def forHead : P := alts [
  .seq (opt (.seq (.rule .expressions) (.token (.symbol ["=", ":="]))))
    (.seq (kw "range") (.rule .expression)),
  .seq (.absent (kw "range")) (alts [
    seqs [opt (.rule .initializer), sym ";", opt (.rule .expression), sym ";",
      opt (.rule .simpleStatement)],
    .rule .expression]),
  .empty]

/-- A channel operation of a select clause. -/
def communication : P := alts [
  seqs [.rule .expression, sym "<-", .rule .expression],
  seqs [.rule .expressions, .token (.symbol ["=", ":="]), .rule .expression],
  .rule .expression]

/-- A statement. -/
def statement : P := alts [
  .seq (kw "var") (declarations (.rule .varSpec)),
  .seq (kw "const") (declarations (.rule .constSpec)),
  .seq (kw "type") (declarations (.rule .typeSpec)),
  .seq (kw "return") (opt (.seq .sameLine (.rule .expressions))),
  .seq (.token (.keyword ["go", "defer"])) (.rule .expression),
  .rule .ifStatement,
  seqs [kw "for", header forHead, .rule .block],
  .seq (kw "switch") (.branch (subject (.rule .typeSwitchHead))
    (clauses (sepBy (.rule .anyType) (sym ",")))
    (.seq (subject (initialized (opt (.rule .expression)))) (clauses (.rule .expressions)))),
  .seq (kw "select") (clauses communication),
  kw "fallthrough",
  .seq (.token (.keyword ["break", "continue"])) (opt (.seq .sameLine name)),
  .seq (kw "goto") name,
  .rule .block,
  sym ";",
  .seq (.absent (.token (.keyword statementWords))) (alts [
    seqs [.token (.name expressionWords), next ":",
      .alt (.ahead (.alt (sym "\x7d") (.token (.keyword ["case", "default"])))) (.rule .statement)],
    .rule .simpleStatement])]

/-- A declaration that stands outside functions, or a statement there. -/
def topLevel : P := alts [
  .seq (kw "package") name,
  .seq (kw "import") (.alt (body (seqs [sym "(", items (.rule .importSpec), sym ")"]))
    (.rule .importSpec)),
  seqs [kw "func", name, opt (.rule .typeParameters), .rule .parameters, .rule .result,
    opt (.seq .sameLine (.rule .block))],
  seqs [kw "func", .rule .parameters, name, .rule .parameters, .rule .result,
    opt (.seq .sameLine (.rule .block))],
  .seq (.absent (.token (.keyword ["package", "import"]))) (.rule .statement)]

/-! ### Expressions -/

/-- Operands with operators of one rank between them, joined from the left. -/
def leftJoined (operators : List String) (operand : P) : P :=
  .seq operand (.many (.wrap .binaryExpression (some .left) (seqs [.sameLine,
    .inRole .operator (.leaf .operator (.symbol operators)), .inRole .right operand])))

/-- The parenthesized operand of a conversion. -/
def convertedOperand : P :=
  .seq .sameLine (parens (.seq (.rule .expression) (opt (sym ","))))

/-- A word that is an expression of its own kind. -/
def wordLiteral (kind : Kind) (w : String) : P := .leaf kind (.keyword [w])

/-- The first part of a primary expression. -/
def operand : P := alts [
  string,
  .leaf .intLiteral (.lexeme .int),
  .leaf .floatLiteral (.lexeme .float),
  .leaf .imaginaryLiteral (.lexeme .imaginary),
  .leaf .runeLiteral (.lexeme .rune),
  wordLiteral .nilLiteral "nil",
  wordLiteral .trueLiteral "true",
  wordLiteral .falseLiteral "false",
  wordLiteral .iota "iota",
  .seq (.leaf .identifier (.keyword ["new", "make"])) (.branch (.ahead (next "("))
    (.wrap .callExpression none (.inRole .arguments (.rule .typeArgumentList))) .empty),
  .node .funcLiteral (seqs [kw "func", nested (.seq (.rule .parameters) (.rule .result)),
    .rule .block]),
  .seq (.node .implicitLengthArrayType (.seq (brackets (sym "...")) (.rule .anyType)))
    (.wrap .compositeLiteral none (.rule .literalValue)),
  .seq (.rule .literalType) (.wrap .compositeLiteral none (.rule .literalValue)),
  .seq (.rule .convertible) (.wrap .typeConversionExpression none convertedOperand),
  .seq (.mode (·.literals)) (.seq (.rule .typeName)
    (.wrap .compositeLiteral none (.seq .sameLine (.rule .literalValue)))),
  .leaf .identifier (.name expressionWords),
  .node .parenthesizedExpression (parens (.rule .expression))]

/-- The node is a name, perhaps of another package. -/
def isTypeName (n : Node) : Bool :=
  n.kind = .identifier || (n.kind = .selectorExpression && n.children.all (·.kind = .identifier))

/-- What may follow an operand. -/
def suffix : P := .seq .sameLine (alts [
  .wrap .selectorExpression none (.seq (sym ".") name),
  .seq (.alt (.mode (!·.subject)) (.absent (.seq (sym ".") (parens (kw "type")))))
    (.wrap .typeAssertionExpression none (.seq (sym ".") (parens (.rule .anyType)))),
  .wrap .callExpression none (.inRole .arguments (.rule .argumentList)),
  .wrap .indexExpression none (brackets (.rule .expression)),
  .wrap .sliceExpression none (brackets (seqs [opt (.rule .expression), sym ":",
    opt (.seq (.rule .expression) (opt (.seq (sym ":") (.rule .expression))))])),
  .wrap .callExpression none (.seq (.rule .typeArguments)
    (.inRole .arguments (.seq .sameLine (.rule .argumentList)))),
  .seq (.recent isTypeName) (.wrap .typeInstantiationExpression none
    (brackets (commaList (.rule .anyType))))])

/-- An expression with operators before it. -/
def unary : P := alts [
  .seq (.ahead (.token (.symbol ["*", "<-"])))
    (.seq (.rule .convertible) (.wrap .typeConversionExpression none convertedOperand)),
  .node .unaryExpression (.seq .unaryOperator (.rule .unary)),
  .rule .primary]

/-- An argument, perhaps spread. -/
def argument : P :=
  .seq (.rule .expression) (opt (.wrap .variadicArgument none (sym "...")))

/-! ### Types -/

/-- A type but for one in parentheses. -/
def simpleType : P := alts [
  .node .pointerType (.seq (sym "*") (.rule .anyType)),
  .rule .literalType,
  .node .channelType (.alt (seqs [kw "chan", opt (sym "<-"), .rule .anyType])
    (seqs [sym "<-", kw "chan", .rule .anyType])),
  .node .functionType (seqs [kw "func", .rule .parameters, .rule .result]),
  .node .interfaceType (.seq (kw "interface") (bodyBraces (items (.rule .interfaceElement)))),
  .node .negatedType (.seq (sym "~") (.rule .anyType)),
  .rule .typeName]

/-- A type that an expression cannot be, or a name with type arguments. -/
def convertible : P := alts [
  .node .pointerType (.seq (sym "*") (.rule .convertible)),
  .node .parenthesizedType (parens (.rule .convertible)),
  .seq (.rule .typeName) (.recent (·.kind = .genericType)),
  .seq (.absent (.alt (sym "*") (.token (.name typeWords)))) (.rule .simpleType)]

/-- A parameter: a type, perhaps after a name. -/
def parameter : P := alts [
  seqs [opt (.token (.name typeWords)), sym "...", .rule .anyType],
  seqs [.token (.name typeWords), .rule .anyType, .ahead (.token (.symbol [",", ")"]))],
  .rule .anyType]

/-- A field of a structure: an embedded type, or names with a type. -/
def field : P := .alt
  (seqs [opt (sym "*"), .rule .typeName, opt (.seq .sameLine string),
    .ahead (.alt .terminator (sym "\x7d"))])
  (seqs [sepBy name (sym ","), .sameLine, .rule .anyType, opt (.seq .sameLine string)])

/-! ### The rules -/

/-- The pattern of each rule. -/
def rules : Rule → P
  | .source => .seq (.many (.seq (.rule .topLevel) .terminator)) .done
  | .topLevel => topLevel
  | .statement => statement
  | .block => bodyBraces (.rule .statements)
  | .statements => items (.rule .statement)
  | .caseStatements => body (items (.seq (.absent (.token (.keyword ["case", "default"])))
      (.rule .statement)))
  | .simpleStatement => simpleWith (.rule .expressions) (.rule .expression)
  | .initializer => simpleWith (literals (.rule .expressions)) (literals (.rule .expression))
  | .ifStatement => seqs [kw "if", header (initialized (.rule .expression)), .rule .block,
      opt (seqs [.sameLine, kw "else", .alt (.rule .ifStatement) (.rule .block)])]
  | .typeSwitchHead => initialized (seqs [
      opt (.seq (.rule .expressions) (sym ":=")), .rule .expression, sym ".", sym "(", kw "type",
      sym ")"])
  | .varSpec => .seq (sepBy name (sym ",")) (.alt
      (.seq (sym "=") (.rule .expressions))
      (.seq (.rule .anyType) (opt (.seq (next "=") (.rule .expressions)))))
  | .constSpec => .seq (sepBy name (next ",")) (opt (.seq .sameLine (.alt
      (.seq (sym "=") (.rule .expressions))
      (seqs [.rule .anyType, next "=", .rule .expressions]))))
  | .typeSpec => .seq name (alts [
      seqs [opt (.rule .typeParameters), sym "=", .rule .anyType],
      .seq (.rule .typeParameters) (.rule .anyType),
      .rule .anyType])
  | .importSpec => .seq (opt (.alt (sym ".") name)) string
  | .expression => leftJoined ["||"] (.rule .conjunction)
  | .expressions => sepBy (.rule .expression) (next ",")
  | .conjunction => leftJoined ["&&"] (.rule .comparison)
  | .comparison => leftJoined ["==", "!=", "<", "<=", ">", ">="] (.rule .sum)
  | .sum => leftJoined ["+", "-", "|", "^"] (.rule .product)
  | .product => leftJoined ["*", "/", "%", "<<", ">>", "&", "&^"] (.rule .unary)
  | .unary => unary
  | .primary => .seq (.rule .operand) (.many (.rule .suffix))
  | .operand => operand
  | .suffix => suffix
  | .argumentList => .node .argumentList (parens (opt (commaList argument)))
  | .typeArgumentList => .node .argumentList (parens (opt (seqs [.rule .anyType,
      .many (.seq (sym ",") (.rule .expression)), opt (sym ",")])))
  | .literalValue => braces (.seq (opt (sepBy (.seq (.rule .literalElement)
      (opt (.seq (sym ":") (.rule .literalElement)))) (sym ","))) (opt (sym ",")))
  | .literalElement => .alt (.rule .expression) (.rule .literalValue)
  | .anyType => .alt (.rule .simpleType) (.node .parenthesizedType (parens (.rule .anyType)))
  | .simpleType => simpleType
  | .typeName => seqs [.leaf .typeIdentifier (.name typeWords),
      opt (.wrap .qualifiedType none (.seq (next ".") name)),
      opt (.wrap .genericType none (.seq .sameLine (.rule .typeArguments)))]
  | .typeArguments => brackets (commaList (.rule .typeUnion))
  | .typeUnion => sepBy (.rule .anyType) (next "|")
  | .typeParameters => brackets (commaList (.seq (sepBy name (sym ",")) (.rule .typeUnion)))
  | .literalType => alts [
      .node .sliceType (seqs [sym "[", sym "]", .rule .anyType]),
      .node .arrayType (.seq (brackets (.rule .expression)) (.rule .anyType)),
      .node .mapType (seqs [kw "map", brackets (.rule .anyType), .rule .anyType]),
      .node .structType (.seq (kw "struct") (bodyBraces (items (.rule .field))))]
  | .convertible => convertible
  | .parameters => parens (.seq (opt (sepBy parameter (sym ","))) (opt (sym ",")))
  | .result => opt (.seq .sameLine (.alt (.rule .parameters) (.rule .simpleType)))
  | .field => field
  | .interfaceElement => .alt (seqs [name, .sameLine, .rule .parameters, .rule .result])
      (.rule .typeUnion)

end Grammar

end MessageCatalog.Go
