/-
The expressions of source files. Infix operators are read by how tightly they
bind (`climb`), with the restrictions that the grammar puts on ranges, chains
of comparisons, casts and assignments. Where `braces` does not hold, a name is
not followed by the fields of a struct: this is so in front of a block.
-/
import SchemaSync.Source.Grammar.Pattern
namespace SchemaSync.Source

namespace Tightness

def loosest : Tightness := 0
def assignment : Tightness := 1
def range : Tightness := 2
def disjunction : Tightness := 3
def conjunction : Tightness := 4
def comparison : Tightness := 5
def bitOr : Tightness := 6
def bitXor : Tightness := 7
def bitAnd : Tightness := 8
def shift : Tightness := 9
def sum : Tightness := 10
def product : Tightness := 11
def cast : Tightness := 12

end Tightness

namespace Grammar

/-! ## Infix operators -/

/-- The infix operators, those that others begin with behind the others. -/
def infixOperators : List (String × Tightness) :=
  [("+=", .assignment), ("-=", .assignment), ("*=", .assignment), ("/=", .assignment),
    ("%=", .assignment), ("^=", .assignment), ("&=", .assignment), ("|=", .assignment),
    ("<<=", .assignment), (">>=", .assignment), ("&&", .conjunction), ("||", .disjunction),
    ("<<", .shift), (">>", .shift), ("==", .comparison), ("<=", .comparison),
    ("!=", .comparison), (">=", .comparison), ("+", .sum), ("-", .sum), ("*", .product),
    ("/", .product), ("%", .product), ("^", .bitXor), ("&", .bitAnd), ("|", .bitOr),
    ("<", .comparison), (">", .comparison)]

/-- The infix operator in front, if there is one. -/
def infixOperator? (tokens : List Token) : Option (String × Tightness) :=
  infixOperators.find? fun (operator, _) => atMark operator tokens

/-- Whether an equals sign that assigns stands in front. -/
def atAssignment (tokens : List Token) : Bool :=
  atMark "=" tokens && !atOneOf ["=>", "=="] tokens

/-- How tightly what stands in front binds the expression before it. -/
def tightnessAt (tokens : List Token) : Tightness :=
  match infixOperator? tokens with
  | some (_, tightness) => tightness
  | none =>
    if atMark "=" tokens && !atMark "=>" tokens then .assignment
    else if atMark ".." tokens then .range
    else if atWord "as" tokens then .cast
    else .loosest

/-- Whether a range without an end may be followed by these tokens. -/
def atRangeEnd (braces : Bool) (tokens : List Token) : Bool :=
  tokens.isEmpty || atOneOf [",", ";", "?", "=>", "=", "+", "/", "%", "^", ">", "<=", "!=", "-=",
      "*=", "&=", "|=", "<<="] tokens ||
    (atMark "." tokens && !atMark ".." tokens) || (!braces && atGroup .brace tokens) ||
    atWord "as" tokens

/-- The dots of a range and its end, if it has one. -/
def rangeFromDots (g : Grammar) (braces : Bool) : Reading Unit := do
  let closed ← rangeDots
  if closed || !(← look (atRangeEnd braces)) then discard (g.operand braces .range)

/-- Fails where a cast is followed by what would belong to its type. -/
def castEnd : Reading Unit :=
  need fun tokens => !((atMark "." tokens && !atMark ".." tokens) || atMark "?" tokens ||
    atGroup .bracket tokens || atGroup .paren tokens)

/-- One more operator behind an expression, if one stands there that binds at least so tightly. -/
def climbStep (g : Grammar) (braces : Bool) (least : Tightness) (form : ExprForm) :
    Reading (Bool × ExprForm) := do
  let tokens ← get
  if form = .range then return (false, form)
  match infixOperator? tokens with
  | some (operator, tightness) =>
    if tightness < least then return (false, form)
    else
      let compares := decide (tightness = .comparison)
      guard !(compares && form = .comparison)
      mark operator
      discard (g.operand braces tightness)
      return (true, if compares then .comparison else .other)
  | none =>
    if least ≤ .assignment && atAssignment tokens then
      mark "="
      discard (g.operand braces .assignment)
      return (true, .other)
    else if least ≤ .range && atMark ".." tokens then
      g.rangeFromDots braces
      return (true, .range)
    else if least ≤ .cast && atWord "as" tokens then
      word "as"
      discard (g.type false)
      castEnd
      return (true, .other)
    else return (false, form)

/-- The operators behind an expression that bind at least so tightly. -/
def climb (g : Grammar) (braces : Bool) (least : Tightness) (form : ExprForm) : Reading ExprForm :=
  repeatStep (g.climbStep braces least) form

/-! ## Calls, fields and indices -/

/-- The arguments of a call. -/
def callArguments (g : Grammar) : Reading Unit :=
  discard <| inside .paren (commaSeparated (g.expression true))

/--
Field numbers that the lexer took for one number, as in `a.0.1`. Tells whether they are the whole
access: a point at their end calls for another field.
-/
def joinedFields : Reading Bool
  | .literal (.float digits suffix) :: rest =>
    let (whole, tenths) := digits.toList.span (· ≠ '.')
    let isOpen := tenths.tail.isEmpty
    let numbers := if isOpen then [whole] else [whole, tenths.tail]
    if suffix = "" ∧ numbers.all fun n => (Text.digits32? n).isSome then some (!isOpen, rest)
    else none
  | tokens => some (false, tokens)

/-- What follows a point: fields, a method with its arguments, or `await`. -/
def access (g : Grammar) : Reading Unit := do
  if ← joinedFields then return ()
  if ← tryWord "await" then return ()
  let named ← member
  if named then
    if ← look (atMark "::") then
      discard g.angleArguments
      g.callArguments
    else if ← look (atGroup .paren) then g.callArguments

/-- One more call, access or index behind an expression, if one stands there. -/
def trailStep (g : Grammar) (form : ExprForm) : Reading (Bool × ExprForm) := do
  let tokens ← get
  if atGroup .paren tokens then
    g.callArguments
    return (true, .other)
  else if atMark "." tokens && !atMark ".." tokens && form ≠ .range then
    mark "."
    g.access
    return (true, .other)
  else if atGroup .bracket tokens then
    discard <| inside .bracket (g.expression true)
    return (true, .other)
  else if atMark "?" tokens && form ≠ .range then
    mark "?"
    return (true, .other)
  else return (false, form)

/-- The calls, accesses and indices behind an expression. -/
def trail (g : Grammar) (form : ExprForm) : Reading ExprForm :=
  repeatStep g.trailStep form

/-! ## Blocks and loops -/

/-- Whether parameters for a closure stand in front, and no loop. -/
def atClosureBinder (tokens : List Token) : Bool :=
  atWord "for" tokens && atAngleParameters (second tokens)

/-- A condition with its block, and what is done otherwise. -/
def conditional (g : Grammar) : Reading Unit :=
  repeatStep (fun _ => do
    word "if"
    discard (g.expression false)
    g.block
    if ← tryWord "else" then
      if ← look (atWord "if") then return (true, ())
      g.block
    return (false, ())) ()

/-- A case of a choice. No comma is needed behind one that gives a block. -/
def choiceCase (g : Grammar) : Reading Unit := do
  discard g.outerAttributes
  discard g.anyPattern
  if ← tryWord "if" then discard (g.expression true)
  mark "=>"
  let form ← g.leading
  if form = .block || (← get).isEmpty then discard (tryMark ",") else mark ","

/-- A choice between cases. -/
def choice (g : Grammar) : Reading Unit := do
  discard (g.expression false)
  inside .brace do
    g.innerAttributes
    discard <| allParts g.choiceCase

/-- A loop, if one stands in front; tells whether one does. -/
def tryLoop (g : Grammar) : Reading Bool := do
  if ← tryWord "while" then
    discard (g.expression false)
    g.body
    return true
  else if ← tryWord "for" then
    discard g.anyPattern
    word "in"
    discard (g.expression false)
    g.body
    return true
  else if ← tryWord "loop" then
    g.body
    return true
  else return false

/-- A loop or a block with a label in front. -/
def labeled (g : Grammar) : Reading Unit := do
  lifetime
  mark ":"
  if !(← g.tryLoop) then g.block

/-- Whether a word with a block right behind it stands in front. -/
def atWordBlock (word : String) (tokens : List Token) : Bool :=
  atWord word tokens && atGroup .brace (second tokens)

/-- An expression that ends a statement by itself, if one stands in front; tells whether. -/
def tryBlockForm (g : Grammar) : Reading Bool := do
  let tokens ← get
  if atWord "if" tokens then
    g.conditional
    return true
  else if atClosureBinder tokens then return false
  else if ← g.tryLoop then return true
  else if ← tryWord "match" then
    g.choice
    return true
  else if atWordBlock "try" tokens then
    word "try"
    g.block
    return true
  else if ← tryWord "unsafe" then
    g.body
    return true
  else if atWordBlock "const" tokens then
    word "const"
    g.body
    return true
  else if atGroup .brace tokens then
    g.body
    return true
  else if atLifetime tokens then
    g.labeled
    return true
  else return false

/-! ## Closures -/

/-- Whether a closure stands in front. -/
def atClosure (tokens : List Token) : Bool :=
  let behind := second tokens
  atMark "|" tokens || atWord "move" tokens || atClosureBinder tokens ||
    (atWord "const" tokens && !atGroup .brace behind) || atWord "static" tokens ||
    (atWord "async" tokens && (atMark "|" behind || atWord "move" behind))

/-- A parameter of a closure. -/
def closureParameter (g : Grammar) : Reading Unit := do
  discard g.outerAttributes
  discard g.pattern
  if ← tryMark ":" then discard (g.type true)

/-- A closure: its parameters between bars, and what it gives. -/
def closure (g : Grammar) (braces : Bool) : Reading Unit := do
  discard g.binder
  discard (tryWord "const")
  discard (tryWord "static")
  discard (tryWord "async")
  discard (tryWord "move")
  mark "|"
  discard <| separatedBy "," (atMark "|") g.closureParameter
  mark "|"
  if ← tryMark "->" then
    discard (g.type true)
    g.block
  else discard (g.expression braces)

/-! ## Expressions that a word begins -/

/-- Whether an expression may begin here. -/
def atExpression (tokens : List Token) : Bool :=
  (atAnyWord tokens && !atWord "as" tokens) ||
    ([Delimiter.paren, .bracket, .brace].any fun d => atGroup d tokens) || atLiteral tokens ||
    (atMark "!" tokens && !atMark "!=" tokens) ||
    (atMark "-" tokens && !atOneOf ["-=", "->"] tokens) ||
    (atMark "*" tokens && !atMark "*=" tokens) || (atMark "|" tokens && !atMark "|=" tokens) ||
    (atMark "&" tokens && !atMark "&=" tokens) || atMark ".." tokens ||
    (atMark "<" tokens && !atOneOf ["<=", "<<="] tokens) || atOneOf ["::", "#"] tokens ||
    atLifetime tokens

/-- An expression, if one may begin here. -/
def tryExpression (g : Grammar) : Reading Unit := do
  if ← look atExpression then discard (g.expression true)

/-- What follows the word that leaves a loop or a block: a label and a value. -/
def exit (g : Grammar) (braces : Bool) : Reading Unit := do
  if ← look atLifetime then
    lifetime
    guard !(atMark ":" (← get))
  if braces || !(← look (atGroup .brace)) then g.tryExpression

/-- A pattern and the expression that it is matched with. -/
def binding (g : Grammar) (braces : Bool) : Reading Unit := do
  discard g.anyPattern
  mark "="
  let form ← g.unary braces
  discard (g.climb braces .comparison form)

/-! ## Groups -/

/-- What stands in parentheses: nothing, an expression, or several. -/
def parenthesizedExpressions (g : Grammar) : Reading Unit :=
  discard <| commaSeparated (g.expression true)

/-- What stands in brackets: elements, or one and how often it is repeated. -/
def bracketedExpressions (g : Grammar) : Reading Unit := do
  if ← look List.isEmpty then return ()
  discard (g.expression true)
  if ← tryMark ";" then discard (g.expression true)
  else if ← tryMark "," then discard <| commaSeparated (g.expression true)

/-- A field of a struct with its value. -/
def fieldValue (g : Grammar) : Reading Unit := do
  discard g.outerAttributes
  let named ← member
  if !named || (← look (atMark ":")) then
    mark ":"
    discard (g.expression true)

/-- The fields of a struct with their values, perhaps with dots and where the others come from. -/
def fieldValues (g : Grammar) : Reading Unit :=
  repeatStep (fun _ => do
    if ← look List.isEmpty then return (false, ())
    if ← tryMark ".." then
      if !(← look List.isEmpty) then discard (g.expression true)
      return (false, ())
    g.fieldValue
    return (← tryMark ",", ())) ()

/-- An expression that begins with a path. -/
def pathExpression (g : Grammar) (braces : Bool) : Reading ExprForm := do
  let path ← g.anyPath true
  let tokens ← get
  if atFreeGroup path tokens then
    return if (← freeGroup) = .brace then .bracedCall else .other
  else if braces && atGroup .brace tokens then
    inside .brace g.fieldValues
    return .other
  else return .other

/-! ## Expressions -/

/-- An expression that a word with a meaning of its own begins, if one stands in front. -/
def tryWordForm (g : Grammar) (braces : Bool) : Reading Bool := do
  if ← tryWord "break" then
    g.exit braces
    return true
  else if ← tryWord "continue" then
    tryLifetime
    return true
  else if ← tryWord "return" then
    g.tryExpression
    return true
  else if ← tryWord "become" then
    discard (g.expression true)
    return true
  else if ← tryWord "let" then
    g.binding braces
    return true
  else if ← tryWord "yield" then
    g.tryExpression
    return true
  else tryWord "_"

/-- Whether a block that runs later stands in front. -/
def atLaterBlock (tokens : List Token) : Bool :=
  let behind := second tokens
  atWord "async" tokens &&
    (atGroup .brace behind || (atWord "move" behind && atGroup .brace (second behind)))

/-- Whether an expression that begins with a path stands in front. -/
def atPathExpression (tokens : List Token) : Bool :=
  atPathWord tokens || atOneOf ["::", "<"] tokens ||
    (atWord "try" tokens && atOneOf ["!", "::"] (second tokens))

/-- An expression without operators, calls and accesses around it. -/
def atom (g : Grammar) (braces : Bool) : Reading ExprForm := do
  let tokens ← get
  if atLiteral tokens then
    literal
    return .other
  else if atLaterBlock tokens then
    word "async"
    discard (tryWord "move")
    g.block
    return .other
  else if atClosure tokens then
    g.closure braces
    return .other
  else if atWord "builtin" tokens && atMark "#" (second tokens) then
    word "builtin"
    mark "#"
    discard freeName
    guard ((← anyGroup).1 = .paren)
    return .other
  else if atPathExpression tokens then g.pathExpression braces
  else if atGroup .paren tokens then
    inside .paren g.parenthesizedExpressions
    return .other
  else if atGroup .bracket tokens then
    inside .bracket g.bracketedExpressions
    return .other
  else if ← g.tryBlockForm then return .block
  else if atMark ".." tokens then
    g.rangeFromDots braces
    return .range
  else
    guard (← g.tryWordForm braces)
    return .other

/-- A reference to what follows, behind its mark. -/
def reference (g : Grammar) (braces : Bool) : Reading Unit := do
  let tokens ← get
  let behind := second tokens
  if atWord "raw" tokens && (atWord "mut" behind || atWord "const" behind) then
    discard anyWord
    discard anyWord
  else discard (tryWord "mut")
  discard (g.unary braces)

/-- An expression without infix operators. No attributes may stand before a range. -/
def readUnary (g : Grammar) (braces : Bool) : Reading ExprForm := do
  let attributes ← g.outerAttributes
  if ← tryMark "&" then
    g.reference braces
    return .other
  else if ← look (atOneOf ["*", "!", "-"]) then
    modify List.tail
    discard (g.unary braces)
    return .other
  else
    let form ← g.trail (← g.atom braces)
    guard (attributes.isEmpty || form ≠ .range)
    return form

/-- The right operand of an infix operator: it takes the operators that bind more tightly. -/
def readOperand (g : Grammar) (braces : Bool) (tightness : Tightness) : Reading ExprForm := do
  repeatStep (fun form => do
    let before ← get
    let next := tightnessAt before
    if tightness < next || (next = tightness && next = .assignment) then
      let form ← g.climb braces next form
      return ((← get).length < before.length, form)
    else return (false, form)) (← g.readUnary braces)

/-- An expression. -/
def readExpression (g : Grammar) (braces : Bool) : Reading ExprForm := do
  g.climb braces .loosest (← g.readUnary braces)

/-- An expression at the beginning of a statement: a block there ends it, unless a point follows. -/
def readLeading (g : Grammar) : Reading ExprForm := do
  discard g.outerAttributes
  if ← g.tryBlockForm then
    let tokens ← get
    if (atMark "." tokens && !atMark ".." tokens) || atMark "?" tokens then
      g.climb true .loosest (← g.trail .block)
    else return .block
  else g.readExpression true

end Grammar

end SchemaSync.Source
