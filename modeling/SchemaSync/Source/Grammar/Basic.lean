/-
The grammar of source files, by levels. The parts of source text hold one
another: a type may hold an expression, an expression a block, a block items,
and items types again. A `Grammar` has a reader for each part that can stand
inside another one; the modules below this one say how each part is read
when a grammar is given for what stands inside it. `Grammar.ofDepth` closes
the circle: every step down takes a token, so that as many levels as there
are tokens read all there is.

This module has the grammar's type, and attributes, which stand everywhere.
-/
import SchemaSync.Source.Item
import SchemaSync.Source.Reading
namespace SchemaSync.Source

/-- What the rest of a statement or an operator must know of an expression. -/
inductive ExprForm where
  /-- A range, which operators do not take on their left. -/
  | range
  /-- A comparison, which is not compared again. -/
  | comparison
  /-- An expression that ends a statement by itself, such as a block or a loop. -/
  | block
  /-- A call with an exclamation mark and its arguments in braces. -/
  | bracedCall
  | other
  deriving DecidableEq, Repr

/-- How tightly an operator binds; a greater number binds more tightly. -/
abbrev Tightness := Nat

/-- Which bounds may stand where a bound is read. -/
structure BoundRules where
  /-- Whether captured parameters may be listed, as in `use<'a, T>`. -/
  captures : Bool
  /-- Whether a trait may be marked as constant. -/
  constants : Bool

/-- Bounds of parameters and associated types. -/
def BoundRules.parameter : BoundRules := ⟨false, true⟩

/-- Bounds of trait objects. -/
def BoundRules.object : BoundRules := ⟨false, false⟩

/-- Bounds of types that are only described by traits. -/
def BoundRules.hiddenType : BoundRules := ⟨true, true⟩

/-- Readers for the parts of source text that may stand inside other parts. -/
structure Grammar where
  /-- A type; where `plus` holds, plus signs may add bounds to it. -/
  type : (plus : Bool) → Reading TypeExpr
  /-- A bound; tells whether it is a trait. -/
  bound : BoundRules → Reading Bool
  /-- An expression; where `braces` holds, it may be a struct with its fields in braces. -/
  expression : (braces : Bool) → Reading ExprForm
  /-- An expression without infix operators. -/
  unary : (braces : Bool) → Reading ExprForm
  /-- The right operand of an infix operator that binds so tightly. -/
  operand : (braces : Bool) → Tightness → Reading ExprForm
  /-- An expression at the beginning of a statement, where a block ends it. -/
  leading : Reading ExprForm
  /-- A pattern without alternatives; tells whether it is a range without one of its ends. -/
  pattern : Reading Bool
  /-- The statements of a block, up to the end of the tokens. -/
  statements : Reading Unit
  /-- An item behind its attributes. -/
  item : List Attribute → Reading Item

namespace Grammar

/-- The grammar that reads nothing. -/
def empty : Grammar where
  type _ := failure
  bound _ := failure
  expression _ := failure
  unary _ := failure
  operand _ _ := failure
  leading := failure
  pattern := failure
  statements := failure
  item _ := failure

/-! ## Attributes -/

/-- A path of plain names. -/
def plainPath : Reading Path := do
  let rooted ← tryMark "::"
  let segments ← repeatStep (fun names => do
    need atPathWord
    let names := names ++ [← anyWord]
    return (← tryMark "::", names)) []
  return ⟨rooted, segments⟩

/-- The value of an attribute: a literal alone, or another expression. -/
def attributeValue (g : Grammar) : Reading Unit := do
  let tokens ← get
  match afterLiteral? tokens with
  | some [] => set ([] : List Token)
  | _ =>
    guard !(atMark "#" tokens && atGroup .bracket (second tokens))
    discard (g.expression true)

/-- What stands inside the brackets of an attribute. -/
def attributeBody (g : Grammar) : Reading Attribute := do
  let path ← if ← tryWord "unsafe" then pure ⟨false, ["unsafe"]⟩ else plainPath
  let tokens ← get
  if atMark "=" tokens && !atOneOf ["==", "=>"] tokens then
    mark "="
    g.attributeValue
    return ⟨path, .value⟩
  else
    match ← attempt anyGroup with
    | some (_, inner) => return ⟨path, .list inner⟩
    | none => return ⟨path, .absent⟩

/-- The attributes in front that are about what follows them. -/
def outerAttributes (g : Grammar) : Reading (List Attribute) :=
  allWhile (atMark "#") do
    mark "#"
    inside .bracket g.attributeBody

/-- The attributes in front that are about what they stand in. -/
def innerAttributes (g : Grammar) : Reading Unit :=
  discard <| allWhile (fun tokens => atMark "#" tokens && atMark "!" (second tokens)) do
    mark "#"
    mark "!"
    inside .bracket g.attributeBody

/-! ## Blocks -/

/-- A block of statements in braces. -/
def block (g : Grammar) : Reading Unit :=
  inside .brace g.statements

/-- A block of statements in braces that may begin with attributes about it. -/
def body (g : Grammar) : Reading Unit :=
  inside .brace do
    g.innerAttributes
    g.statements

end Grammar

end SchemaSync.Source
