/-
Paths of source files with the arguments of their names: `a::b<T>` in types,
`a::b::<T>` in expressions, and `<T as Trait>::Name` in both.
-/
import SchemaSync.Source.Grammar.Basic
namespace SchemaSync.Source

/-- A path: its last name with what stands around it. -/
structure PathExpr where
  name : String
  form : PathForm
  /-- The arguments of the last name in angle brackets; those that are no types have none here. -/
  arguments : List (Option TypeExpr)
  /-- Whether no name in the path has arguments. -/
  plain : Bool

/-- The type that a path names. -/
def PathExpr.type (p : PathExpr) : TypeExpr :=
  .named p.name p.form (p.arguments.filterMap id)

namespace Grammar

/-! ## Arguments -/

/-- A constant as argument: a literal, a name, or a block. -/
def constantArgument (g : Grammar) : Reading Unit := do
  let tokens ← get
  if atLiteral tokens then literal
  else if atName tokens then discard freeName
  else g.body

/-- What an associated item is set to: a constant or a type. -/
def associatedValue (g : Grammar) : Reading Unit := do
  let tokens ← get
  if atLiteral tokens || atGroup .brace tokens then g.constantArgument
  else discard (g.type true)

/-- An argument in angle brackets: a type, or none for anything else. -/
def argument (g : Grammar) : Reading (Option TypeExpr) := do
  let tokens ← get
  if atLifetime tokens && !atMark "+" (second tokens) then
    lifetime
    return none
  else if atLiteral tokens || atGroup .brace tokens then
    g.constantArgument
    return none
  else
    let type ← g.type true
    match type with
    | .named _ .name _ | .named _ .applied _ =>
      if ← tryMark "=" then
        g.associatedValue
        return none
      else if ← tryMark ":" then
        discard <| separatedBy "+" (atOneOf [",", ">"]) (g.bound .parameter)
        return none
      else return some type
    | _ => return some type

/-- Arguments in angle brackets, two colons in front of them allowed. -/
def angleArguments (g : Grammar) : Reading (List (Option TypeExpr)) := do
  discard (tryMark "::")
  mark "<"
  let arguments ← separatedBy "," (atMark ">") g.argument
  mark ">"
  return arguments

/-- Whether arguments stand in front; in expressions two colons must come before them. -/
def atArguments (inExpression : Bool) (tokens : List Token) : Bool :=
  (!inExpression && atMark "<" tokens && !atOneOf ["<=", "<<="] tokens) ||
    (atMark "::" tokens && atMark "<" (third tokens))

/-! ## Paths -/

/-- A name of a path and its arguments, if there are any. -/
def segment (g : Grammar) (inExpression : Bool) :
    Reading (String × Option (List (Option TypeExpr))) := do
  let tokens ← get
  if ["super", "self", "crate", "try"].any fun word => atWord word tokens then
    return (← anyWord, none)
  else
    let name ← if atWord "Self" tokens then anyWord else freeName
    if ← look (atArguments inExpression) then return (name, some (← g.angleArguments))
    else return (name, none)

/-- The names of a path behind the first one, as long as two colons and a name follow. -/
def moreSegments (g : Grammar) (inExpression : Bool) (path : PathExpr) : Reading PathExpr :=
  repeatStep (fun path => do
    let tokens ← get
    if atMark "::" tokens && !atGroup .paren (third tokens) then
      mark "::"
      let (name, arguments) ← g.segment inExpression
      return (true, ⟨name, .long, arguments.getD [], path.plain && arguments.isNone⟩)
    else return (false, path)) path

/-- A path without a type in front. -/
def path (g : Grammar) (inExpression : Bool) : Reading PathExpr := do
  let rooted ← tryMark "::"
  let (name, arguments) ← g.segment inExpression
  let form := if rooted then .long else if arguments.isSome then .applied else .name
  g.moreSegments inExpression ⟨name, form, arguments.getD [], arguments.isNone⟩

/-- A path that names an item of a type in angle brackets, perhaps an item of a trait of it. -/
def qualifiedPath (g : Grammar) (inExpression : Bool) : Reading PathExpr := do
  mark "<"
  discard (g.type true)
  if ← tryWord "as" then discard (g.path false)
  mark ">"
  mark "::"
  let (name, arguments) ← g.segment inExpression
  repeatStep (fun path => do
    if ← tryMark "::" then
      let (name, arguments) ← g.segment inExpression
      return (true, { path with name, arguments := arguments.getD [] })
    else return (false, path)) ⟨name, .qualified, arguments.getD [], false⟩

/-- A path, with or without a type in front. -/
def anyPath (g : Grammar) (inExpression : Bool) : Reading PathExpr := do
  if ← look (atMark "<") then g.qualifiedPath inExpression else g.path inExpression

/-- Whether a path calls for a group of free tokens behind an exclamation mark. -/
def atFreeGroup (p : PathExpr) (tokens : List Token) : Bool :=
  p.plain && atMark "!" tokens && !atMark "!=" tokens

/-- An exclamation mark and a group of free tokens; the delimiters of the group. -/
def freeGroup : Reading Delimiter := do
  mark "!"
  return (← anyGroup).1

end Grammar

end SchemaSync.Source
