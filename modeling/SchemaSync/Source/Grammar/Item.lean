/-
The items of source files. Structs and modules are kept; every other item is
read by the same rules, only to find where it ends.
-/
import SchemaSync.Source.Grammar.Statement
namespace SchemaSync.Source.Grammar

/-! ## Visibility -/

/-- Whether a group behind `pub` says where the item is seen: a single word. -/
def isScope : List Token → Bool
  | [.ident scope] => scope ∈ ["crate", "self", "super"]
  | _ => false

/-- The visibility of an item or a field; tells whether it is said. -/
def visibility : Reading Bool := do
  if ← tryWord "pub" then
    match ← get with
    | .group .paren inner :: _ =>
      if isScope inner then discard anyGroup
      else if atWord "in" inner then
        discard <| inside .paren do
          word "in"
          plainPath
    | _ => pure ()
    return true
  else return false

/-! ## Fields -/

/-- A field with a name. `fields` reads the fields of a struct that is written out as its type. -/
def namedField (g : Grammar) (fields : Reading (List Field)) : Reading Field := do
  let attributes ← g.outerAttributes
  discard visibility
  let name ← nameOrBlank
  mark ":"
  let tokens ← get
  if name = "_" && (atWord "struct" tokens ||
      (atWord "union" tokens && atGroup .brace (second tokens))) then
    discard anyWord
    discard fields
    return ⟨attributes, name, .other⟩
  else return ⟨attributes, name, ← g.type true⟩

/-- Fields with names in braces, with structs inside them down to a depth. -/
def namedFieldsWithin (g : Grammar) : (depth : Nat) → Reading (List Field)
  | 0 => failure
  | depth + 1 => inside .brace (commaSeparated (g.namedField (g.namedFieldsWithin depth)))

/-- Fields with names in braces. -/
def namedFields (g : Grammar) : Reading (List Field) := do
  g.namedFieldsWithin (tokenCount (← get))

/-- Fields without names in parentheses. -/
def unnamedFields (g : Grammar) : Reading Unit :=
  discard <| inside .paren <| commaSeparated do
    discard g.outerAttributes
    discard visibility
    discard (g.type true)

/-! ## Types of their own -/

/-- A struct behind its word. -/
def structItem (g : Grammar) (attributes : List Attribute) : Reading Item := do
  let name ← freeName
  g.parameters
  if ← look (atGroup .paren) then
    g.unnamedFields
    g.conditions
    mark ";"
    return .struct ⟨attributes, name, []⟩
  else
    g.conditions
    if ← tryMark ";" then return .struct ⟨attributes, name, []⟩
    else return .struct ⟨attributes, name, ← g.namedFields⟩

/-- A variant of an enumeration. -/
def variant (g : Grammar) : Reading Unit := do
  discard g.outerAttributes
  discard visibility
  discard freeName
  let tokens ← get
  if atGroup .brace tokens then discard g.namedFields
  else if atGroup .paren tokens then g.unnamedFields
  if ← tryMark "=" then discard (g.expression true)

/-- An enumeration behind its word. -/
def enumeration (g : Grammar) : Reading Unit := do
  discard freeName
  g.parameters
  g.conditions
  discard <| inside .brace (commaSeparated g.variant)

/-- A union behind its word. -/
def union (g : Grammar) : Reading Unit := do
  discard freeName
  g.parameters
  g.conditions
  discard g.namedFields

/-- Where the conditions on a type's parameters may stand: before its definition, or behind it. -/
structure ConditionPlaces where
  before : Bool
  behind : Bool

/-- A type's name behind its word, with bounds and with what it stands for, if they are said. -/
def typeName (g : Grammar) (places : ConditionPlaces) : Reading Unit := do
  discard freeName
  g.parameters
  if ← tryMark ":" then
    discard <| separatedBy "+" (fun tokens => atWord "where" tokens || atOneOf ["=", ";"] tokens)
      (g.bound .parameter)
  let early := places.before && atWord "where" (← get)
  if early then g.conditions
  if ← tryMark "=" then discard (g.type true)
  if places.behind && !early then g.conditions
  mark ";"

/-! ## Functions -/

/-- Whether the first words of a function stand in front; `safe` is one of them where it holds. -/
def atFunction (safe : Bool) (tokens : List Token) : Bool :=
  let skip (word : String) (tokens : List Token) : List Token :=
    if atWord word tokens then tokens.tail else tokens
  let tokens := skip "async" (skip "const" tokens)
  let tokens := if safe && atWord "safe" tokens then tokens.tail else skip "unsafe" tokens
  match tokens with
  | .ident "extern" :: .literal (.string _) :: rest => atWord "fn" rest
  | .ident "extern" :: rest => atWord "fn" rest
  | _ => atWord "fn" tokens

/-- The receiver of a method. -/
def receiver (g : Grammar) : Reading Unit := do
  if ← tryMark "&" then
    tryLifetime
    discard (tryWord "mut")
    word "self"
  else
    discard (tryWord "mut")
    word "self"
    if ← tryMark ":" then discard (g.type true)

/-- A parameter of a function that is no receiver; tells whether more of them may follow. -/
def functionParameter (g : Grammar) : Reading Bool := do
  let tokens ← get
  if atName tokens && atMark "<" (second tokens) then
    discard (g.type true)
    return true
  else
    discard g.pattern
    mark ":"
    if ← tryMark "..." then return false
    else
      discard (g.type true)
      return true

/-- The parameters of a function. Only the first one may be the receiver of a method. -/
def functionParameters (g : Grammar) : Reading Unit :=
  discard <| repeatStep (fun (first : Bool) => do
    if ← look List.isEmpty then return (false, first)
    discard g.outerAttributes
    if ← tryMark "..." then
      discard (tryMark ",")
      return (false, first)
    else if (← attempt g.receiver).isSome then
      guard first
      return (← tryMark ",", false)
    else
      let more ← g.functionParameter
      let comma ← tryMark ","
      return (more && comma, false)) true

/-- A function up to its body. -/
def signature (g : Grammar) (safe : Bool) : Reading Unit := do
  discard (tryWord "const")
  discard (tryWord "async")
  if safe && atWord "safe" (← get) then word "safe" else discard (tryWord "unsafe")
  callingLanguage
  word "fn"
  discard freeName
  g.parameters
  inside .paren g.functionParameters
  g.result true
  g.conditions

/-- A body, or a semicolon in its place. -/
def bodyOrSemicolon (g : Grammar) : Reading Unit := do
  if !(← tryMark ";") then g.body

/-- A function, with a body or without one. -/
def function (g : Grammar) (safe : Bool) : Reading Unit := do
  g.signature safe
  g.bodyOrSemicolon

/-! ## Constants -/

/-- A constant behind its word. -/
def constant (g : Grammar) : Reading Unit := do
  discard nameOrBlank
  g.parameters
  mark ":"
  discard (g.type true)
  if ← tryMark "=" then discard (g.expression true)
  g.conditions
  mark ";"

/-- A variable behind its word. Its type or its value may be left out. -/
def staticVariable (g : Grammar) : Reading Unit := do
  discard (tryWord "mut")
  discard freeName
  if ← tryMark "=" then
    discard (g.expression true)
    mark ";"
  else
    mark ":"
    discard (g.type true)
    if !(← tryMark ";") then
      mark "="
      discard (g.expression true)
      mark ";"

/-! ## Free tokens -/

/-- A path, an exclamation mark and free tokens, with a semicolon unless they are in braces. -/
def freeTokens (named : Bool) : Reading Unit := do
  discard plainPath
  mark "!"
  if named && ((← look (atWord "try")) || (← look atName)) then discard anyWord
  if (← anyGroup).1 ≠ .brace then mark ";"

/-- Whether free tokens may be called here. -/
def atFreeTokens (tokens : List Token) : Bool :=
  atPathWord tokens || atMark "::" tokens

/-- A definition of free tokens by others, behind its word. -/
def freeDefinition : Reading Unit := do
  discard freeName
  if ← look (atGroup .paren) then discard anyGroup
  guard ((← anyGroup).1 = .brace)

/-! ## Uses -/

/-- The name that a used item gets. -/
def otherName : Reading Unit := do
  if ← tryWord "as" then discard nameOrBlank

/-- What is used, down to a depth. Where `root` holds, colons may come first in a group. -/
def usedWithin : (depth : Nat) → (root : Bool) → Reading Unit
  | 0, _ => failure
  | depth + 1, root => do
    let tokens ← get
    if atPathWord tokens && !atWord "Self" tokens || atWord "try" tokens then
      discard anyWord
      if ← tryMark "::" then usedWithin depth false else otherName
    else if ← tryMark "*" then return ()
    else
      discard <| inside .brace <| commaSeparated do
        let rooted ← if root then tryMark "::" else pure false
        usedWithin depth (root && !rooted)

/-- What is used, behind its word. -/
def used : Reading Unit := do
  let rooted ← tryMark "::"
  usedWithin (tokenCount (← get)) !rooted
  mark ";"

/-- A library that is used, behind its words. -/
def usedLibrary : Reading Unit := do
  if !(← tryWord "self") then discard freeName
  otherName
  mark ";"

/-! ## Items that hold items -/

/-- Parts in braces behind attributes about what they stand in. -/
def members (g : Grammar) (part : Reading α) : Reading (List α) :=
  inside .brace do
    g.innerAttributes
    allParts part

/-- An item with its attributes. -/
def attributedItem (g : Grammar) : Reading Item := do
  g.item (← g.outerAttributes)

/-- A module behind its word. -/
def submodule (g : Grammar) : Reading Item := do
  let name ← if ← look (atWord "try") then anyWord else freeName
  if ← tryMark ";" then return .other
  else return .submodule name (← g.members g.attributedItem)

/-- An item of a block of functions that are defined elsewhere. -/
def foreignItem (g : Grammar) : Reading Unit := do
  discard g.outerAttributes
  let isPublic ← visibility
  let tokens ← get
  if atFunction true tokens then g.function true
  else if atWord "static" tokens || atWordBefore "unsafe" ["static"] tokens ||
      atWordBefore "safe" ["static"] tokens then
    if !atWord "static" tokens then discard anyWord
    word "static"
    discard (tryWord "mut")
    discard freeName
    mark ":"
    discard (g.type true)
    if ← tryMark "=" then discard (g.expression true)
    mark ";"
  else if ← tryWord "type" then g.typeName ⟨true, true⟩
  else
    guard (!isPublic && atFreeTokens tokens)
    freeTokens false

/-- A block of functions that are defined elsewhere. -/
def foreignBlock (g : Grammar) : Reading Unit := do
  discard (tryWord "unsafe")
  word "extern"
  tryString
  discard <| g.members g.foreignItem

/-- An item of a trait or an implementation; only in the latter free tokens may be `default`. -/
def associatedItem (g : Grammar) (inTrait : Bool) : Reading Unit := do
  discard g.outerAttributes
  let isPublic ← visibility
  let tokens ← get
  let isDefault ←
    if !inTrait && atMark "!" (second tokens) then pure false else tryWord "default"
  let tokens ← get
  if atFunction false tokens then g.function false
  else if ← tryWord "const" then g.constant
  else if ← tryWord "type" then g.typeName ⟨false, true⟩
  else
    guard (!isPublic && !isDefault && atFreeTokens tokens)
    freeTokens false

/-- A trait behind its word; it may be another name for bounds where `mayAlias` holds. -/
def traitItem (g : Grammar) (mayAlias : Bool) : Reading Unit := do
  discard freeName
  g.parameters
  if mayAlias && atMark "=" (← get) then
    mark "="
    discard <| separatedBy "+" (fun tokens => atWord "where" tokens || atMark ";" tokens)
      (g.bound .parameter)
    g.conditions
    mark ";"
  else
    if ← tryMark ":" then
      discard <| separatedBy "+" (fun tokens => atWord "where" tokens || atGroup .brace tokens)
        (g.bound .parameter)
    g.conditions
    discard <| g.members (g.associatedItem true)

/-- An implementation. -/
def implementation (g : Grammar) : Reading Unit := do
  discard (tryWord "default")
  discard (tryWord "unsafe")
  word "impl"
  if ← look atAngleParameters then g.parameters
  let tokens ← get
  if atWord "const" tokens || (atMark "?" tokens && atWord "const" (second tokens)) then
    discard (tryMark "?")
    word "const"
  let tokens ← get
  let negative := atMark "!" tokens && !atGroup .brace (second tokens)
  if negative then mark "!"
  discard (g.type true)
  if ← tryWord "for" then discard (g.type true) else guard !negative
  g.conditions
  discard <| g.members (g.associatedItem false)

/-! ## Items -/

/-- An item that is neither a struct nor a module, behind its visibility. -/
def otherItem (g : Grammar) (isPublic : Bool) : Reading Unit := do
  let tokens ← get
  let behind := second tokens
  if atFunction false tokens then g.function false
  else if atWordBefore "extern" ["crate"] tokens then
    discard anyWord
    discard anyWord
    usedLibrary
  else if atWord "extern" tokens || atWordBefore "unsafe" ["extern"] tokens then
    guard !isPublic
    g.foreignBlock
  else if ← tryWord "use" then used
  else if ← tryWord "static" then g.staticVariable
  else if ← tryWord "const" then g.constant
  else if ← tryWord "type" then g.typeName ⟨true, false⟩
  else if ← tryWord "enum" then g.enumeration
  else if atWord "union" tokens && atName behind then
    word "union"
    g.union
  else if ← tryWord "trait" then g.traitItem true
  else if atWordBefore "unsafe" ["trait", "auto"] tokens ||
      atWordBefore "auto" ["trait"] tokens then
    discard (tryWord "unsafe")
    discard (tryWord "auto")
    word "trait"
    g.traitItem false
  else if atWord "impl" tokens || atWordBefore "unsafe" ["impl"] tokens ||
      (atWord "default" tokens && !atMark "!" behind) then
    g.implementation
  else if ← tryWord "macro" then freeDefinition
  else
    guard (!isPublic && atFreeTokens tokens)
    freeTokens true

/-- An item behind its attributes. -/
def readItem (g : Grammar) (attributes : List Attribute) : Reading Item := do
  let isPublic ← visibility
  let tokens ← get
  if ← tryWord "struct" then g.structItem attributes
  else if atWord "mod" tokens || atWordBefore "unsafe" ["mod"] tokens then
    discard (tryWord "unsafe")
    word "mod"
    g.submodule
  else
    g.otherItem isPublic
    return .other

end SchemaSync.Source.Grammar
