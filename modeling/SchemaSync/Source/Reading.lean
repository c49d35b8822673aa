/-
Readers of source text: each takes a part off the front of a list of tokens,
or fails when the part is not there. This module has the readers of single
tokens and the ways to put readers together; what the parts of source text
are is said under `Grammar`.

A condition on the tokens in front, such as `atWord`, is a function to `Bool`
and takes nothing. `second` and `third` look further ahead.
-/
import SchemaSync.Source.Identifier
import SchemaSync.Source.Token
namespace SchemaSync.Source

/-- Reads a part off the front of the tokens; fails when it is not there. -/
abbrev Reading := StateT (List Token) Option

/-! ## What stands in front -/

/-- Whether these punctuation characters stand in front, with nothing between them. -/
def atCharacters : List Char → List Token → Bool
  | [], _ => true
  | [c], .punct d _ :: _ => c = d
  | c :: cs, .punct d joint :: rest => c = d && joint && atCharacters cs rest
  | _, _ => false

/-- Whether the characters of a punctuation mark stand in front. More of them may follow. -/
def atMark (mark : String) (tokens : List Token) : Bool :=
  atCharacters mark.toList tokens

/-- Whether one of these punctuation marks stands in front. -/
def atOneOf (marks : List String) (tokens : List Token) : Bool :=
  marks.any fun mark => atMark mark tokens

/-- Whether this word stands in front. -/
def atWord (word : String) : List Token → Bool
  | .ident name :: _ => name = word
  | _ => false

/-- Whether any word stands in front, keyword or not. -/
def atAnyWord : List Token → Bool
  | .ident _ :: _ => true
  | _ => false

/-- Whether a name may be chosen freely: it is no keyword. -/
def isFreeName (name : String) : Bool :=
  !(keywords.contains name)

/-- Whether a word that is no keyword stands in front. -/
def atName : List Token → Bool
  | .ident name :: _ => isFreeName name
  | _ => false

/-- Whether a word that may begin a path stands in front. -/
def atPathWord (tokens : List Token) : Bool :=
  atName tokens || ["super", "self", "Self", "crate"].any fun word => atWord word tokens

/-- Whether a lifetime stands in front. -/
def atLifetime : List Token → Bool
  | .punct '\'' _ :: .ident _ :: _ => true
  | _ => false

/-- Whether a group with these delimiters stands in front. -/
def atGroup (d : Delimiter) : List Token → Bool
  | .group e _ :: _ => d = e
  | _ => false

/-- What follows a literal in front: a truth value is one, and a number may have a minus sign. -/
def afterLiteral? : List Token → Option (List Token)
  | .literal _ :: rest => some rest
  | .ident name :: rest => if name = "true" ∨ name = "false" then some rest else none
  | .punct '-' _ :: .literal (.integer _ _) :: rest => some rest
  | .punct '-' _ :: .literal (.float _ _) :: rest => some rest
  | _ => none

/-- Whether a literal stands in front. -/
def atLiteral (tokens : List Token) : Bool :=
  (afterLiteral? tokens).isSome

/-- The tokens from the second one on. A lifetime counts as one token here. -/
def second : List Token → List Token
  | .punct '\'' _ :: .ident _ :: rest => rest
  | tokens => tokens.tail

/-- The tokens from the third one on. -/
def third (tokens : List Token) : List Token :=
  second (second tokens)

/-! ## Readers of tokens -/

/-- Whether a condition holds of the tokens in front. -/
def look (condition : List Token → Bool) : Reading Bool :=
  return condition (← get)

/-- Fails unless a condition holds of the tokens in front. -/
def need (condition : List Token → Bool) : Reading Unit := do
  guard (condition (← get))

/-- A punctuation mark, if it stands in front; tells whether it does. -/
def tryMark (mark : String) : Reading Bool := fun tokens =>
  if atMark mark tokens then some (true, tokens.drop mark.toList.length) else some (false, tokens)

/-- A punctuation mark. -/
def mark (mark : String) : Reading Unit := do
  guard (← tryMark mark)

/-- A word, if it stands in front; tells whether it does. -/
def tryWord (word : String) : Reading Bool := fun tokens =>
  if atWord word tokens then some (true, tokens.tail) else some (false, tokens)

/-- A word. -/
def word (word : String) : Reading Unit := do
  guard (← tryWord word)

/-- Any word, keyword or not. -/
def anyWord : Reading String
  | .ident name :: rest => some (name, rest)
  | _ => none

/-- A word that is no keyword. -/
def freeName : Reading String := do
  need atName
  anyWord

/-- A word that is no keyword, or an underscore. -/
def nameOrBlank : Reading String := do
  need fun tokens => atName tokens || atWord "_" tokens
  anyWord

/-- A lifetime. -/
def lifetime : Reading Unit
  | .punct '\'' _ :: .ident _ :: rest => some ((), rest)
  | _ => none

/-- A lifetime, if one stands in front. -/
def tryLifetime : Reading Unit := do
  if ← look atLifetime then lifetime

/-- A literal. -/
def literal : Reading Unit := fun tokens =>
  (afterLiteral? tokens).map fun rest => ((), rest)

/-- A string, if one stands in front. -/
def tryString : Reading Unit
  | .literal (.string _) :: rest => some ((), rest)
  | tokens => some ((), tokens)

/-- A group, whatever it holds; its delimiters and its tokens. -/
def anyGroup : Reading (Delimiter × List Token)
  | .group d inner :: rest => some ((d, inner), rest)
  | _ => none

/-- A group with these delimiters that holds just one part. -/
def inside (d : Delimiter) (part : Reading α) : Reading α := do
  let (e, inner) ← anyGroup
  guard (d = e)
  match part inner with
  | some (a, []) => return a
  | _ => failure

/-! ## Putting readers together -/

/-- A part, if it can be read. -/
def attempt (part : Reading α) : Reading (Option α) := fun tokens =>
  match part tokens with
  | some (a, rest) => some (some a, rest)
  | none => some (none, tokens)

/-- Repeats a step on a value as long as the step says so, at most so many times. -/
def repeatWithin (step : α → Reading (Bool × α)) : Nat → α → Reading α
  | 0, _ => failure
  | times + 1, a => do
    let (more, a) ← step a
    if more then repeatWithin step times a else return a

/-- Repeats a step on a value as long as the step says so, which it may do if it takes a token. -/
def repeatStep (step : α → Reading (Bool × α)) (a : α) : Reading α := do
  repeatWithin step ((← get).length + 1) a

/--
Parts with a mark between them, up to where a condition holds or no mark follows. The mark may
also follow the last part.
-/
def separatedBy (separator : String) (stop : List Token → Bool) (part : Reading α) :
    Reading (List α) :=
  repeatStep (fun parts => do
    if ← look stop then return (false, parts)
    let parts := parts ++ [← part]
    return (← tryMark separator, parts)) []

/-- Parts with commas between them, up to the end of the tokens. -/
def commaSeparated (part : Reading α) : Reading (List α) :=
  separatedBy "," List.isEmpty part

/-- Parts as long as a condition holds. -/
def allWhile (condition : List Token → Bool) (part : Reading α) : Reading (List α) :=
  repeatStep (fun parts => do
    if ← look condition then return (true, parts ++ [← part]) else return (false, parts)) []

/-- Parts up to the end of the tokens. -/
def allParts (part : Reading α) : Reading (List α) :=
  allWhile (fun tokens => !tokens.isEmpty) part

end SchemaSync.Source
