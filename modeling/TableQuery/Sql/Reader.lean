/-
# TableQuery.Sql.Reader — reading tokens from left to right.

A reader takes tokens from the front and either answers or fails; failure ends the whole reading,
while "nothing of the kind stands here" is an answer, `none`, that takes no token.
-/
import TableQuery.Sql.Scan

namespace TableQuery
namespace Sql

/-- A reading of tokens. -/
abbrev Reader := StateT (List Token) Option

namespace Reader
variable {α : Type}

/-- The next token, which stays. -/
def peek : Reader (Option Token) := do return (← get).head?

/-- The token after the next one; both stay. -/
def peekSecond : Reader (Option Token) := do return (← get).tail.head?

/-- Whether no token is left. -/
def atEnd : Reader Bool := do return (← get).isEmpty

/-- Takes a token. -/
def skip : Reader Unit := modify List.tail

/-- Takes the given word if it stands next. -/
def word (key : String) : Reader Bool := fun ts =>
  match ts with
  | t :: rest => if t.isWord key then some (true, rest) else some (false, ts)
  | [] => some (false, ts)

/-- Takes one of the given words if one stands next. -/
def oneOf (keys : List String) : Reader (Option String) := fun ts =>
  match ts with
  | .word _ k :: rest => if keys.contains k then some (some k, rest) else some (none, ts)
  | _ => some (none, ts)

/-- Whether the given word stands next; it stays. -/
def seesWord (key : String) : Reader Bool := do
  return match ← peek with
    | some t => t.isWord key
    | none => false

/-- Whether one of the given words stands next; it stays. -/
def seesOneOf (keys : List String) : Reader Bool := do
  return match ← peek with
    | some (.word _ k) => keys.contains k
    | _ => false

/-- Takes the given sign if it stands next. -/
def sign (text : String) : Reader Bool := fun ts =>
  match ts with
  | t :: rest => if t.isSign text then some (true, rest) else some (false, ts)
  | [] => some (false, ts)

/-- Whether the given sign stands next; it stays. -/
def seesSign (text : String) : Reader Bool := do
  return match ← peek with
    | some t => t.isSign text
    | none => false

/-- Takes the given sign, which has to stand next. -/
def needSign (text : String) : Reader Unit := do
  if ← sign text then return () else failure

/-- Takes the given word, which has to stand next. -/
def needWord (key : String) : Reader Unit := do
  if ← word key then return () else failure

/-- Takes the given words if all of them stand next in order. -/
def words (keys : List String) : Reader Bool := fun ts =>
  let front := ts.take keys.length
  if front.length = keys.length ∧ (List.zipWith Token.isWord front keys).all id then
    some (true, ts.drop keys.length)
  else some (false, ts)

/-- What has to be there. -/
def need (r : Reader (Option α)) : Reader α := do
  match ← r with
  | some a => return a
  | none => failure

/-- The answer of a reader, or `none` with every token left where the reader fails or has none. -/
def attempt (r : Reader (Option α)) : Reader (Option α) := fun ts =>
  match r ts with
  | some (some a, rest) => some (some a, rest)
  | _ => some (none, ts)

/-- Items between commas; a place between commas may be empty. -/
def commaList (item : Reader (Option α)) : Nat → Reader (List α)
  | 0 => failure
  | fuel + 1 => do
    let first ← item
    let more ← if ← sign "," then commaList item fuel else pure []
    return first.toList ++ more

/-- Items between commas. -/
def list (item : Reader (Option α)) : Reader (List α) := do
  commaList item ((← get).length + 1)

/-- Takes everything up to the parenthesis that closes an open one. -/
def balanced : Nat → List Token → Option (List Token)
  | _, [] => none
  | depth, t :: rest =>
    if t.isSign "(" then balanced (depth + 1) rest
    else if t.isSign ")" then
      match depth with
      | 0 => some rest
      | d + 1 => balanced d rest
    else balanced depth rest

/-- Takes a parenthesised part whose content does not matter, after its opening parenthesis. -/
def skipBalanced : Reader Unit := fun ts => (balanced 0 ts).map ((), ·)

/-- Takes all tokens. -/
def skipAll : Reader Unit := set ([] : List Token)

end Reader
end Sql
end TableQuery
