/-
# TableQuery.Evaluation.Like — the pattern test.

In a pattern `%` stands for any run of characters, the empty one included, `_` for exactly one, and
every other character for one that is the same letter.  The test asks of every suffix of the text at
once whether the pattern matches it, from the end of the pattern to its start.
-/
import TableQuery.Text.Case
import TableQuery.Value.Text

namespace TableQuery
namespace Like

/-- Whether a pattern character other than `%` stands for a character. -/
def accepts (p c : Char) : Bool := p == '_' || Text.sameLetter p c

/-- For each suffix, whether it or a shorter suffix is marked. -/
def anyShorter : List Bool → List Bool
  | [] => []
  | b :: rest =>
    match anyShorter rest with
    | [] => [b]
    | c :: more => (b || c) :: c :: more

/-- For each suffix of the text, the longest first, whether the pattern matches it. -/
def suffixes : List Char → List Char → List Bool
  | [], text => text.map (fun _ => false) ++ [true]
  | '%' :: pattern, text => anyShorter (suffixes pattern text)
  | p :: pattern, text =>
    List.zipWith (fun c rest => accepts p c && rest) text (suffixes pattern text).tail ++ [false]

/-- **Whether the pattern matches the whole text.** -/
def holds (pattern text : List Char) : Bool := (suffixes pattern text).headD false

/-- The pattern test on values; NULL matches nothing and is no pattern. -/
def test (v pattern : Value) : Except NumberError Bool :=
  if v.isNull || pattern.isNull then .ok false
  else do
    let p ← pattern.operand
    let t ← v.operand
    return holds p t

end Like
end TableQuery
