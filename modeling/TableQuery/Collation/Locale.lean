/-
# TableQuery.Collation.Locale — one spelling for each locale.

A locale code is subtags joined by hyphens or underscores, perhaps with an encoding after a point
and a modifier after an at sign.  Its normal form joins the subtags by single underscores: the
language in lower case and in its current spelling, a four-letter script capitalised, a two-letter
or three-digit region in upper case, anything else as written.
-/
import TableQuery.Text.Blank
import TableQuery.Text.Case
import TableQuery.Text.Quoted

namespace TableQuery
namespace Collation

/-- Why a text is no locale code. -/
inductive LocaleError where
  /-- Nothing stands before the encoding and the modifier. -/
  | empty (code : String)
  /-- There are separators but no subtag. -/
  | noSubtag
  deriving DecidableEq, Repr

/-- What a fault of a locale code says. -/
def LocaleError.message : LocaleError → String
  | .empty code => "Invalid locale: " ++ Text.quoted code
  | .noSubtag => "list index out of range"

/-- Language codes that have been replaced, and their replacements. -/
def languageAliases : List (String × String) :=
  [("iw", "he"), ("in", "id"), ("ji", "yi"), ("jw", "jv"), ("mo", "ro"), ("no", "nb"), ("tl", "fil")]

/-- The current code of a language. -/
def currentLanguage (language : List Char) : List Char :=
  match languageAliases.find? (·.1.toList == language) with
  | some (_, current) => current.toList
  | none => language

/-- Whether the character stands between subtags. -/
def isSeparator (c : Char) : Bool := c == '-' || c == '_'

/-- The subtags of a code, empty ones left out. -/
def subtags : List Char → List (List Char)
  | [] => []
  | c :: rest =>
    if isSeparator c then subtags rest
    else
      match rest, subtags rest with
      | d :: _, tag :: tags => if isSeparator d then [c] :: tag :: tags else (c :: tag) :: tags
      | _, tags => [c] :: tags

/-- The spelling of a subtag after the language. -/
def spellSubtag (tag : List Char) : List Char :=
  if tag.length = 4 ∧ tag.all Text.isLetter then Text.title tag
  else if (tag.length = 2 ∧ tag.all Text.isLetter) ∨ (tag.length = 3 ∧ tag.all Text.isAnyDigit) then
    Text.upper tag
  else tag

/-- The code without the blanks around it, its encoding and its modifier. -/
def bareCode (code : List Char) : List Char :=
  ((Text.trim code).takeWhile (· ≠ '.')).takeWhile (· ≠ '@')

/-- **The normal form of a locale code.** -/
def canonicalLocale (code : String) : Except LocaleError String :=
  let bare := bareCode code.toList
  if bare.isEmpty then .error (.empty code)
  else
    match subtags bare with
    | [] => .error .noSubtag
    | language :: more =>
      let spelled := currentLanguage (Text.lower language) :: more.map spellSubtag
      .ok (String.ofList (List.intercalate ['_'] spelled))

end Collation
end TableQuery
