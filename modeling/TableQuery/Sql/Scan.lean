/-
# TableQuery.Sql.Scan — text as tokens.

The text is cut from left to right.  Blanks and comments stand between tokens.  Quoted names and
texts end at their closing mark, which is written twice inside; a number takes digits, one point and
an exponent; every other run of characters up to a blank or a sign is a word.  Comments matter only
where they belong to a semicolon: a comment belongs to the token before it when it starts on the
line on which that token ends, otherwise to the token after it.

## §A — runs of characters.
## §B — signs.
## §C — one token.
## §D — all tokens.
-/
import TableQuery.Sql.Token
import TableQuery.Text.Blank
import TableQuery.Text.Quoted

namespace TableQuery
namespace Sql
namespace Scan

/-! ## §A — runs of characters -/

/-- The backtick, which quotes names. -/
def backtick : Char := Char.ofNat 96

/-- Signs of one character; they end a word. -/
def signChars : List Char :=
  ['(', ')', '[', ']', Char.ofNat 123, Char.ofNat 125, '&', '^', ':', ',', '-', '.', '=', '>', '<',
   '%', '!', '|', '+', ';', '/', '\\', '*', '~', '?', '@', '#', '\'', '"', backtick]

/-- Whether the character belongs to a word. -/
def isWordChar (c : Char) : Bool := !Text.isBlank c && !signChars.contains c

/-- The text up to the closing mark, a doubled mark standing for itself, and what follows. -/
def closed (mark : Char) : List Char → Option (List Char × List Char)
  | [] => none
  | c :: rest =>
    if c = mark then
      match rest with
      | d :: more =>
        if d = mark then (closed mark more).map fun (s, after) => (mark :: s, after)
        else some ([], d :: more)
      | [] => some ([], [])
    else (closed mark rest).map fun (s, after) => (c :: s, after)

/-- The rest after the end of a block comment. -/
def afterBlock : List Char → Option (List Char)
  | '*' :: '/' :: rest => some rest
  | _ :: rest => afterBlock rest
  | [] => none

/-- Whether the character ends a line. -/
def isLineEnd (c : Char) : Bool := c == '\n' || c == '\r'

/-- Whether a digit of any kind stands first. -/
def startsWithDigit : List Char → Bool
  | c :: _ => Text.isAnyDigit c
  | [] => false

/-- The rest of a number after its first digit: digits, one point (unless `point` is past), one
exponent whose sign counts only before a digit. -/
def numberTail : Nat → Bool → Nat → List Char → List Char × List Char
  | 0, _, _, s => ([], s)
  | _ + 1, _, _, [] => ([], [])
  | fuel + 1, point, exponent, c :: rest =>
    if Text.isAnyDigit c then
      let (s, after) := numberTail fuel point exponent rest
      (c :: s, after)
    else if c == '.' && !point then
      let (s, after) := numberTail fuel true exponent rest
      (c :: s, after)
    else if (c == '+' || c == '-') && exponent == 1 && startsWithDigit rest then
      let (s, after) := numberTail fuel point 2 rest
      (c :: s, after)
    else if (c == 'e' || c == 'E') && exponent == 0 then
      let (s, after) := numberTail fuel point 1 rest
      (c :: s, after)
    else ([], c :: rest)

/-- Whether the character is a hexadecimal digit. -/
def isHexDigit (c : Char) : Bool :=
  ('0' ≤ c && c ≤ '9') || ('a' ≤ c && c ≤ 'f') || ('A' ≤ c && c ≤ 'F')

/-! ## §B — signs -/

/-- Signs of several characters, longer ones first, and how each is known. -/
def longSigns : List (String × String) :=
  [("?::", "?::"), ("<=>", "<=>"), ("->>", "->>"), ("#>>", "#>>"), ("<->", "<->"), ("~~~", "~~~"),
   ("~~*", "~~*"), ("-|-", "-|-"), ("&<", "&<"), ("&>", "&>"), ("==", "="), ("::", "::"),
   ("||", "||"), ("|>", "|>"), (">=", ">="), ("<=", "<="), ("<>", "!="), ("!=", "!="),
   (":=", ":="), ("->", "->"), ("=>", "=>"), ("#>", "#>"), ("&&", "&&"), ("??", "??"),
   ("~~", "~~"), ("~*", "~*")]

/-- The sign at the start of a text.  Question marks are counted later. -/
def sign? (s : List Char) : Option (Token × List Char) :=
  match longSigns.find? fun (text, _) => text.toList.isPrefixOf s with
  | some (text, known) => some (.sign known, s.drop text.length)
  | none =>
    match s with
    | '?' :: rest => some (.question 0, rest)
    | c :: rest => if signChars.contains c then some (.sign c.toString, rest) else none
    | [] => none

/-! ## §C — one token -/

/-- A word, joined with the word behind it when the two form one keyword. -/
def word (s : List Char) : Token × List Char :=
  let first := s.takeWhile isWordChar
  let rest := s.dropWhile isWordChar
  let after := rest.dropWhile Text.isBlank
  let second := after.takeWhile isWordChar
  let joined := String.ofList (Text.upper first ++ ' ' :: Text.upper second)
  if after.length < rest.length && Words.pairs.contains joined then
    (.word joined joined, after.dropWhile isWordChar)
  else (.ofWord (String.ofList first), rest)

/-- A hexadecimal number after its two marks; without a digit, or with a letter that is none, it is
a name. -/
def hexNumber (marks : List Char) (s : List Char) : Token × List Char :=
  let run := s.takeWhile isWordChar
  let rest := s.dropWhile isWordChar
  if !run.isEmpty && run.all isHexDigit then (.hex (String.ofList run), rest)
  else (.quoted (String.ofList (marks ++ run)), rest)

/-- A byte string in hexadecimal; it has digits and nothing else. -/
def hexString (s : List Char) : Option (Token × List Char) := do
  let (text, rest) ← closed '\'' s
  if !text.isEmpty && text.all isHexDigit then some (.hex (String.ofList text), rest) else none

/-- **The token at the start of a text** that starts with neither a blank nor a comment; none when
a closing mark is missing. -/
def token? (s : List Char) : Option (Token × List Char) :=
  match s with
  | [] => none
  | c :: rest =>
    if Text.isAnyDigit c then
      match c, rest with
      | '0', 'x' :: more => some (hexNumber ['0', 'x'] more)
      | '0', 'X' :: more => some (hexNumber ['0', 'X'] more)
      | _, _ =>
        let (tail, after) := numberTail rest.length false 0 rest
        some (.number (String.ofList (c :: tail)), after)
    else if c == '"' then (closed '"' rest).map fun (t, r) => (.quoted (String.ofList t), r)
    else if c == backtick then
      (closed backtick rest).map fun (t, r) => (.quoted (String.ofList t), r)
    else if c == '[' then (closed ']' rest).map fun (t, r) => (.quoted (String.ofList t), r)
    else if c == '\'' then (closed '\'' rest).map fun (t, r) => (.string (String.ofList t), r)
    else
      match c, rest with
      | 'x', '\'' :: more => hexString more
      | 'X', '\'' :: more => hexString more
      | 'n', '\'' :: more => (closed '\'' more).map fun (t, r) => (.national (String.ofList t), r)
      | 'N', '\'' :: more => (closed '\'' more).map fun (t, r) => (.national (String.ofList t), r)
      | _, _ =>
        match sign? s with
        | some (.sign ";", after) => some (.semicolon false, after)
        | some r => some r
        | none => some (word s)

/-! ## §D — all tokens -/

/-- Where the scan stands: whether a comment waits for the next token, and whether the line of the
last token has not ended. -/
structure Place where
  waiting : Bool := false
  sameLine : Bool := false

/-- A comment is given to the token before it. -/
def giveComment : List Token → List Token
  | .semicolon _ :: rest => .semicolon true :: rest
  | done => done

/-- The place after a comment, and the tokens so far, last first. -/
def afterComment (place : Place) (done : List Token) : Place × List Token :=
  if place.sameLine then ({ place with waiting := false }, giveComment done)
  else ({ place with waiting := true }, done)

/-- A token takes the comment that waits for it. -/
def takeComment (place : Place) : Token → Token
  | .semicolon commented => .semicolon (commented || place.waiting)
  | t => t

/-- Scans the rest of a text behind the tokens so far, last first. -/
def run : Nat → Place → List Token → List Char → Option (List Token)
  | _, place, done, [] => some (if place.waiting then giveComment done else done).reverse
  | 0, _, _, _ :: _ => none
  | fuel + 1, place, done, c :: rest =>
    if Text.isBlank c then
      run fuel (if isLineEnd c then { place with sameLine := false } else place) done rest
    else
      match c, rest with
      | '-', '-' :: more =>
        let (place, done) := afterComment place done
        run fuel place done (more.dropWhile fun d => !isLineEnd d)
      | '/', '*' :: more =>
        match afterBlock more with
        | none => none
        | some after =>
          let (place, done) := afterComment place done
          run fuel place done after
      | _, _ =>
        match token? (c :: rest) with
        | none => none
        | some (t, after) =>
          run fuel ⟨false, true⟩ (takeComment place t :: done) after

/-- The tokens with the question marks among them counted from the given number. -/
def placed : Nat → List Token → List Token
  | _, [] => []
  | n, .question _ :: rest => .question n :: placed (n + 1) rest
  | n, t :: rest => t :: placed n rest

end Scan

/-- **The tokens of a text**, if every mark in it is closed. -/
def Token.ofText? (s : String) : Option (List Token) :=
  (Scan.run s.toList.length {} [] s.toList).map (Scan.placed 0)

end Sql
end TableQuery
