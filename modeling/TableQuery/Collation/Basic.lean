/-
# TableQuery.Collation.Basic — the collations and their names.

A collation says how two texts compare.  Three are built in: by code point, by code point with the
ASCII letters folded, and by code point with trailing spaces ignored; any locale code names the
Unicode order.  A name is looked up without regard to case and surrounding blanks.

## §A — the collations.
## §B — names.
## §C — keys of texts.
-/
import TableQuery.Collation.Elements
import TableQuery.Collation.Locale

namespace TableQuery

/-! ## §A — the collations -/

/-- A way to compare texts. -/
inductive Collation where
  | binary
  | nocase
  | rtrim
  | locale (code : String)
  deriving DecidableEq, Repr

namespace Collation

/-! ## §B — names -/

/-- The built-in collations by name. -/
def builtins : List (String × Collation) :=
  [("BINARY", .binary), ("NOCASE", .nocase), ("RTRIM", .rtrim)]

/-- The name under which a collation is known. -/
def name : Collation → String
  | .binary => "BINARY"
  | .nocase => "NOCASE"
  | .rtrim => "RTRIM"
  | .locale code => code

/-- A name as the built-in names are spelled. -/
def spelling (name : String) : String := String.ofList (Text.upper (Text.trim name.toList))

/-- The built-in collation of a name. -/
def builtin? (name : String) : Option Collation :=
  (builtins.find? (·.1 == spelling name)).map (·.2)

/-- **The canonical form of a collation name.** -/
def canonicalName (name : String) : Except LocaleError String :=
  match builtin? name with
  | some c => .ok c.name
  | none => canonicalLocale name

/-- The collation of a locale code. -/
def ofLocale (code : String) : Except LocaleError Collation :=
  return .locale (← canonicalLocale code)

/-- **The collation of a name.**  The normal form of a locale code is brought to normal form once
more, so that blanks which an encoding hid do not stay. -/
def ofName (name : String) : Except LocaleError Collation :=
  match builtin? name with
  | some c => .ok c
  | none => do ofLocale (← canonicalLocale name)

/-- The canonical form of the name of a collation. -/
def canonical (c : Collation) : Except LocaleError String := canonicalName c.name

/-- The collation as messages show it. -/
def shown (c : Collation) : String :=
  let kind := match c with
    | .binary => "BinaryCollator"
    | .nocase => "NoCaseCollator"
    | .rtrim => "RTrimCollator"
    | .locale _ => "LocaleCollator"
  kind ++ "(" ++ Text.quoted c.name ++ ")"

/-- What tells two collations apart: built-in collations by canonical name, locales by code. -/
def identifier : Collation → String
  | .locale code => "locale:" ++ code
  | c => c.name

/-- Whether two collations are the same. -/
def same (a b : Collation) : Bool := a.identifier == b.identifier

/-- Whether a named collation is the given one. -/
def matchesName (c : Collation) (name : String) : Except LocaleError Bool :=
  return (← ofName name).same c

/-! ## §C — keys of texts -/

/-- A code point with the ASCII capitals folded. -/
def foldPoint (n : Nat) : Nat := if 0x41 ≤ n ∧ n ≤ 0x5A then n + 0x20 else n

/-- A text without the spaces at its end. -/
def withoutTrailingSpaces (s : List Nat) : List Nat := (s.reverse.dropWhile (· == 0x20)).reverse

/-- What a collation compares of a text, in lexicographic order. -/
def textKey : Collation → List Nat → List Nat
  | .binary, s => s
  | .nocase, s => s.map foldPoint
  | .rtrim, s => withoutTrailingSpaces s
  | .locale _, s => unicodeKey s

end Collation
end TableQuery
