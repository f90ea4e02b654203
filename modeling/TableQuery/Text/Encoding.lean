/-
# TableQuery.Text.Encoding — files of bytes as text.

A file names its encoding and is decoded in portions of a fixed size, so a fault in a later portion
comes after the text of the earlier ones.  A character that a portion cuts is finished in the next
one; a fault is placed by its offset in the portion, the cut character included.

## §A — encodings and their names.
## §B — faults.
## §C — decoding one portion.
## §D — decoding a file.
-/
import TableQuery.Text.Quoted
import TableQuery.Text.Utf8

namespace TableQuery
namespace Text

/-! ## §A — encodings and their names -/

/-- The encodings that files may have. -/
inductive Encoding where
  | utf8
  | utf8Marked
  | ascii
  | latin1
  | windows1252
  | utf16Marked
  | utf16 (bigEndian : Bool)
  deriving DecidableEq, Repr

namespace Encoding

/-- The accepted names, letters in lower case and everything that is no letter or digit as `_`. -/
def names : List (String × Encoding) :=
  [("utf_8", .utf8), ("utf8", .utf8), ("u8", .utf8), ("utf", .utf8), ("utf8_ucs2", .utf8),
   ("utf8_ucs4", .utf8), ("cp65001", .utf8), ("locale", .utf8),
   ("utf_8_sig", .utf8Marked),
   ("ascii", .ascii), ("646", .ascii), ("ansi_x3.4_1968", .ascii), ("ansi_x3_4_1968", .ascii),
   ("ansi_x3.4_1986", .ascii), ("cp367", .ascii), ("csascii", .ascii), ("ibm367", .ascii),
   ("iso646_us", .ascii), ("iso_646.irv_1991", .ascii), ("iso_ir_6", .ascii), ("us", .ascii),
   ("us_ascii", .ascii),
   ("latin_1", .latin1), ("latin1", .latin1), ("latin", .latin1), ("l1", .latin1),
   ("8859", .latin1), ("cp819", .latin1), ("csisolatin1", .latin1), ("ibm819", .latin1),
   ("iso8859", .latin1), ("iso8859_1", .latin1), ("iso_8859_1", .latin1),
   ("iso_8859_1_1987", .latin1), ("iso_ir_100", .latin1),
   ("cp1252", .windows1252), ("1252", .windows1252), ("windows_1252", .windows1252),
   ("utf_16", .utf16Marked), ("u16", .utf16Marked), ("utf16", .utf16Marked),
   ("utf_16_le", .utf16 false), ("utf_16le", .utf16 false), ("unicodelittleunmarked", .utf16 false),
   ("utf_16_be", .utf16 true), ("utf_16be", .utf16 true), ("unicodebigunmarked", .utf16 true)]

/-- A name with its letters in lower case and each run of other characters as one underscore. -/
def spell : List Char → List Char
  | [] => []
  | c :: rest =>
    if c.isAlphanum || c == '.' then c.toLower :: spell rest
    else
      match spell rest with
      | '_' :: more => '_' :: more
      | more => '_' :: more

/-- The encoding of a name. -/
def ofName? (name : String) : Option Encoding :=
  (names.find? (·.1 == String.ofList (spell name.toList))).map (·.2)

end Encoding

/-! ## §B — faults -/

/-- Why bytes are no text. -/
inductive EncodingError where
  /-- No encoding has the name. -/
  | unknown (name : String)
  /-- The bytes from `start` on stand for no character. -/
  | undecodable (codec : String) (bytes : List UInt8) (start : Nat) (reason : String)
  /-- The file does not begin with the byte order mark that says how to read it. -/
  | unmarked
  deriving DecidableEq, Repr

/-- What a fault says. -/
def EncodingError.message : EncodingError → String
  | unknown name => "unknown encoding: " ++ name
  | undecodable codec [b] start reason =>
    "'" ++ codec ++ "' codec can't decode byte 0x" ++ String.ofList (hexText 2 b.toNat) ++
      " in position " ++ toString start ++ ": " ++ reason
  | undecodable codec bytes start reason =>
    "'" ++ codec ++ "' codec can't decode bytes in position " ++ toString start ++ "-" ++
      toString (start + bytes.length - 1) ++ ": " ++ reason
  | unmarked => "UTF-16 stream does not start with BOM"

/-! ## §C — decoding one portion -/

/-- A decoded portion: its text, and a fault or the bytes of a cut character. -/
structure Portion where
  text : List Char
  rest : Except EncodingError (List UInt8)

/-- The number of bytes of a character. -/
def utf8Length (c : Char) : Nat := c.utf8Size

/-- Whether two bytes begin the form of half a surrogate pair, which is only refused when its third
byte is there. -/
def beginsSurrogate (first second : List UInt8) : Bool :=
  match first, second with
  | [0xED], [b] => 0xA0 ≤ b && b ≤ 0xBF
  | _, _ => false

/-- A bad piece before the rest of a portion. -/
def portionOfBad (last : Bool) (rest : List Utf8.Piece) (bytes : List UInt8) (at_ : Nat) : Portion :=
  let started := ((bytes.head?.bind Utf8.lead?).isSome : Bool)
  if !started then ⟨[], .error (.undecodable "utf-8" bytes at_ "invalid start byte")⟩
  else if rest.isEmpty then
    if last then ⟨[], .error (.undecodable "utf-8" bytes at_ "unexpected end of data")⟩
    else ⟨[], .ok bytes⟩
  else ⟨[], .error (.undecodable "utf-8" bytes at_ "invalid continuation byte")⟩

/-- Reads pieces up to the first bad one; a bad piece at the very end that only lacks bytes is a cut
character unless the file ends there. -/
def portionOfPieces (last : Bool) : List Utf8.Piece → Nat → Portion
  | [], _ => ⟨[], .ok []⟩
  | .char c :: rest, at_ =>
    let p := portionOfPieces last rest (at_ + utf8Length c)
    ⟨c :: p.text, p.rest⟩
  | [.bad bytes, .bad more], at_ =>
    if !last && beginsSurrogate bytes more then ⟨[], .ok (bytes ++ more)⟩
    else portionOfBad last [.bad more] bytes at_
  | .bad bytes :: rest, at_ => portionOfBad last rest bytes at_

/-- Reads one byte after the other. -/
def portionOfBytes (read : UInt8 → Except (String × String) Char) : List UInt8 → Nat → Portion
  | [], _ => ⟨[], .ok []⟩
  | b :: rest, at_ =>
    match read b with
    | .ok c =>
      let p := portionOfBytes read rest (at_ + 1)
      ⟨c :: p.text, p.rest⟩
    | .error (codec, reason) => ⟨[], .error (.undecodable codec [b] at_ reason)⟩

/-- An ASCII byte. -/
def readAscii (b : UInt8) : Except (String × String) Char :=
  if b < 0x80 then .ok (Char.ofNat b.toNat) else .error ("ascii", "ordinal not in range(128)")

/-- A byte that is a code point. -/
def readLatin1 (b : UInt8) : Except (String × String) Char := .ok (Char.ofNat b.toNat)

/-- The characters of the Windows code page from 0x80 to 0x9F; zero where there is none. -/
def windowsPoints : List Nat :=
  [0x20AC, 0, 0x201A, 0x0192, 0x201E, 0x2026, 0x2020, 0x2021, 0x02C6, 0x2030, 0x0160, 0x2039,
   0x0152, 0, 0x017D, 0, 0, 0x2018, 0x2019, 0x201C, 0x201D, 0x2022, 0x2013, 0x2014, 0x02DC, 0x2122,
   0x0161, 0x203A, 0x0153, 0, 0x017E, 0x0178]

/-- A byte of the Windows code page. -/
def readWindows (b : UInt8) : Except (String × String) Char :=
  if 0x80 ≤ b ∧ b ≤ 0x9F then
    match windowsPoints.getD (b.toNat - 0x80) 0 with
    | 0 => .error ("charmap", "character maps to <undefined>")
    | n => .ok (Char.ofNat n)
  else .ok (Char.ofNat b.toNat)

/-- The name of an order of bytes. -/
def utf16Name (big : Bool) : String := if big then "utf-16-be" else "utf-16-le"

/-- The unit of two bytes. -/
def unitOf (big : Bool) (a b : UInt8) : Nat :=
  if big then a.toNat * 256 + b.toNat else b.toNat * 256 + a.toNat

/-- Reads units of two bytes, joining the halves of surrogate pairs. -/
def portionOfUnits (big last : Bool) : List UInt8 → Nat → Portion
  | [], _ => ⟨[], .ok []⟩
  | [b], at_ =>
    if last then ⟨[], .error (.undecodable (utf16Name big) [b] at_ "truncated data")⟩
    else ⟨[], .ok [b]⟩
  | a :: b :: rest, at_ =>
    let n := unitOf big a b
    if n < 0xD800 ∨ 0xDFFF < n then
      let p := portionOfUnits big last rest (at_ + 2)
      ⟨Char.ofNat n :: p.text, p.rest⟩
    else if 0xDC00 ≤ n then
      ⟨[], .error (.undecodable (utf16Name big) [a, b] at_ "illegal encoding")⟩
    else
      match rest with
      | c :: d :: more =>
        let m := unitOf big c d
        if 0xDC00 ≤ m ∧ m ≤ 0xDFFF then
          let p := portionOfUnits big last more (at_ + 4)
          ⟨Char.ofNat (0x10000 + (n - 0xD800) * 0x400 + (m - 0xDC00)) :: p.text, p.rest⟩
        else ⟨[], .error (.undecodable (utf16Name big) [a, b] at_ "illegal UTF-16 surrogate")⟩
      | few =>
        if last then
          ⟨[], .error (.undecodable (utf16Name big) (a :: b :: few) at_ "unexpected end of data")⟩
        else ⟨[], .ok (a :: b :: few)⟩

/-- Decodes a portion; `last` says that the file ends with it. -/
def decodePortion (e : Encoding) (last : Bool) (bytes : List UInt8) : Portion :=
  match e with
  | .utf8 | .utf8Marked => portionOfPieces last (Utf8.pieces bytes) 0
  | .ascii => portionOfBytes readAscii bytes 0
  | .latin1 => portionOfBytes readLatin1 bytes 0
  | .windows1252 => portionOfBytes readWindows bytes 0
  | .utf16Marked => portionOfUnits false last bytes 0
  | .utf16 big => portionOfUnits big last bytes 0

/-! ## §D — decoding a file -/

/-- How many bytes are decoded at once. -/
def portionSize : Nat := 8192

/-- The portions of a file. -/
def portions (bytes : List UInt8) : List (List UInt8) :=
  if bytes.isEmpty then []
  else
    let count := (bytes.length + portionSize - 1) / portionSize
    (List.range count).map fun i => (bytes.drop (i * portionSize)).take portionSize

/-- A decoded file: the texts of the portions before a fault, and the fault. -/
structure Decoded where
  texts : List (List Char)
  fault : Option EncodingError
  deriving Repr

/-- Decodes portion after portion; at the end the bytes of a cut character are faulty. -/
def decodePortions (e : Encoding) (cut : List UInt8) : List (List UInt8) → Decoded
  | [] =>
    let p := decodePortion e true cut
    match p.rest with
    | .ok _ => ⟨[p.text], none⟩
    | .error fault => ⟨[], some fault⟩
  | bytes :: more =>
    let p := decodePortion e false (cut ++ bytes)
    match p.rest with
    | .ok cut =>
      let d := decodePortions e cut more
      ⟨p.text :: d.texts, d.fault⟩
    | .error fault => ⟨[], some fault⟩

/-- The bytes after a byte order mark. -/
def dropMark : List UInt8 → List UInt8
  | 0xEF :: 0xBB :: 0xBF :: rest => rest
  | bytes => bytes

/-- The portions of a file without its byte order mark, which stands in the first one. -/
def unmarked : List (List UInt8) → List (List UInt8)
  | [] => []
  | first :: more =>
    if first.length < 3 ∧ first.isPrefixOf [0xEF, 0xBB, 0xBF] then more else dropMark first :: more

/-- The text without the byte order mark at its start. -/
def withoutMark (d : Decoded) : Decoded :=
  match d.texts with
  | first :: more => { d with texts := first.tail :: more }
  | [] => d

/-- A file of units whose byte order mark says how to read it.  That the mark is missing shows as soon
as a character has been read; a file that ends before that ends too early. -/
def decodeMarked (bytes : List UInt8) : Decoded :=
  match bytes with
  | 0xFF :: 0xFE :: _ => withoutMark (decodePortions (.utf16 false) [] (portions bytes))
  | 0xFE :: 0xFF :: _ => withoutMark (decodePortions (.utf16 true) [] (portions bytes))
  | bytes =>
    match portions bytes with
    | [] => ⟨[], none⟩
    | first :: _ =>
      match (decodePortion .utf16Marked false first).rest with
      | .error fault => ⟨[], some fault⟩
      | .ok cut =>
        if cut.length == first.length then decodePortions .utf16Marked cut [] else ⟨[], some .unmarked⟩

/-- **A file as text.** -/
def decodeFile (e : Encoding) (bytes : List UInt8) : Decoded :=
  match e with
  | .utf16Marked => decodeMarked bytes
  | .utf8Marked => decodePortions e [] (unmarked (portions bytes))
  | e => decodePortions e [] (portions bytes)

end Text
end TableQuery
