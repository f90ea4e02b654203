/-
# TableQuery.Text.Utf8 — bytes as text, valid or not.

A byte string is cut into pieces, each either a well-formed character or a maximal run of bytes that
begins a character and cannot be completed.  The three readings of a byte string (refusing, with a
replacement character for each bad piece, and with each bad byte kept as a code point of its own)
differ only in what they do with a bad piece.

## §A — pieces.
## §B — the three readings.
-/
namespace TableQuery

/-! ## §A — pieces -/

/-- A piece of a byte string: a character, or bytes that start one and do not finish it. -/
inductive Utf8.Piece where
  | char (value : Char)
  | bad (bytes : List UInt8)
  deriving DecidableEq, Repr

namespace Utf8

/-- What a first byte announces: its payload bits, how many bytes follow, and the range of the
second byte (narrower where overlong forms, surrogates or too large values would start). -/
def lead? (b : UInt8) : Option (Nat × Nat × UInt8 × UInt8) :=
  let n := b.toNat
  if 0xC2 ≤ n ∧ n ≤ 0xDF then some (n - 0xC0, 1, 0x80, 0xBF)
  else if n = 0xE0 then some (0, 2, 0xA0, 0xBF)
  else if n = 0xED then some (0xD, 2, 0x80, 0x9F)
  else if 0xE1 ≤ n ∧ n ≤ 0xEF then some (n - 0xE0, 2, 0x80, 0xBF)
  else if n = 0xF0 then some (0, 3, 0x90, 0xBF)
  else if 0xF1 ≤ n ∧ n ≤ 0xF3 then some (n - 0xF0, 3, 0x80, 0xBF)
  else if n = 0xF4 then some (4, 3, 0x80, 0x8F)
  else none

/-- Reads `count` more bytes of a character, the next one between `low` and `high`.  Answers the
bytes read, their bits, whether all were there, and what is left. -/
def follow : Nat → UInt8 → UInt8 → Nat → List UInt8 → List UInt8 × Nat × Bool × List UInt8
  | 0, _, _, bits, rest => ([], bits, true, rest)
  | _ + 1, _, _, bits, [] => ([], bits, false, [])
  | count + 1, low, high, bits, b :: rest =>
    if low ≤ b ∧ b ≤ high then
      let (taken, value, complete, left) :=
        follow count 0x80 0xBF (bits * 64 + (b.toNat - 0x80)) rest
      (b :: taken, value, complete, left)
    else ([], bits, false, b :: rest)

/-- Nothing is added to what is left. -/
theorem length_follow (count : Nat) (low high : UInt8) (bits : Nat) (s : List UInt8) :
    (follow count low high bits s).2.2.2.length ≤ s.length := by
  induction count generalizing low high bits s with
  | zero => simp [follow]
  | succ count ih =>
    cases s with
    | nil => simp [follow]
    | cons b rest =>
      rw [follow]
      split
      · exact Nat.le_succ_of_le (ih ..)
      · exact Nat.le_refl _

/-- **Pieces** — the byte string cut into characters and bad runs, in order. -/
def pieces : List UInt8 → List Piece
  | [] => []
  | b :: rest =>
    if b < 0x80 then .char (Char.ofNat b.toNat) :: pieces rest
    else
      match lead? b with
      | none => .bad [b] :: pieces rest
      | some (bits, count, low, high) =>
        let r := follow count low high bits rest
        have : (follow count low high bits rest).2.2.2.length ≤ rest.length := length_follow ..
        if r.2.2.1 then .char (Char.ofNat r.2.1) :: pieces r.2.2.2
        else .bad (b :: r.1) :: pieces r.2.2.2
termination_by s => s.length
decreasing_by
  · exact Nat.lt_succ_self _
  · exact Nat.lt_succ_self _
  · exact Nat.lt_succ_of_le this
  · exact Nat.lt_succ_of_le this

/-! ## §B — the three readings -/

/-- The text, if every byte belongs to a character. -/
def decode? (bytes : List UInt8) : Option (List Char) :=
  (pieces bytes).mapM fun
    | .char c => some c
    | .bad _ => none

/-- The text with a replacement character for each bad piece. -/
def decodeLossy (bytes : List UInt8) : List Char :=
  (pieces bytes).map fun
    | .char c => c
    | .bad _ => '\uFFFD'

/-- The code points of the text, each bad byte standing as `0xDC00` plus the byte, so that distinct
byte strings have distinct code points. -/
def decodePoints (bytes : List UInt8) : List Nat :=
  (pieces bytes).flatMap fun
    | .char c => [c.toNat]
    | .bad bs => bs.map fun b => 0xDC00 + b.toNat

end Utf8
end TableQuery
