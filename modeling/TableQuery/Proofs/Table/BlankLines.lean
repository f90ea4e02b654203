/-
# TableQuery.Proofs.Table.BlankLines — blank lines in files.

A blank line outside quotes is a record without fields, and records without fields give no rows.  So
blank lines may be put in and taken out anywhere behind the header, and the line end of the last
record as well, and the rows of the file stay as they are.  Before the header a blank line is not
skipped: it is taken for the header, and then the header is a row, and no row has a column.

## §A — readings of some lines and of more.
## §B — blank lines.
## §C — rows.
## §D — tables.
-/
import TableQuery.Proofs.Table.Yield
import Mathlib.Logic.Relation

namespace TableQuery
namespace Csv

/-! ## §A — readings of some lines and of more -/

variable {m : Marks}

/-- The record that is being read after some lines. -/
def draftAfter (m : Marks) (p : Draft) : List (List Char) → Draft
  | [] => p
  | line :: rest =>
    let p := line.foldl (Draft.step m) p
    match p.atLineEnd with
    | some _ => draftAfter m {} rest
    | none => draftAfter m p rest

/-- A line inside quotes alone leaves its record open. -/
theorem Draft.atLineEnd_eq_none_iff {p : Draft} : p.atLineEnd = none ↔ p.place = .quoted := by
  unfold atLineEnd
  cases p.place <;> simp

/-- Between two lines a reading stands before a record or inside quotes. -/
theorem draftAfter_cases {p : Draft} (hp : p = {} ∨ p.place = .quoted) (lines : List (List Char)) :
    draftAfter m p lines = {} ∨ (draftAfter m p lines).place = .quoted := by
  induction lines generalizing p with
  | nil => exact hp
  | cons line rest ih =>
      simp only [draftAfter]
      split
      · exact ih (.inl rfl)
      · rename_i hnone
        exact ih (.inr (Draft.atLineEnd_eq_none_iff.mp hnone))

/-- **Outside quotes** — no field in quotes goes on behind the lines. -/
def EndsOutside (m : Marks) (lines : List (List Char)) : Prop :=
  (draftAfter m {} lines).place ≠ .quoted

theorem EndsOutside.draftAfter_eq {lines : List (List Char)} (h : EndsOutside m lines) :
    draftAfter m {} lines = {} :=
  (draftAfter_cases (.inl rfl) lines).resolve_right h

theorem draftAfter_append (p : Draft) (before after : List (List Char)) :
    draftAfter m p (before ++ after) = draftAfter m (draftAfter m p before) after := by
  induction before generalizing p with
  | nil => rfl
  | cons line rest ih =>
      simp only [List.cons_append, draftAfter]
      split <;> exact ih _

/-- **The records of some lines and of more** are those that the first lines complete and those that are
read from there on. -/
theorem recordsFrom_append (m : Marks) (p : Draft) (before : List (List Char)) :
    ∃ completed : List (List String),
      (∀ whole after, recordsFrom m whole p (before ++ after) =
        completed ++ recordsFrom m whole (draftAfter m p before) after) ∧
      (before ≠ [] → (draftAfter m p before).place ≠ .quoted → completed ≠ []) := by
  induction before generalizing p with
  | nil => exact ⟨[], fun _ _ => rfl, fun h => absurd rfl h⟩
  | cons line rest ih =>
      simp only [List.cons_append, recordsFrom, draftAfter]
      cases hend : (line.foldl (Draft.step m) p).atLineEnd with
      | some record =>
          obtain ⟨completed, hcompleted, -⟩ := ih {}
          refine ⟨record :: completed, fun whole after => ?_, fun _ _ => List.cons_ne_nil _ _⟩
          simp only [hcompleted, List.cons_append]
      | none =>
          obtain ⟨completed, hcompleted, hne⟩ := ih (line.foldl (Draft.step m) p)
          refine ⟨completed, hcompleted, fun _ houtside => hne ?_ houtside⟩
          -- The line leaves quotes open, so another one has to close them.
          rintro rfl
          exact houtside (Draft.atLineEnd_eq_none_iff.mp hend)

/-! ## §B — blank lines -/

/-- The line ends, which are the blank lines as well. -/
def lineEnds : List (List Char) := [['\n'], ['\r'], ['\r', '\n']]

/-- **A blank line is a record without fields.** -/
theorem recordsFrom_blank {b : List Char} (hb : b ∈ lineEnds) (whole : Bool)
    (after : List (List Char)) :
    recordsFrom m whole {} (b :: after) = [] :: recordsFrom m whole {} after := by
  simp only [lineEnds, List.mem_cons, List.not_mem_nil, or_false] at hb
  rcases hb with rfl | rfl | rfl <;> simp [recordsFrom, Draft.step, Draft.atLineEnd]

/-- No line is empty. -/
theorem ne_nil_of_mem_lines {line text : List Char} (h : line ∈ lines text) : line ≠ [] := by
  fun_induction lines text with
  | case1 => cases h
  | case2 rest ih =>
      rcases List.mem_cons.mp h with rfl | h
      · exact List.cons_ne_nil _ _
      · exact ih h
  | case3 c rest _ _ ih =>
      rcases List.mem_cons.mp h with rfl | h
      · exact List.cons_ne_nil _ _
      · exact ih h
  | case4 c rest _ _ hrest ih =>
      rw [List.mem_singleton.mp h]
      exact List.cons_ne_nil _ _
  | case5 c rest _ _ first more hrest ih =>
      rcases List.mem_cons.mp h with rfl | h
      · exact List.cons_ne_nil _ _
      · exact ih (hrest ▸ List.mem_cons_of_mem _ h)

/-- A character that ends lines. -/
abbrev IsLineEnd (c : Char) : Prop := c = '\n' ∨ c = '\r'

namespace Draft
variable {p : Draft} {c : Char}

/-- A character within a line stands in a field. -/
theorem place_step (hp : p.place ≠ .ended) (hc : ¬IsLineEnd c) :
    (p.step m c).place ≠ .record ∧ (p.step m c).place ≠ .ended := by
  have hplain (p : Draft) : (p.plain m c).place ≠ .record ∧ (p.plain m c).place ≠ .ended := by
    unfold plain
    rw [if_neg hc]
    split <;> simp [complete, add]
  have hopening (p : Draft) :
      (p.opening m c).place ≠ .record ∧ (p.opening m c).place ≠ .ended := by
    unfold opening
    split
    · simp
    · exact hplain p
  unfold step
  cases hplace : p.place with
  | record =>
      simp only
      rw [if_neg hc]
      exact hopening p
  | field => exact hopening p
  | bare => exact hplain p
  | quoted =>
      simp only
      split <;> simp [add]
  | closing =>
      simp only
      split
      · simp [add]
      · split
        · simp [complete]
        · exact hplain p
  | ended => exact absurd hplace hp

theorem place_foldl {line : List Char} (hp : p.place ≠ .ended) (hne : line ≠ [])
    (hline : ∀ c ∈ line, ¬IsLineEnd c) :
    (line.foldl (step m) p).place ≠ .record ∧ (line.foldl (step m) p).place ≠ .ended := by
  induction line generalizing p with
  | nil => exact absurd rfl hne
  | cons c line ih =>
      have hstep := place_step (m := m) hp (hline c List.mem_cons_self)
      rw [List.foldl_cons]
      by_cases hmore : line = []
      · rw [hmore]
        exact hstep
      · exact ih hstep.2 hmore fun d hd => hline d (List.mem_cons_of_mem c hd)

/-- **Sound** — a quote that has been met is no line end. -/
def Sound (m : Marks) (p : Draft) : Prop :=
  p.place = .quoted ∨ p.place = .closing → ¬IsLineEnd m.quote

theorem Sound.step (h : p.Sound m) : (p.step m c).Sound m := by
  have hplain (p : Draft) : (p.plain m c).Sound m := by
    unfold plain
    split
    · simp [Sound, complete]
    · split <;> simp [Sound, complete, add]
  -- A quote that opens a field is no end of a line, which is what the state within quotes promises.
  have hopening (p : Draft) : (p.opening m c).Sound m := by
    unfold opening
    split
    · rename_i hquote
      exact fun _ hend => hquote.2 (hquote.1 ▸ hend)
    · exact hplain p
  unfold Draft.step
  cases hplace : p.place with
  | record =>
      simp only
      split
      · simp [Sound]
      · exact hopening p
  | field => exact hopening p
  | bare => exact hplain p
  | quoted =>
      have hquote := h (.inl hplace)
      simp only
      split <;> exact fun _ => hquote
  | closing =>
      have hquote := h (.inr hplace)
      simp only
      split
      · exact fun _ => hquote
      · split
        · simp [Sound, complete]
        · exact hplain p
  | ended => exact h

theorem Sound.foldl (h : p.Sound m) (line : List Char) : (line.foldl (Draft.step m) p).Sound m := by
  induction line generalizing p with
  | nil => exact h
  | cons c line ih => exact ih h.step

/-- A line end completes the field that is being read, and leaves the record that it would be without
it. -/
theorem atLineEnd_step (hsound : p.Sound m) (hdelimiter : ¬IsLineEnd m.delimiter)
    (hrecord : p.place ≠ .record) (hended : p.place ≠ .ended) (hquoted : p.place ≠ .quoted)
    (hc : IsLineEnd c) : p.step m c = p.complete .ended ∧ p.atLineEnd = some p.close := by
  have hplain : p.plain m c = p.complete .ended := if_pos hc
  unfold step atLineEnd
  cases hplace : p.place with
  | record => exact absurd hplace hrecord
  | ended => exact absurd hplace hended
  | quoted => exact absurd hplace hquoted
  | field =>
      refine ⟨?_, rfl⟩
      simp only
      rw [opening, if_neg fun h => h.2 hc, hplain]
  | bare => exact ⟨hplain, rfl⟩
  | closing =>
      refine ⟨?_, rfl⟩
      simp only
      rw [if_neg fun h : c = m.quote => hsound (.inr hplace) (h ▸ hc),
        if_neg fun h : c = m.delimiter => hdelimiter (h ▸ hc), hplain]

end Draft

theorem draftAfter_sound {p : Draft} (hp : p.Sound m) (lines : List (List Char)) :
    (draftAfter m p lines).Sound m := by
  induction lines generalizing p with
  | nil => exact hp
  | cons line rest ih =>
      simp only [draftAfter]
      split
      · exact ih (by simp [Draft.Sound])
      · exact ih (hp.foldl line)

/-- **The line end of the last record** may be there or not. -/
theorem recordsFrom_ended {p : Draft} (hsound : p.Sound m) (hp : p.place ≠ .ended)
    (hdelimiter : ¬IsLineEnd m.delimiter) {line e : List Char} (hne : line ≠ [])
    (hline : ∀ c ∈ line, ¬IsLineEnd c) (he : e ∈ lineEnds)
    (houtside : (line.foldl (Draft.step m) p).place ≠ .quoted) (whole : Bool) :
    recordsFrom m whole p [line ++ e] = recordsFrom m whole p [line] := by
  obtain ⟨hrecord, hended⟩ := Draft.place_foldl (m := m) hp hne hline
  have hstep {c : Char} (hc : IsLineEnd c) :=
    Draft.atLineEnd_step (hsound.foldl line) hdelimiter hrecord hended houtside hc
  simp only [recordsFrom, List.foldl_append]
  generalize line.foldl (Draft.step m) p = q at hstep
  have hend := (hstep (.inl rfl)).2
  have hfold : e.foldl (Draft.step m) q = q.complete .ended := by
    simp only [lineEnds, List.mem_cons, List.not_mem_nil, or_false] at he
    rcases he with rfl | rfl | rfl
    · exact (hstep (.inl rfl)).1
    · exact (hstep (.inr rfl)).1
    · rw [List.foldl_cons, (hstep (.inr rfl)).1]
      rfl
  rw [hfold, hend]
  rfl

/-- **The same text but for blank lines** — one text has a blank line more outside quotes, behind the
header if there is to be one, or a line end behind its last record. -/
inductive Blanked (m : Marks) (hasHeader : Bool) (text text' : List Char) : Prop
  | line (before after : List (List Char)) (b : List Char) :
      lines text = before ++ after → lines text' = before ++ b :: after → b ∈ lineEnds →
      EndsOutside m before → (hasHeader = true → before ≠ []) → Blanked m hasHeader text text'
  | ended (before : List (List Char)) (last e : List Char) :
      lines text = before ++ [last] → lines text' = before ++ [last ++ e] → e ∈ lineEnds →
      (∀ c ∈ last, ¬IsLineEnd c) → EndsOutside m (lines text) → ¬IsLineEnd m.delimiter →
      Blanked m hasHeader text text'

/-! ## §C — rows -/

/-- The rows without the remarks on their records. -/
def plainRows (hasHeader : Bool) (records : List (List String)) : List Row :=
  (rows "" hasHeader records).map (·.row)

theorem row_rowOf (path : String) (header : Option (List String)) (number : Nat)
    (record : List String) :
    (rowOf path header number record).row = (rowOf "" header number record).row := by
  cases header <;> rfl

/-- The header and the records that make rows do not hang on the path of the file. -/
theorem exists_rowsOf (hasHeader : Bool) (records : List (List String)) :
    ∃ header left, ∀ path, rows path hasHeader records = rowsOf path header left := by
  cases hasHeader with
  | false => exact ⟨none, records, fun _ => rfl⟩
  | true =>
      cases records with
      | nil => exact ⟨none, [], fun _ => rfl⟩
      | cons header rest => exact ⟨some header, rest, fun _ => rfl⟩

/-- The path of a file has a part in remarks alone. -/
theorem map_row_rows (path : String) (hasHeader : Bool) (records : List (List String)) :
    (rows path hasHeader records).map (·.row) = plainRows hasHeader records := by
  obtain ⟨header, left, hrows⟩ := exists_rowsOf hasHeader records
  rw [plainRows, hrows, hrows]
  apply List.ext_getElem
  · simp [rowsOf]
  · intro i _ _
    simp [rowsOf, row_rowOf path]

/-- Rows are numbered from zero. -/
theorem ids_plainRows (hasHeader : Bool) (records : List (List String)) :
    (plainRows hasHeader records).map (·.id) =
      (List.range (plainRows hasHeader records).length).map fun i => .int i := by
  obtain ⟨header, left, hrows⟩ := exists_rowsOf hasHeader records
  have hid (i : Nat) (record : List String) : (rowOf "" header i record).row.id = .int i := by
    cases header <;> rfl
  rw [plainRows, hrows]
  apply List.ext_getElem
  · simp
  · intro i _ _
    simp [rowsOf, hid]

/-- A record without fields is no row, unless it is the header. -/
theorem plainRows_insert {hasHeader : Bool} {completed : List (List String)}
    (hne : hasHeader = true → completed ≠ []) (more : List (List String)) :
    plainRows hasHeader (completed ++ [] :: more) = plainRows hasHeader (completed ++ more) := by
  have hrowsOf (header : Option (List String)) (first : List (List String)) :
      rowsOf "" header (first ++ [] :: more) = rowsOf "" header (first ++ more) := by
    simp [rowsOf, List.filter_append]
  cases hasHeader with
  | false => exact congrArg (List.map (·.row)) (hrowsOf none completed)
  | true =>
      obtain ⟨header, first, rfl⟩ := List.exists_cons_of_ne_nil (hne rfl)
      exact congrArg (List.map (·.row)) (hrowsOf (some header) first)

/-- **Blank lines make no rows.** -/
theorem Blanked.plainRows_eq {hasHeader : Bool} {text text' : List Char}
    (h : Blanked m hasHeader text text') :
    plainRows hasHeader (records m true (lines text)) =
      plainRows hasHeader (records m true (lines text')) := by
  unfold records
  cases h with
  | line before after b htext htext' hb houtside hheader =>
      -- The line stands between two records, and is read as a record without fields.
      obtain ⟨completed, hcompleted, hne⟩ := recordsFrom_append m {} before
      have hafter := houtside.draftAfter_eq
      rw [htext, htext', hcompleted, hcompleted, hafter, recordsFrom_blank hb]
      exact (plainRows_insert (fun hh => hne (hheader hh) houtside) _).symm
  | ended before last e htext htext' he hlast houtside hdelimiter =>
      -- The line end completes the last record, which the end of the text would have completed.
      obtain ⟨completed, hcompleted, -⟩ := recordsFrom_append m {} before
      have hsound : (draftAfter m {} before).Sound m := draftAfter_sound (by simp [Draft.Sound]) before
      have hplace : (draftAfter m {} before).place ≠ .ended := by
        rcases draftAfter_cases (m := m) (.inl rfl) before with hstart | hquoted
        · simp [hstart]
        · simp [hquoted]
      have hne : last ≠ [] := ne_nil_of_mem_lines (htext ▸ List.mem_append_right _ List.mem_cons_self)
      have hopen : (last.foldl (Draft.step m) (draftAfter m {} before)).place ≠ .quoted := by
        intro hquoted
        apply houtside
        rw [htext, draftAfter_append, draftAfter, Draft.atLineEnd_eq_none_iff.mpr hquoted]
        exact hquoted
      rw [htext, htext', hcompleted, hcompleted,
        recordsFrom_ended hsound hplace hdelimiter hne hlast he hopen]

/-- Nor do any number of changes of blank lines. -/
theorem plainRows_blanked {hasHeader : Bool} {text text' : List Char}
    (h : Relation.EqvGen (Blanked m hasHeader) text text') :
    plainRows hasHeader (records m true (lines text)) =
      plainRows hasHeader (records m true (lines text')) := by
  induction h with
  | rel _ _ h => exact h.plainRows_eq
  | refl _ => rfl
  | symm _ _ _ ih => exact ih.symm
  | trans _ _ _ _ _ ih ih' => exact ih.trans ih'

/-- **Under a header without fields** every record with fields is a row without columns. -/
theorem plainRows_blank_header (more : List (List String)) :
    plainRows true ([] :: more) =
      (List.range (more.filter (!·.isEmpty)).length).map fun i => ⟨.int i, []⟩ := by
  have hrow (i : Nat) (record : List String) :
      (rowOf "" (some []) i record).row = ⟨.int i, []⟩ := rfl
  apply List.ext_getElem
  · simp [plainRows, rows, rowsOf]
  · intro i _ _
    simp [plainRows, rows, rowsOf, hrow]

/-! ## §D — tables -/

/-- **A file that holds a text** — its marks are characters, and its bytes are the text in its
encoding. -/
structure File.Holds (f : File) (m : Marks) (text : List Char) : Prop where
  marks : f.marks = .ok m
  decodes : ∃ e, Text.Encoding.ofName? f.encoding = some e ∧
    (Text.decodeFile e f.bytes).fault = none ∧ (Text.decodeFile e f.bytes).texts.flatten = text

/-- A file of a text in UTF-8 with the usual marks and a header. -/
def File.ofText (text : String) : File := { path := "", bytes := text.toUTF8.toList }

theorem File.holds_ofText {text : String}
    (h : (Text.decodeFile .utf8 text.toUTF8.toList).fault = none ∧
      (Text.decodeFile .utf8 text.toUTF8.toList).texts.flatten = text.toList) :
    (File.ofText text).Holds {} text.toList := by
  have hmarks : (File.ofText text).marks = .ok {} := by
    simp only [marks, mark, ofText, String.toList]
    rfl
  have hname : Text.Encoding.ofName? "utf-8" = some .utf8 := by decide +kernel
  exact ⟨hmarks, .utf8, hname, h⟩

theorem File.Holds.read_eq {f : File} {text : List Char} (h : f.Holds m text) :
    f.read = (rows f.path f.hasHeader (records m true (lines text)), none) := by
  obtain ⟨e, hname, hfault, htext⟩ := h.decodes
  simp only [File.read, hname, h.marks, File.decodedRows, hfault, htext]

end Csv

namespace Table
variable {t : Table}

theorem yields_records (t : Table) (left : List Csv.Numbered) :
    t.Yields (.records left none) (left.map (.row ·.row)) := by
  induction left with
  | nil => exact .done rfl
  | cons r left ih => exact .item rfl ih

/-- **A table over a file yields the rows of its text.** -/
theorem yields_holds {f : Csv.File} {m : Csv.Marks} {text : List Char} (ht : t.content = .file f)
    (hf : f.Holds m text) (c : Collation) :
    t.Yields (.unread c)
      ((Csv.plainRows f.hasHeader (Csv.records m true (Csv.lines text))).map .row) := by
  have hpull : t.pull (.unread c) =
      t.pull (.records (Csv.rows f.path f.hasHeader (Csv.records m true (Csv.lines text))) none) := by
    simp only [pull, ht, hf.read_eq]
  rw [← Csv.map_row_rows f.path, List.map_map]
  exact (yields_records t _).of_pull_eq hpull

/-- **Blank lines behind the header do not matter** — of two files with the same marks, whose texts differ
in blank lines outside quotes and behind the header, tables yield the same rows, numbered from
zero. -/
theorem yields_blanked {t' : Table} {f f' : Csv.File} {m : Csv.Marks} {text text' : List Char}
    (ht : t.content = .file f) (ht' : t'.content = .file f') (hf : f.Holds m text)
    (hf' : f'.Holds m text') (hheader : f'.hasHeader = f.hasHeader)
    (hblank : Relation.EqvGen (Csv.Blanked m f.hasHeader) text text') :
    ∃ rows : List Row, rows.map (·.id) = (List.range rows.length).map (fun i => .int i) ∧
      ∀ c, t.Yields (.unread c) (rows.map .row) ∧ t'.Yields (.unread c) (rows.map .row) := by
  refine ⟨_, Csv.ids_plainRows _ _, fun c => ⟨yields_holds ht hf c, ?_⟩⟩
  rw [Csv.plainRows_blanked hblank, ← hheader]
  exact yields_holds ht' hf' c

/-- Blank lines between records and at the end, and a line end behind a last record that has none; those
inside quotes stay. -/
theorem yields_blanked_between : ∃ rows : List Row,
    rows.map (·.id) = (List.range rows.length).map (fun i => .int i) ∧
      ∀ c, Table.Yields { content := .file (.ofText "a,b\n1,\"x\n\ny\"") } (.unread c)
          (rows.map .row) ∧
        Table.Yields { content := .file (.ofText "a,b\n\n1,\"x\n\ny\"\n\n") } (.unread c)
          (rows.map .row) := by
  have hbetween : Csv.Blanked {} true "a,b\n1,\"x\n\ny\"".toList
      "a,b\n\n1,\"x\n\ny\"".toList := by
    refine .line ["a,b\n".toList] _ ['\n'] rfl rfl (by decide) ?_ (by decide)
    unfold Csv.EndsOutside
    decide
  have hended : Csv.Blanked {} true "a,b\n\n1,\"x\n\ny\"".toList
      "a,b\n\n1,\"x\n\ny\"\n".toList := by
    refine .ended ["a,b\n".toList, ['\n'], "1,\"x\n".toList, ['\n']] "y\"".toList ['\n'] rfl rfl
      (by decide) ?_ ?_ (by decide)
    · simp
    · unfold Csv.EndsOutside
      decide
  have hbehind : Csv.Blanked {} true "a,b\n\n1,\"x\n\ny\"\n".toList
      "a,b\n\n1,\"x\n\ny\"\n\n".toList := by
    refine .line _ [] ['\n'] (List.append_nil _).symm rfl (by decide) ?_ (by decide)
    unfold Csv.EndsOutside
    decide
  refine yields_blanked rfl rfl (Csv.File.holds_ofText ?_) (Csv.File.holds_ofText ?_) rfl
    (.trans _ _ _ (.rel _ _ hbetween) (.trans _ _ _ (.rel _ _ hended) (.rel _ _ hbehind)))
  · decide +kernel
  · decide +kernel

/-- **A blank line before the header is the header**: each record with fields behind it is a row without
columns. -/
theorem yields_blank_header {f : Csv.File} {m : Csv.Marks} {text b : List Char}
    {more : List (List Char)} (ht : t.content = .file f) (hf : f.Holds m text)
    (hheader : f.hasHeader = true) (hblank : Csv.lines text = b :: more) (hb : b ∈ Csv.lineEnds)
    (c : Collation) :
    t.Yields (.unread c)
      ((List.range ((Csv.records m true more).filter (!·.isEmpty)).length).map
        fun i : Nat => .row ⟨.int i, []⟩) := by
  have hyields := yields_holds ht hf c
  rw [hblank, Csv.records, Csv.recordsFrom_blank hb, hheader, Csv.plainRows_blank_header,
    List.map_map] at hyields
  exact hyields

/-- **A blank line before the header costs the columns** and makes a row of the header. -/
theorem yields_blank_first :
    Table.Yields { content := .file (.ofText "a,b\n1,2\n") } (.unread .binary)
        [.row ⟨.int 0, [(.name "a", .text "1"), (.name "b", .text "2")]⟩] ∧
      Table.Yields { content := .file (.ofText "\na,b\n1,2\n") } (.unread .binary)
        [.row ⟨.int 0, []⟩, .row ⟨.int 1, []⟩] := by
  have hright : (Csv.File.ofText "a,b\n1,2\n").Holds {} "a,b\n1,2\n".toList :=
    Csv.File.holds_ofText (by decide +kernel)
  have hwrong : (Csv.File.ofText "\na,b\n1,2\n").Holds {} "\na,b\n1,2\n".toList :=
    Csv.File.holds_ofText (by decide +kernel)
  constructor
  · exact yields_holds rfl hright .binary
  · exact yields_blank_header (b := ['\n']) rfl hwrong rfl rfl (by decide) .binary

end Table
end TableQuery
