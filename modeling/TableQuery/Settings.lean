/-
# TableQuery.Settings — settings and where they come from.

Settings have three sections.  Each value comes from what the caller gives, else from the
environment, else from a default.  A variable of the environment names a section and a field; a
variable that names a section alone holds a whole section as JSON.  A value that is of another kind
than its field is converted where it says the same, and refused otherwise; all refusals are reported
together.

## §A — settings.
## §B — refusals.
## §C — fields.
## §D — sections.
## §E — sources.
-/
import TableQuery.Collation.Basic
import TableQuery.Error
import TableQuery.Value.Json

namespace TableQuery

/-! ## §A — settings -/

/-- Settings of the engine. -/
structure EngineSettings where
  collation : String := "BINARY"
  guarded : Bool := true
  dialect : String := "sqlite"
  deriving DecidableEq, Repr

/-- Settings of the server. -/
structure ServerSettings where
  host : String := "0.0.0.0"
  port : Int := 8000
  metricsPort : Int := 8001
  deriving DecidableEq, Repr

/-- Settings of logs and traces. -/
structure ObservationSettings where
  level : String := "INFO"
  format : String := "json"
  endpoint : Option String := none
  service : String := "virtual_db"
  deriving DecidableEq, Repr

/-- All settings. -/
structure Settings where
  engine : EngineSettings := {}
  server : ServerSettings := {}
  observation : ObservationSettings := {}
  deriving DecidableEq, Repr

namespace Settings

/-! ## §B — refusals -/

/-- A value, or every refusal met on the way to it. -/
abbrev Checked (α : Type) := Except (List Refusal) α

/-- Two checked values, with the refusals of both. -/
def both {α β : Type} (a : Checked α) (b : Checked β) : Checked (α × β) :=
  match a, b with
  | .ok a, .ok b => .ok (a, b)
  | .ok _, .error es => .error es
  | .error es, .ok _ => .error es
  | .error es, .error fs => .error (es ++ fs)

/-- The refusals of what stands in a place. -/
def inside {α : Type} (place : String) (a : Checked α) : Checked α :=
  a.mapError fun es => es.map fun e => { e with place := place :: e.place }

/-- A single refusal. -/
def refuse {α : Type} (kind : String) : Checked α := .error [⟨[], kind⟩]

/-! ## §C — fields -/

/-- A text. -/
def asText : Value → Checked String
  | .text s => .ok s
  | .blob bytes =>
    match Utf8.decode? bytes with
    | some s => .ok (String.ofList s)
    | none => refuse "string_unicode"
  | _ => refuse "string_type"

/-- A text that may be absent. -/
def asOptionalText : Value → Checked (Option String)
  | .null => .ok none
  | v => some <$> asText v

/-- The name of a collation: a text that is not blank, without the blanks at its ends. -/
def asCollation (v : Value) : Checked String := do
  let s := Text.trim (← asText v).toList
  if s.isEmpty then refuse "value_error" else return String.ofList s

/-- One of some texts. -/
def asChoice (choices : List String) : Value → Checked String
  | .text s => if choices.contains s then .ok s else refuse "literal_error"
  | _ => refuse "literal_error"

/-- The words for the truth values. -/
def truthWords : List (String × Bool) :=
  [("0", false), ("off", false), ("f", false), ("false", false), ("n", false), ("no", false),
   ("1", true), ("on", true), ("t", true), ("true", true), ("y", true), ("yes", true)]

/-- A truth value of a whole number. -/
def truthOfInt (i : Int) : Checked Bool :=
  if i = 0 then .ok false else if i = 1 then .ok true else refuse "bool_parsing"

/-- A truth value: itself, a word for it, or one of the numbers 0 and 1. -/
def asTruth : Value → Checked Bool
  | .bool b => .ok b
  | .text s =>
    match truthWords.find? (·.1 == String.ofList (s.toList.map Char.toLower)) with
    | some (_, b) => .ok b
    | none => refuse "bool_parsing"
  | .int i => truthOfInt i
  | .float x =>
    match Number.whole? (.float x) with
    | .ok (some i) => truthOfInt i
    | _ => refuse "bool_type"
  | _ => refuse "bool_type"

/-- Digits in which single underscores part digits. -/
def spacedDigits? : List Char → Option (List Char)
  | [] => none
  | [c] => if Json.isDigit c then some [c] else none
  | c :: '_' :: rest => if Json.isDigit c then (spacedDigits? rest).map (c :: ·) else none
  | c :: rest => if Json.isDigit c then (spacedDigits? rest).map (c :: ·) else none

/-- A text without a fraction of zeros. -/
def withoutZeros (s : List Char) : List Char :=
  if s.contains '.' ∧ (s.dropWhile (· ≠ '.')).tail.all (· == '0') then s.takeWhile (· ≠ '.') else s

/-- The whole number that a text writes. -/
def wholeOfText? (s : List Char) : Option Int := do
  let (negative, ds) := Number.splitSign (withoutZeros (Text.trim s))
  let n : Int := Text.digitsValue (← spacedDigits? ds)
  return if negative then -n else n

/-- A whole number: itself, a text that writes one, a truth value, or a number without fraction. -/
def asWhole : Value → Checked Int
  | .int i => .ok i
  | .bool b => .ok (if b then 1 else 0)
  | .float x =>
    match x.toRat?, Number.whole? (.float x) with
    | none, _ => refuse "finite_number"
    | some _, .ok (some i) => .ok i
    | _, _ => refuse "int_from_float"
  | .text s =>
    if digitLimit < (Text.trim s.toList).length then refuse "int_parsing_size"
    else
      match wholeOfText? s.toList with
      | some i => .ok i
      | none => refuse "int_parsing"
  | _ => refuse "int_type"

/-- A port: a whole number from 1 to 65535. -/
def asPort (v : Value) : Checked Int := do
  let i ← asWhole v
  if i < 1 then refuse "greater_than_equal"
  else if 65535 < i then refuse "less_than_equal"
  else return i

/-! ## §D — sections -/

/-- A field of a section, or its default when the section has no such field. -/
def field {α : Type} (fields : List (String × Value)) (name : String) (default : α)
    (check : Value → Checked α) : Checked α :=
  match fields.lookup name with
  | some v => inside name (check v)
  | none => .ok default

/-- The engine section. -/
def engineOf (fields : List (String × Value)) : Checked EngineSettings := do
  let d : EngineSettings := {}
  let (collation, guarded, dialect) ←
    both (field fields "default_collation" d.collation asCollation)
      (both (field fields "require_where_for_dml" d.guarded asTruth)
        (field fields "sql_dialect" d.dialect asText))
  return { collation, guarded, dialect }

/-- The server section. -/
def serverOf (fields : List (String × Value)) : Checked ServerSettings := do
  let d : ServerSettings := {}
  let (host, port, metricsPort) ←
    both (field fields "host" d.host asText)
      (both (field fields "port" d.port asPort) (field fields "metrics_port" d.metricsPort asPort))
  return { host, port, metricsPort }

/-- The levels of the log. -/
def levels : List String := ["DEBUG", "INFO", "WARNING", "ERROR", "CRITICAL"]

/-- The section on logs and traces. -/
def observationOf (fields : List (String × Value)) : Checked ObservationSettings := do
  let d : ObservationSettings := {}
  let (level, format, endpoint, service) ←
    both (field fields "log_level" d.level (asChoice levels))
      (both (field fields "log_format" d.format (asChoice ["json", "console"]))
        (both (field fields "otel_endpoint" d.endpoint asOptionalText)
          (field fields "otel_service_name" d.service asText)))
  return { level, format, endpoint, service }

/-- A section, which has to be a record. -/
def sectionOf {α : Type} (check : List (String × Value) → Checked α) : Value → Checked α
  | .record fields => check fields
  | _ => refuse "model_type"

/-- The names of the sections. -/
def sections : List String := ["engine", "server", "observability"]

/-- There are no other sections. -/
def noOthers (given : List (String × Value)) : Checked Unit :=
  match given.filter fun s => !sections.contains s.1 with
  | [] => .ok ()
  | others => .error (others.map fun s => ⟨[s.1], "extra_forbidden"⟩)

/-- **Settings from the sections that are given.** -/
def ofSections (given : List (String × Value)) : Checked Settings := do
  let (engine, server, observation, _) ←
    both (field given "engine" {} (sectionOf engineOf))
      (both (field given "server" {} (sectionOf serverOf))
        (both (field given "observability" {} (sectionOf observationOf)) (noOthers given)))
  return { engine, server, observation }

/-! ## §E — sources -/

mutual

/-- A value with another written over it: records field by field, anything else as a whole. -/
def overlay : Value → Value → Value
  | .record low, .record high => .record (overlayAll low high)
  | _, high => high

/-- Members written over members. -/
def overlayAll (low : List (String × Value)) : List (String × Value) → List (String × Value)
  | [] => low
  | (name, v) :: rest =>
    let v := match low.lookup name with
      | some w => overlay w v
      | none => v
    overlayAll (Json.setMember low name v) rest

end

/-- What the names of all variables begin with. -/
def variableStart : List Char := "virtual_db_".toList

/-- The parts of a name between double underscores. -/
def nameParts : List Char → List (List Char)
  | [] => [[]]
  | '_' :: '_' :: rest => [] :: nameParts rest
  | c :: rest =>
    match nameParts rest with
    | [] => [[c]]
    | part :: more => (c :: part) :: more

/-- Writes a text at the end of a way of names. -/
def writeAt (text : Value) : List String → Value → Value
  | [], _ => text
  | name :: way, at_ =>
    let members := match at_ with
      | .record fields => fields
      | _ => []
    .record (Json.setMember members name (writeAt text way ((members.lookup name).getD .null)))

/-- The variables with their names in lower case; of names that are then the same the last counts. -/
def spelled (env : List (String × String)) : List (String × Value) :=
  env.foldl (fun vs (name, text) =>
    Json.setMember vs (String.ofList (Text.lower name.toList)) (.text text)) []

/-- The way of a variable inside a section; none when it does not name the section. -/
def wayInside? (sectionName name : String) : Option (List String) :=
  let start := variableStart ++ sectionName.toList ++ ['_', '_']
  if start.isPrefixOf name.toList then
    some ((nameParts (name.toList.drop start.length)).map String.ofList)
  else none

/-- The fields of a section that variables of the environment write. -/
def written (vars : List (String × Value)) (sectionName : String) : Value :=
  vars.foldl (fun fields (name, text) =>
    match wayInside? sectionName name with
    | some way => writeAt text way fields
    | none => fields) (.record [])

/-- A section of the environment: the JSON of its own variable with the fields written over it. -/
def ofEnvironment (vars : List (String × Value)) (sectionName : String) :
    Except Error (Option Value) :=
  let fields := written vars sectionName
  match vars.lookup (String.ofList variableStart ++ sectionName) with
  | some (.text json) =>
    match Json.read json.toList with
    | .ok (.record members) => .ok (some (overlay (.record members) fields))
    | .ok v => .ok (some v)
    | .error _ => .error (.settingsText sectionName)
  | _ =>
    match fields with
    | .record [] => .ok none
    | fields => .ok (some fields)

/-- The sections of the environment. -/
def environment (env : List (String × String)) : Except Error (List (String × Value)) := do
  let vars := spelled env
  let found ← sections.mapM fun s => return (s, ← ofEnvironment vars s)
  return found.filterMap fun (s, v) => v.map fun v => (s, v)

/-- **Settings** from what is given, written over the environment. -/
def load (env : List (String × String)) (given : List (String × Value)) : Except Error Settings := do
  let low ← environment env
  (ofSections (overlayAll low given)).mapError .invalid

/-- Settings of the engine alone. -/
def loadEngine (given : List (String × Value)) : Except Error EngineSettings :=
  (engineOf given).mapError .invalid

end Settings
end TableQuery
