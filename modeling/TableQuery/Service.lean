/-
# TableQuery.Service — a database set up from settings.

Settings name the default collation, whether changes need a condition, and how grave a log record
has to be.  A service is a database that is set up so, with its first log record written.
-/
import TableQuery.Database.Basic
import TableQuery.Settings

namespace TableQuery

/-- The database of engine settings. -/
def EngineSettings.database (s : EngineSettings) : Except Collation.LocaleError Database :=
  return { collation := ← Collation.ofName s.collation, guarded := s.guarded, dialect := s.dialect }

namespace Service

/-- The log record of a service that is ready. -/
def ready (s : Settings) (db : Database) : LogRecord :=
  { level := .info, logger := Logger.package.name, event := "virtual_db_container_initialized"
    fields := [(.name "default_collation", .text db.collation.name),
      (.name "sql_dialect", .text s.engine.dialect)] }

/-- **The database of settings**, ready for use. -/
def start (s : Settings) : Except Error Database := do
  let db ← (s.engine.database).mapError .locale
  let db := { db with telemetry := { threshold := Level.ofName? s.observation.level } }
  return { db with telemetry := db.telemetry.record (ready s db) }

end Service
end TableQuery
