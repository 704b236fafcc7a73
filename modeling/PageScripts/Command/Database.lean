import PageScripts.Fault

/-!
# Where the database is

The environment says which database holds the options; what it leaves open has a default.
-/

namespace PageScripts

/-- What is needed to connect to a database. -/
structure Database where
  host : String
  port : Int
  name : String
  user : String
  password : String
  deriving DecidableEq, Repr

/-- The database that an environment describes. -/
def Database.ofEnvironment (env : Listing String String) : Except Fault Database := do
  let get (name missing : String) : String := (env.value? name).getD missing
  let port ← (Json.str (get "PGPORT" "5433")).toInt
  return {
    host := get "PGHOST" "localhost"
    port
    name := get "PGDATABASE" "script_audit"
    user := get "PGUSER" "script_audit"
    password := get "PGPASSWORD" "script_audit"
  }

end PageScripts
