import PgCollections.Config.Postgres
import PgCollections.Postgres.Parameter

/-!
# Servers

A `Server` is what lies behind a pool of connections. It can refuse each request, and each request
may change its state `τ`. `Server.scripted` is a server whose next answers are part of its state.
-/

namespace PgCollections

/-- What a server says about a statement before it is executed. -/
structure Description where
  parameters : List PgType := []
  columns : List (String × PgType) := []

/-- What a server says after a statement was executed. -/
structure Completion where
  rows : List (List (Option Bytes)) := []
  /-- The command tag: the name of the command, and in most cases a count. -/
  tag : String := ""

/-- A request that the server may refuse. -/
abbrev Request (τ : Type) := ExceptT DriverError (StateM τ)

structure Server (τ : Type) where
  /-- Opens a pool of connections with the given settings. -/
  connect : (settings : PgConfig) → Request τ Unit
  /-- Takes a connection out of the pool for the statement that follows. -/
  acquire : Request τ Unit
  describe : (sql : String) → Request τ Description
  execute : (sql : String) → List Argument → Request τ Completion
  /-- Closes the pool. -/
  close : StateM τ Unit

/-! ### Scripted servers -/

structure Pool where
  size : Nat := 0
  /-- The connections that are in use. -/
  held : Nat := 0
  closed : Bool := false
deriving DecidableEq

namespace Pool

/-- A connection can be taken out of the pool. -/
def check (pool : Pool) : Except DriverError Unit :=
  if pool.closed then .error .poolClosed
  else if pool.size ≤ pool.held then .error .poolTimedOut
  else .ok ()

end Pool

/-- The answers to the next statement, and what has been bound to it. -/
structure ServerScript where
  /-- What happens when a pool with the given settings is opened. -/
  connection : PgConfig → Except DriverError Unit := fun _ => .ok ()
  pool : Pool := {}
  description : Except DriverError Description := .ok {}
  completion : Except DriverError Completion := .ok {}
  bound : Option (List Argument) := none

namespace Server

def scripted : Server ServerScript where
  connect settings script :=
    let pool : Pool := { size := settings.maxPoolSize }
    (do script.connection settings; pool.check, { script with pool })
  acquire script := (script.pool.check, script)
  describe _ script := (script.description, script)
  execute _ arguments script := (script.completion, { script with bound := some arguments })
  close script := ((), { script with pool := { script.pool with closed := true } })

/-- A server that cannot be reached. -/
def unreachable (e : DriverError) : Server Unit where
  connect _ := throw e
  acquire := throw e
  describe _ := throw e
  execute _ _ := throw e
  close := pure ()

end Server

end PgCollections
