import PgCollections.Config.Basic
import PgCollections.Toml.Document

/-!
# Configuration files

Configurations are written in TOML. `Config.ofText` reads the text, `Config.ofBytes` the contents
of a file, and `Config.defaultPath` tells where the file lies if no place is given.
-/

namespace PgCollections.Config

/-- An empty table or list. -/
def isEmptyContainer : Json → Bool
  | .array [] | .object [] => true
  | _ => false

/-- In a file an empty table or list stands for nothing, and a list may be longer than a record. -/
def fileStyle : Json.Style := ⟨isEmptyContainer, true⟩

def ofText (text : String) : Except DbError Config :=
  match (Toml.parse? text).bind (ofJson? fileStyle) with
  | some config => .ok config
  | none => .error (.config .malformed)

/-- Reads the contents of a file, or nothing if there is no file. -/
def ofBytes (contents : Option Bytes) : Except DbError Config :=
  match contents with
  | none => .error (.io .notFound)
  | some bytes =>
    match bytes.toString? with
    | some text => ofText text
    | none => .error (.io .notUtf8)

/-- A path with a name joined to it. -/
def joinPath (directory name : String) : String :=
  if directory.endsWith "/" then directory ++ name else directory ++ "/" ++ name

/-- The file in the configuration directory: an absolute one that is given, else the one in the
home directory. -/
def defaultPath (home : String) (configHome : Option String) : String :=
  let directory := (configHome.filter (·.startsWith "/")).getD (joinPath home ".config")
  joinPath (joinPath directory "pgdbs") "config.toml"

end PgCollections.Config
