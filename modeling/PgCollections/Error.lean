import PgCollections.Json.Printer

/-!
# Errors

`DbError` lists the ways in which an operation can fail, by cause. Its wording is in one function
for each type, `message`. A `BackendError` is a failure that the database connection reports; when
it comes from the connection driver it keeps that `DriverError` as its cause.
-/

namespace PgCollections

/-! ### Failures of the connection -/

/-- The failures of a connection driver. -/
inductive DriverError where
  | database (code message : String)
  | io (text : String)
  | tls (text : String)
  | configuration (text : String)
  | poolTimedOut
  | poolClosed
  | workerCrashed
  | rowNotFound
  | protocol (text : String)
  | columnNotFound (name : String)
  | typeNotFound (name : String)
  | decode (text : String)
  | columnIndexOutOfBounds (index size : Nat)
deriving DecidableEq

namespace DriverError

def message : DriverError → String
  | database _ message => "error returned from database: " ++ message
  | io text => "error communicating with database: " ++ text
  | tls text => "error occurred while attempting to establish a TLS connection: " ++ text
  | configuration text => "error with configuration: " ++ text
  | poolTimedOut => "pool timed out while waiting for an open connection"
  | poolClosed => "attempted to acquire a connection on a closed pool"
  | workerCrashed => "attempted to communicate with a crashed background worker"
  | rowNotFound => "no rows returned by a query that expected to return at least one row"
  | protocol text => "encountered unexpected or invalid data: " ++ text
  | columnNotFound name => "no column found for name: " ++ name
  | typeNotFound name => "type named " ++ name ++ " not found"
  | decode text => "error occurred while decoding: " ++ text
  | columnIndexOutOfBounds index size =>
    "column index out of bounds: the len is " ++ toString size ++ ", but the index is " ++
      toString index

/-- The SQLSTATE code that the server sent with the failure. -/
def code? : DriverError → Option String
  | database code _ => some code
  | _ => none

/-- The connection itself failed, or none could be had. -/
def isConnectionFailure : DriverError → Bool
  | io _ | tls _ | configuration _ | poolTimedOut | poolClosed | workerCrashed => true
  | _ => false

end DriverError

/-- A failure that the gateway to the database reports. -/
structure BackendError where
  code : Option String
  message : String
  cause : Option DriverError := none
deriving DecidableEq

namespace BackendError

def ofDriver (e : DriverError) : BackendError := ⟨e.code?, e.message, some e⟩

def isAcquireFailure (e : BackendError) : Bool :=
  e.cause.any DriverError.isConnectionFailure

end BackendError

/-! ### SQLSTATE codes -/

namespace SqlState

def uniqueViolation : String := "23505"

def foreignKeyViolation : String := "23503"

def invalidTextRepresentation : String := "22P02"

def numericValueOutOfRange : String := "22003"

def protocolViolation : String := "08P01"

end SqlState

/-! ### Failures of an operation -/

/-- What is wrong with a filter or with the input of a statement. -/
inductive ValidationError where
  | filterNotObject (v : Json)
  | conditionWithoutOp (field : String)
  | operatorNotObject (v : Json)
  | missingOp
  | inNeedsList (v : Json)
  | ofNeedsObject
  | ofNeedsPath
  | andNeedsList
  | emptyPath (field : String)
  | emptyAnd (field : String)
  | insertWithoutColumns
  | updateWithoutColumns
  | other (text : String)

def ValidationError.message : ValidationError → String
  | filterNotObject v => "filter must be an object, got " ++ v.text
  | conditionWithoutOp field => "condition on '" ++ field ++ "' is an object without 'op'"
  | operatorNotObject v => "expected an operator object, got " ++ v.text
  | missingOp => "operator object is missing 'op'"
  | inNeedsList v => "operator 'in' requires a list, got " ++ v.text
  | ofNeedsObject => "operator 'of' requires \x7b path, value \x7d"
  | ofNeedsPath => "operator 'of' requires a 'path' list"
  | andNeedsList => "operator 'and' requires a list of operators"
  | emptyPath field =>
    "operator 'of' on '" ++ field ++ "' requires at least one path element, got []"
  | emptyAnd field => "operator 'and' on '" ++ field ++ "' requires at least one operator, got []"
  | insertWithoutColumns => "insert requires at least one column"
  | updateWithoutColumns => "update requires at least one column to set"
  | other text => text

/-- What is wrong with a configuration. -/
inductive ConfigError where
  | malformed
  | unknownEngine (name : String)
  | other (text : String)
deriving DecidableEq

def ConfigError.message : ConfigError → String
  | malformed => "malformed configuration text"
  | unknownEngine name => "Config references DB-engine that does not exist: " ++ name
  | other text => text

/-- Why a file could not be read. -/
inductive FileError where
  | notFound
  | notUtf8
  | other (text : String)
deriving DecidableEq

def FileError.message : FileError → String
  | notFound => "No such file or directory (os error 2)"
  | notUtf8 => "stream did not contain valid UTF-8"
  | other text => text

/-- The writes that a unique constraint can refuse. -/
inductive WriteAction where
  | insert
  | update
deriving DecidableEq

def WriteAction.name : WriteAction → String
  | insert => "insert"
  | update => "update"

inductive DbError where
  | validation (cause : ValidationError)
  | unsupportedOperator (tag : String)
  | unknownType (descriptor : String)
  | duplicateKey (action : WriteAction)
  | constraintViolation
  | referentialIntegrity
  | backend (e : BackendError)
  | config (cause : ConfigError)
  | io (cause : FileError)

namespace DbError

def message : DbError → String
  | validation cause => "Validation error: " ++ cause.message
  | unsupportedOperator tag => "Operator not implemented: '" ++ tag ++ "'"
  | unknownType descriptor => "Type not found: " ++ descriptor
  | duplicateKey action => "Tried to " ++ action.name ++ ", not unique"
  | constraintViolation => "Tried to insert, constraints not met"
  | referentialIntegrity => "Tried to remove item that is still a reference"
  | backend e => e.message
  | config cause => "Configuration error: " ++ cause.message
  | io cause => "IO error: " ++ cause.message

/-- The number of a classified failure of the database. -/
def code? : DbError → Option Nat
  | duplicateKey _ => some 1
  | referentialIntegrity => some 2
  | constraintViolation => some 3
  | _ => none

/-- The message of the failure that lies below this one. -/
def sourceMessage? : DbError → Option String
  | io cause => some cause.message
  | backend e => e.cause.map DriverError.message
  | _ => none

end DbError

/-- Why a value was not accepted as a description of something: it has the wrong shape, or what it
says is refused. -/
inductive DecodeError where
  | shape
  | refused (e : DbError)

end PgCollections
