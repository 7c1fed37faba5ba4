namespace WalCheckpoint

/-! The stream being read: a logical server and a database on it. -/

structure Source where
  server : String
  database : String
  server_ne : server ≠ ""
  database_ne : database ≠ ""
  deriving DecidableEq

namespace Source

inductive NameError where
  | serverMissing
  | databaseMissing
  deriving DecidableEq, Repr

def NameError.message : NameError → String
  | .serverMissing => "server_name must be non-empty"
  | .databaseMissing => "db_name must be non-empty"

/-- A source needs both names. -/
def make (server database : Option String) : Except NameError Source :=
  if hserver : server.getD "" = "" then .error .serverMissing
  else if hdatabase : database.getD "" = "" then .error .databaseMissing
  else .ok ⟨server.getD "", database.getD "", hserver, hdatabase⟩

def partitionKey : String := "server"

def partition (s : Source) : List (String × String) :=
  [(partitionKey, s.server)]

end Source

end WalCheckpoint
