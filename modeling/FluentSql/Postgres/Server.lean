import FluentSql.Postgres.Decode
import FluentSql.Postgres.Encode
/-!
# `FluentSql.Postgres.Server` — a server that answers from a script

The server describes every statement in the same way and answers every execution with the same rows
and the same tag. It keeps the messages that it received.
-/

namespace FluentSql.Postgres

/-- **A message to the server.** -/
inductive Message where
  /-- A text to run as it is. -/
  | query (sql : String)
  /-- A statement to prepare. -/
  | prepare (sql : String)
  /-- The parameters of the statement prepared last, which is executed. -/
  | bind (cells : List (Option (List UInt8)))
  deriving DecidableEq, Repr, Inhabited

/-- **A scripted server.** -/
structure Server where
  /-- The types of the parameters of every statement. -/
  paramTypes : List ColumnType := []
  /-- The columns of every result. -/
  columns : List ResultColumn := []
  /-- The rows of every result. -/
  rows : List (List (Option (List UInt8))) := []
  /-- The tag that ends every execution. -/
  tag : String := "SELECT 0"
  /-- The messages so far, the first one first. -/
  received : List Message := []
  deriving Inhabited

/-- **Messages that can be sent.** The text of a statement ends where it holds a NUL, so one that does
    is not sent at all; the cells of parameters hold any bytes. -/
def Message.isSendable : Message → Bool
  | .query sql => !sql.toList.contains '\x00'
  | .prepare sql => !sql.toList.contains '\x00'
  | .bind _ => true

namespace Server

/-- **Answers that can be read.** The text of a tag ends where it holds a NUL, and nothing may follow. -/
def isReadable (s : Server) : Bool := !s.tag.toList.contains '\x00'

/-- A message received. -/
def receive (message : Message) (s : Server) : Server :=
  { s with received := s.received ++ [message] }

/-- **The rows that a tag counts**: its last word, if that is a number. -/
def affected (s : Server) : Nat :=
  let word := (s.tag.toList.reverse.takeWhile (· != ' ')).reverse
  match Number.parseWhole .unsigned64 word with
  | .ok n => n.toNat
  | .error _ => 0

end Server

end FluentSql.Postgres
