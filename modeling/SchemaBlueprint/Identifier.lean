import SchemaBlueprint.Error
import SchemaBlueprint.Text.Case
import SchemaBlueprint.Text.Segment

/-!
Identifiers: which names may become one, and how they are written. Names are written bare, so that
the server folds them to upper case as it does everywhere else. Only a reserved word is quoted, and
then in upper case, so that it still means the folded name.
-/

namespace SchemaBlueprint.Identifier

set_option autoImplicit false

/-- Why `name` cannot be an identifier, if it cannot: it is empty, holds a null character or is too
long. Statements cannot bind identifiers as parameters, so names are checked before they are used. -/
def fault? (name : String) : Option IdentifierFault :=
  if name.isEmpty then some .empty
  else if name.toList.contains '\x00' then some (.nullCharacter name)
  else if name.utf8ByteSize > greatestIdentifierSize then some (.tooLong name)
  else none

def validate (name : String) : Except SchemaError Unit :=
  match fault? name with
  | some fault => .error (.config (.identifier fault))
  | none => .ok ()

/-- The words that may not be written bare, in upper case. -/
structure Policy where
  reserved : List String

def Policy.ofWords (words : List String) : Policy := ⟨words.map Text.upper⟩

def serverWords : List String :=
  ["ACCESS", "ADD", "ALL", "ALTER", "AND", "ANY", "ARRAY", "AS", "ASC", "AUDIT", "BEGIN",
   "BETWEEN", "BY", "CASE", "CAST", "CHAR", "CHECK", "CLUSTER", "COLUMN", "COMMENT", "COMMIT",
   "COMPRESS", "CONNECT", "CONSTRAINT", "CONTEXT", "CREATE", "CROSS", "CURRENT", "CURSOR",
   "DATE", "DECIMAL", "DECLARE", "DEFAULT", "DELETE", "DESC", "DISTINCT", "DOMAIN", "DROP",
   "ELSE", "END", "EXCEPTION", "EXCLUSIVE", "EXEC", "EXECUTE", "EXISTS", "EXIT", "FALSE",
   "FETCH", "FILE", "FLOAT", "FOR", "FOREIGN", "FROM", "FULL", "FUNCTION", "GOTO", "GRANT",
   "GROUP", "HAVING", "IDENTIFIED", "IDENTITY", "IF", "IMMEDIATE", "IN", "INCREMENT", "INDEX",
   "INITIAL", "INNER", "INSERT", "INTEGER", "INTERSECT", "INTERVAL", "INTO", "IS", "JOIN",
   "LEFT", "LEVEL", "LIKE", "LIMIT", "LOCK", "LOGIN", "LONG", "LOOP", "MAXEXTENTS", "MINUS",
   "MLSLABEL", "MODE", "MODIFY", "NATURAL", "NEW", "NEXT", "NOAUDIT", "NOCOMPRESS", "NOT",
   "NOWAIT", "NULL", "NUMBER", "OF", "OFFLINE", "OFFSET", "ON", "ONLINE", "OPTION", "OR",
   "ORDER", "OUTER", "OVERLAPS", "PCTFREE", "PRIMARY", "PRIOR", "PRIVILEGES", "PROCEDURE",
   "PUBLIC", "RAISE", "RAW", "REFERENCES", "RENAME", "RESOURCE", "RETURN", "REVOKE", "RIGHT",
   "ROLLBACK", "ROW", "ROWID", "ROWNUM", "ROWS", "SAVEPOINT", "SELECT", "SESSION", "SET",
   "SHARE", "SIZE", "SMALLINT", "SOME", "START", "SUCCESSFUL", "SYNONYM", "SYSDATE", "TABLE",
   "THEN", "TO", "TOP", "TRIGGER", "TRUE", "TRUNCATE", "UID", "UNION", "UNIQUE", "UPDATE",
   "USER", "USING", "VALIDATE", "VALUES", "VARCHAR", "VARCHAR2", "VERIFY", "VIEW", "WHEN",
   "WHENEVER", "WHERE", "WITH"]

def Policy.server : Policy := Policy.ofWords serverWords

def Policy.isReserved (policy : Policy) (name : String) : Bool :=
  policy.reserved.contains (Text.upper name)

/-- One segment of a name as it is written: a reserved word in upper case between double quotes, with
quotes inside it doubled, and anything else as it stands. A star is never quoted. -/
def Policy.wrapSegment (policy : Policy) (segment : String) : String :=
  if segment = "*" then segment
  else if policy.isReserved segment then
    Text.upper ("\"" ++ Text.double '"' segment ++ "\"")
  else segment

def Policy.wrap (policy : Policy) (name : String) : String :=
  ".".intercalate ((Text.splitAt '.' name).map policy.wrapSegment)

def Policy.columnize (policy : Policy) (names : List String) : String :=
  ", ".intercalate (names.map policy.wrap)

end SchemaBlueprint.Identifier
