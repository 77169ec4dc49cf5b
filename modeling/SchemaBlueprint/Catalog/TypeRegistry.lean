import SchemaBlueprint.StorageType

/-!
What the types of a catalog mean. A type is looked up by its base name; a name of several words falls
back on the longest entry that its words begin with, so that `timestamp with time zone` is found
under `timestamp`.
-/

namespace SchemaBlueprint.Catalog

set_option autoImplicit false

def platformName : String := "dm8"

def identifierQuote : String := ""

/-- The meanings of catalog types, the latest entry first. -/
structure TypeRegistry where
  entries : List (String × String)

namespace TypeRegistry

def standardEntries : List (String × String) :=
  [("tinyint", "smallint"), ("smallint", "smallint"), ("int", "integer"), ("integer", "integer"),
   ("bigint", "bigint"), ("number", "integer"), ("numeric", "decimal"), ("decimal", "decimal"),
   ("real", "float"), ("float", "float"), ("double", "float"), ("binary_float", "float"),
   ("binary_double", "float"), ("pls_integer", "integer"), ("binary_integer", "integer"),
   ("char", "string"), ("character", "string"), ("varchar", "string"), ("varchar2", "string"),
   ("nvarchar", "string"), ("nvarchar2", "string"), ("longvarchar", "text"), ("clob", "text"),
   ("text", "text"), ("long", "text"), ("binary", "blob"), ("varbinary", "blob"),
   ("longvarbinary", "blob"), ("blob", "blob"), ("raw", "binary"), ("long raw", "blob"),
   ("bfile", "blob"), ("image", "blob"), ("date", "date"), ("time", "time"),
   ("timestamp", "datetime"), ("datetime", "datetime"), ("boolean", "boolean"),
   ("rowid", "string"), ("urowid", "string"), ("xml", "string"), ("json", "json"),
   ("interval year", "string"), ("interval day", "string")]

def standard : TypeRegistry := ⟨standardEntries⟩

/-- Gives a catalog type a meaning, in place of one that it had. -/
def register (registry : TypeRegistry) (type meaning : String) : TypeRegistry :=
  ⟨(Text.lower type, meaning) :: registry.entries⟩

/-- Whether a name is `key`, or begins with it followed by a space. -/
def coversName (key name : List Char) : Bool := name == key || (key ++ [' ']).isPrefixOf name

/-- The entry with the longest key, and the first of several such entries. -/
def longest? : List (String × String) → Option (String × String)
  | [] => none
  | entry :: rest =>
      match longest? rest with
      | none => some entry
      | some best => some (if best.1.length ≤ entry.1.length then entry else best)

def meaning? (registry : TypeRegistry) (type : String) : Option String :=
  let name := (StorageType.baseName type).toList
  (longest? (registry.entries.filter fun entry => coversName entry.1.toList name)).map (·.2)

end TypeRegistry

end SchemaBlueprint.Catalog
