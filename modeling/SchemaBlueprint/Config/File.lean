import SchemaBlueprint.Config.Validation
import SchemaBlueprint.Yaml.Format

/-!
The configuration from the text of a file.
-/

namespace SchemaBlueprint.Config

set_option autoImplicit false

def ofFile (text : String) : Except SchemaError Config := do
  (← Yaml.load (Document.config Yaml.format) text).validate

end SchemaBlueprint.Config
