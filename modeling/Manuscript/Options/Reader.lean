import Manuscript.Options.Decoding
import Manuscript.Options.Json
import Manuscript.Options.Toml
import Manuscript.Options.Yaml

/-!
# Options from texts

Options can be written in three formats. They say the same in each; a format only decides how values
are written, what stands for an empty content, and whether a list may be too long.
-/

namespace Manuscript

/-- A format for options. -/
inductive OptionsFormat where
  | json
  | yaml
  | toml
deriving DecidableEq, Repr

namespace OptionsFormat

/-- The rules of a format. -/
def dialect : OptionsFormat → Decoding.Dialect
  | json => { isUnit := (· == .null), allowsExtra := false }
  | yaml => { isUnit := fun _ => false, allowsExtra := false }
  | toml => { isUnit := fun value => value == .list [] || value == .record [], allowsExtra := true }

/-- Reads the values of a text. -/
def readValue? : OptionsFormat → Text → Option Value
  | json => Json.read?
  | yaml => Yaml.read?
  | toml => Toml.read?

/-- Reads options. -/
def readOptions? (format : OptionsFormat) (text : Text) : Option Options :=
  (format.readValue? text).bind (Decoding.options? format.dialect)

end OptionsFormat

end Manuscript
