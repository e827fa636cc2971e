import FormCheck.Config.Toml
import FormCheck.Text.Quoted
import FormCheck.Text.Basic

/-!
# Configuration files

A configuration file holds TOML. A file that is missing or blank gives the default configuration.

## Main definitions

* `Config.File` : what is found where a configuration file should be.
* `Config.load` : the configuration of a file.
* `Config.LoadError` : what can go wrong.
-/

namespace FormCheck.Config

/-- What is found where a configuration file should be. -/
inductive File where
  /-- Nothing. -/
  | missing
  /-- Something that cannot be read, such as a directory. -/
  | unreadable
  /-- A file with the given bytes. -/
  | bytes (content : ByteArray)

/-- What can go wrong when a configuration is loaded. -/
inductive LoadError where
  /-- The file cannot be read, or its bytes are no text. -/
  | notRead
  /-- The text is no configuration. -/
  | notParsed
  deriving DecidableEq, Repr

namespace LoadError

/-- What went wrong. -/
def summary : LoadError → String
  | .notRead => "Failed to read validation config"
  | .notParsed => "Failed to parse validation config"

/-- The text of an error for a file with the given path. -/
def message (path : String) (e : LoadError) : String := e.summary ++ ": " ++ Text.quoted path

end LoadError

/-- The configuration of a text from a file. -/
def ofFileText (s : String) : Except LoadError Config :=
  if s.toList.all Text.isBlank then .ok default
  else
    match ofTomlText? s with
    | some config => .ok config
    | none => .error .notParsed

/-- The configuration of a file. -/
def load : File → Except LoadError Config
  | .missing => .ok default
  | .unreadable => .error .notRead
  | .bytes content =>
    match String.fromUTF8? content with
    | none => .error .notRead
    | some s => ofFileText s

end FormCheck.Config
