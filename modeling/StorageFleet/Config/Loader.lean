import StorageFleet.Config.Document
import StorageFleet.Text.Utf8

/-!
# Watching the configuration file

A `Loader` remembers the content of the file that was last read with success.  Reading it again
tells whether the content has changed since; a file that cannot be used leaves the memory as it is.
-/

namespace StorageFleet

/-- What is remembered of a configuration file. -/
structure Loader where
  /-- Where the file is. -/
  path : String
  /-- The content that was last read with success. -/
  last : Option String := none
  deriving Repr, DecidableEq, Inhabited

namespace Loader

/-- The text of a file, which may be missing. -/
def readText (path : String) (file : Option (List UInt8)) : Except Fault String :=
  let refuse (why : String) : Except Fault String :=
    .error (.configuration ("cannot read " ++ path ++ ": " ++ why))
  match file with
  | none => refuse "No such file or directory (os error 2)"
  | some bytes => match Text.decodeUtf8? bytes with
    | some text => .ok text
    | none => refuse "stream did not contain valid UTF-8"

/-- Reads the file: whether its content has changed, and the configuration; and what is remembered
then. -/
def refresh (loader : Loader) (file : Option (List UInt8)) :
    Except Fault (Bool × Config) × Loader :=
  match readText loader.path file with
  | .error fault => (.error fault, loader)
  | .ok text => match Config.ofYaml text with
    | .error fault => (.error fault, loader)
    | .ok config => (.ok (loader.last ≠ some text, config), { loader with last := some text })

/-- Forgets the content, so that it counts as changed when it is read next. -/
def invalidate (loader : Loader) : Loader :=
  { loader with last := none }

end Loader
end StorageFleet
