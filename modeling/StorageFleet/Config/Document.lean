import StorageFleet.Config.Basic
import StorageFleet.Yaml.Node

/-!
# Configurations as YAML documents

A configuration is written as a YAML document.  Every scalar can be taken for a text, whatever it
looks like; only an optional text tells the null values, which must be plain, from others.
`Config.ofYaml` reads a document and checks what it says.
-/

namespace StorageFleet

namespace Yaml.Node

/-- The words for null. -/
def isNullWord (text : String) : Bool :=
  text == "null" || text == "Null" || text == "NULL" || text == "~"

/-- The text of a scalar. -/
def text? : Node → Option String
  | .scalar _ _ text => some text
  | _ => none

/-- The text of a scalar, or `some none` if it is null. -/
def optionalText? : Node → Option (Option String)
  | .scalar (some tag) .plain text =>
    if tag == Tag.null then if isNullWord text then some none else none
    else some (some text)
  | .scalar none .plain text =>
    if text.isEmpty || isNullWord text then some none else some (some text)
  | .scalar _ _ text => some (some text)
  | _ => none

/-- The truth value that a word stands for. -/
def boolWord? (text : String) : Option Bool :=
  if text == "true" || text == "True" || text == "TRUE" then some true
  else if text == "false" || text == "False" || text == "FALSE" then some false
  else none

/-- The truth value of a plain scalar, or of a literal one that is tagged as such. -/
def bool? : Node → Option Bool
  | .scalar _ .plain text => boolWord? text
  | .scalar (some tag) .literal text => if tag == Tag.bool then boolWord? text else none
  | _ => none

/-- The protocol that a scalar names, by its text or by a local tag on nothing. -/
def mount? : Node → Option MountType
  | .scalar tag style text =>
    match tag.bind Tag.localName? with
    | some name =>
      if style = .plain && (text.isEmpty || isNullWord text) then MountType.ofName name else none
    | none => MountType.ofName text
  | _ => none

/-- The entries of a mapping by the text of their keys; nothing at all is an empty mapping. -/
def entries? : Node → Option (List (String × Node))
  | .mapping _ entries => entries.mapM fun entry => entry.1.text?.map fun key => (key, entry.2)
  | .scalar _ .plain text => if text.isEmpty then some [] else none
  | _ => none

/-- The field of a record through `read`; `none` if it stands twice or cannot be read, and
`absent` if it does not stand at all. -/
def field (entries : List (String × Node)) (key : String) (read : Node → Option α)
    (absent : Option α) : Option α :=
  match entries.filter fun entry => entry.1 == key with
  | [] => absent
  | [entry] => read entry.2
  | _ => none

end Yaml.Node

open Yaml

/-- Reads the settings of a backend. -/
def BackendConfig.ofNode? (node : Node) : Option BackendConfig := do
  let entries ← node.entries?
  let text (key : String) : Option String := Node.field entries key Node.text? none
  let optional (key : String) : Option (Option String) :=
    Node.field entries key Node.optionalText? (some none)
  return {
    restIp := ← text "restIp"
    username := ← text "username"
    password := ← text "password"
    defaultDataset := ← optional "defaultDataset"
    defaultDataIp := ← optional "defaultDataIp"
    defaultMountFsType := ← Node.field entries "defaultMountFsType" Node.mount? (some .nfs)
    defaultMountOptions := ← optional "defaultMountOptions"
    mountPointPermissions := ← optional "mountPointPermissions"
    zone := ← optional "zone"
    insecureSkipVerify := ← Node.field entries "insecureSkipVerify" Node.bool? (some true) }

namespace Config

/-- Reads the backends; one that stands twice keeps its first place and its last settings. -/
def backendsOfNode? (node : Node) : Option (List (String × BackendConfig)) := do
  let entries ← node.entries?
  let backends ← entries.mapM fun entry =>
    (BackendConfig.ofNode? entry.2).map fun backend => (entry.1, backend)
  return backends.foldl (fun placed entry => placeByName entry.1 entry.2 placed) []

/-- Reads a configuration. -/
def ofNode? (node : Node) : Option Config := do
  let entries ← node.entries?
  return {
    backends := ← Node.field entries "nexentastor_map" backendsOfNode? none
    debug := ← Node.field entries "debug" Node.bool? (some false) }

/-- The configuration of a document, if it can be used. -/
def ofYaml (text : String) : Except Fault Config :=
  match (Node.ofText? text).bind ofNode? with
  | none => .error (.yamlParse "not a configuration")
  | some config => config.check.map fun _ => config

end Config
end StorageFleet
