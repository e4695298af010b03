import StorageFleet.Text.Basic

/-!
# Volume and snapshot identifiers

An identifier names the backend that owns a dataset, the dataset's path, and possibly a snapshot:
`backend:path` or `backend:path@snapshot`.  Without a backend it is a bare path that any backend may
own.  The text is cut at its first colon and then at the first at sign of the rest, so a path may
hold further colons, and a snapshot name both.

`Identifier.decode` reads any identifier and `Identifier.encode` writes one.
-/

namespace StorageFleet

/-- A decoded identifier. -/
structure Identifier where
  backend : Option String
  path : String
  snapshot : Option String
  deriving Repr, DecidableEq, Inhabited

namespace Identifier

/-- Separates the backend's name from the path. -/
def backendMark : Char := ':'

/-- Separates the path from the snapshot's name. -/
def snapshotMark : Char := '@'

/-- What is wrong with a text that is no identifier of the wanted kind. -/
inductive Defect where
  | emptyBackend
  | emptySnapshot
  | emptyPath
  | namesSnapshot
  | namesVolume
  deriving Repr, DecidableEq, Inhabited

/-- The defect in words. -/
def Defect.message : Defect → String
  | .emptyBackend => "empty backend name"
  | .emptySnapshot => "empty snapshot name"
  | .emptyPath => "empty dataset path"
  | .namesSnapshot => "expected a volume, got a snapshot"
  | .namesVolume => "expected <backend>:<path>@<snapshot>"

/-- The identifier of a volume on a named backend. -/
def ofVolume (backend path : String) : Identifier :=
  ⟨some backend, path, none⟩

/-- The identifier of a snapshot on a named backend. -/
def ofSnapshot (backend path snapshot : String) : Identifier :=
  ⟨some backend, path, some snapshot⟩

/-- Reads what follows the backend's name. -/
def decodeRest (backend : Option String) (rest : List Char) : Except Defect Identifier :=
  match Text.splitOnce snapshotMark rest with
  | some (path, snapshot) =>
    if snapshot.isEmpty then .error .emptySnapshot
    else if path.isEmpty then .error .emptyPath
    else .ok ⟨backend, String.ofList path, some (String.ofList snapshot)⟩
  | none =>
    if rest.isEmpty then .error .emptyPath else .ok ⟨backend, String.ofList rest, none⟩

/-- Reads any identifier. -/
def decode (id : String) : Except Defect Identifier :=
  match Text.splitOnce backendMark id.toList with
  | some (backend, rest) =>
    if backend.isEmpty then .error .emptyBackend
    else decodeRest (some (String.ofList backend)) rest
  | none => decodeRest none id.toList

/-- Reads an identifier that must name a volume. -/
def decodeVolume (id : String) : Except Defect Identifier :=
  match decode id with
  | .error defect => .error defect
  | .ok identifier =>
    if identifier.snapshot.isSome then .error .namesSnapshot else .ok identifier

/-- Reads an identifier that must name a snapshot. -/
def decodeSnapshot (id : String) : Except Defect Identifier :=
  match decode id with
  | .error defect => .error defect
  | .ok identifier =>
    if identifier.snapshot.isNone then .error .namesVolume else .ok identifier

/-- The path on the appliance: `path` or `path@snapshot`. -/
def fullPath (identifier : Identifier) : String :=
  match identifier.snapshot with
  | some snapshot => identifier.path ++ "@" ++ snapshot
  | none => identifier.path

/-- The volume that a snapshot belongs to, or the volume itself. -/
def parent (identifier : Identifier) : Identifier :=
  { identifier with snapshot := none }

/-- The written form. -/
def encode (identifier : Identifier) : String :=
  match identifier.backend with
  | some backend => backend ++ ":" ++ identifier.fullPath
  | none => identifier.fullPath

/-- Why a name cannot be a backend's. -/
inductive NameDefect where
  | empty
  | containsMark
  deriving Repr, DecidableEq, Inhabited

/-- Checks that a name can stand in front of the first colon of an identifier. -/
def checkBackendName (name : String) : Except NameDefect Unit :=
  if name.isEmpty then .error .empty
  else if name.toList.contains backendMark || name.toList.contains snapshotMark then
    .error .containsMark
  else .ok ()

end Identifier
end StorageFleet
