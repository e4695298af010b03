import StorageFleet.Catalog

/-!
# Counters

The fleet counts how often a session had to be renewed, by endpoint, and how asynchronous jobs
ended.  `Counters.exposition` writes the counters in the text format that collectors scrape: each
family that was used, in order of the names, with its samples in order of the label values.
-/

namespace StorageFleet

/-- How an asynchronous job ended. -/
inductive JobEnd where
  | done
  | failed
  | timeout
  deriving Repr, DecidableEq, Inhabited

/-- The label of an ending. -/
def JobEnd.label : JobEnd → String
  | .done => "done"
  | .failed => "failed"
  | .timeout => "timeout"

/-- Something that is counted. -/
inductive Counter where
  | relogin (endpoint : String)
  | job (ending : JobEnd)
  deriving Repr, DecidableEq, Inhabited

/-- How often each thing was counted. -/
structure Counters where
  relogins : Catalog Nat := .empty
  jobs : Catalog Nat := .empty
  deriving Inhabited

/-- A group of counters that differ in the value of one label. -/
structure CounterFamily where
  name : String
  help : String
  label : String

namespace Counters

/-- Counts once more under `key`. -/
def bump (table : Catalog Nat) (key : String) : Catalog Nat :=
  table.insert key ((table.find? key).getD 0 + 1)

/-- Counts once. -/
def add (counters : Counters) : Counter → Counters
  | .relogin endpoint => { counters with relogins := bump counters.relogins endpoint }
  | .job ending => { counters with jobs := bump counters.jobs ending.label }

/-- The renewals of sessions. -/
def reloginFamily : CounterFamily where
  name := "nexentastor_csi_relogins_total"
  help := "Session renewals after an expired token"
  label := "endpoint"

/-- The ends of jobs. -/
def jobFamily : CounterFamily where
  name := "nexentastor_csi_async_jobs_total"
  help := "Asynchronous appliance jobs by outcome"
  label := "outcome"

/-- The families with their counts, in order of the names. -/
def families (counters : Counters) : List (CounterFamily × Catalog Nat) :=
  [(jobFamily, counters.jobs), (reloginFamily, counters.relogins)]

/-- How a character stands in the value of a label. -/
def labelChar (c : Char) : List Char :=
  if c = '\\' then ['\\', '\\']
  else if c = '"' then ['\\', '"']
  else if c = '\n' then ['\\', 'n']
  else [c]

/-- The value of a label in quotes. -/
def labelValue (text : String) : String :=
  String.ofList ('"' :: text.toList.flatMap labelChar ++ ['"'])

/-- One line per counter of a family. -/
def sampleLines (family : CounterFamily) (table : Catalog Nat) : List String :=
  table.entries.map fun sample =>
    family.name ++ "\x7b" ++ family.label ++ "=" ++ labelValue sample.1 ++ "\x7d " ++
      toString sample.2

/-- The lines of all counters. -/
def lines (counters : Counters) : List String :=
  counters.families.flatMap fun family => sampleLines family.1 family.2

/-- The lines of a family with its heading; none if it was never used. -/
def familyLines (family : CounterFamily) (table : Catalog Nat) : List String :=
  if table.entries.isEmpty then []
  else
    ["# HELP " ++ family.name ++ " " ++ family.help, "# TYPE " ++ family.name ++ " counter"] ++
      sampleLines family table

/-- All families with their headings. -/
def exposition (counters : Counters) : String :=
  String.join ((counters.families.flatMap fun family => familyLines family.1 family.2).map
    fun line => line ++ "\n")

end Counters

/-- The class of a status: its first digit, with everything unusual counted as a server's fault. -/
def statusClass (status : Nat) : String :=
  if 100 ≤ status ∧ status ≤ 199 then "1xx"
  else if 200 ≤ status ∧ status ≤ 299 then "2xx"
  else if 300 ≤ status ∧ status ≤ 399 then "3xx"
  else if 400 ≤ status ∧ status ≤ 499 then "4xx"
  else "5xx"

end StorageFleet
