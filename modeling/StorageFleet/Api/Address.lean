import StorageFleet.Number.Digits
import StorageFleet.Text.Percent

/-!
# Socket addresses

The HTTP interface listens on a host and a number of that host: `1.2.3.4:80` or `[::1]:80`.
`SocketAddress.parse?` accepts exactly these two forms.
-/

namespace StorageFleet.Api

/-- The address of a host. -/
inductive HostAddress where
  /-- Four numbers below 256. -/
  | four (parts : List Nat)
  /-- Eight numbers below 65536. -/
  | six (groups : List Nat)
  deriving Repr, DecidableEq, Inhabited

/-- Where to listen. -/
structure SocketAddress where
  host : HostAddress
  portNumber : Nat
  deriving Repr, DecidableEq, Inhabited

namespace SocketAddress

/-- Where the interface listens unless told otherwise. -/
def standard : String := "0.0.0.0:8090"

/-- The digits at the start of a text, and their value, if it is at most `limit`. -/
def readNumber (limit : Nat) (cs : List Char) : Option (Nat × List Char × List Char) := do
  let digits := cs.takeWhile Char.isDigit
  if digits.isEmpty then none
  let value ← Number.readDigits 10 0 digits
  if limit < value then none
  return (value, digits, cs.drop digits.length)

/-- Reads one of the four numbers of an address: at most three digits, without zeros in front. -/
def readPart (cs : List Char) : Option (Nat × List Char) := do
  let digits := (cs.takeWhile Char.isDigit).take 3
  if digits.isEmpty || (2 ≤ digits.length && digits.head? == some '0') then none
  let value ← Number.readDigits 10 0 digits
  if 255 < value then none
  return (value, cs.drop digits.length)

/-- Passes a character that must come next. -/
def readMark (mark : Char) : List Char → Option (List Char)
  | c :: rest => if c = mark then some rest else none
  | [] => none

/-- Reads the four numbers of an address. -/
def readFour (cs : List Char) : Option (List Nat × List Char) := do
  let (a, cs) ← readPart cs
  let (b, cs) ← readPart (← readMark '.' cs)
  let (c, cs) ← readPart (← readMark '.' cs)
  let (d, cs) ← readPart (← readMark '.' cs)
  return ([a, b, c, d], cs)

/-- Reads one of the eight numbers of an address: up to four digits in base sixteen. -/
def readGroup (cs : List Char) : Option (Nat × List Char) := do
  let digits := (cs.takeWhile fun c => (Text.hexValue? c).isSome).take 4
  if digits.isEmpty then none
  let value := digits.foldl (fun value c => value * 16 + (Text.hexValue? c).getD 0) 0
  return (value, cs.drop digits.length)

/-- Passes the colon between two groups; before the first there is none. -/
def readColon (first : Bool) (cs : List Char) : Option (List Char) :=
  if first then some cs else readMark ':' cs

/-- Reads up to `room` groups, the last two perhaps as four numbers; also says whether they were. -/
def readGroups (first : Bool) : Nat → List Char → List Nat × Bool × List Char
  | 0, cs => ([], false, cs)
  | room + 1, cs =>
    let embedded := if room = 0 then none else (readColon first cs).bind readFour
    match embedded with
    | some ([a, b, c, d], rest) => ([a * 256 + b, c * 256 + d], true, rest)
    | _ => match (readColon first cs).bind readGroup with
      | some (group, rest) =>
        let (groups, embedded, rest) := readGroups false room rest
        (group :: groups, embedded, rest)
      | none => ([], false, cs)

/-- Reads the eight numbers of an address; two colons stand for one or more zeros. -/
def readSix (cs : List Char) : Option (List Nat × List Char) := do
  let (front, embedded, cs) := readGroups true 8 cs
  if front.length = 8 then return (front, cs)
  if embedded then none
  let cs ← readMark ':' (← readMark ':' cs)
  let (back, _, cs) := readGroups true (7 - front.length) cs
  return (front ++ List.replicate (8 - front.length - back.length) 0 ++ back, cs)

/-- Passes the number of a network interface, if there is one. -/
def skipScope (cs : List Char) : Option (List Char) :=
  match cs with
  | '%' :: rest => (readNumber Number.max32 rest).map fun read => read.2.2
  | _ => some cs

/-- Reads the host of an address, with brackets around one of eight numbers. -/
def readHost (cs : List Char) : Option (HostAddress × List Char) :=
  match readFour cs with
  | some (parts, cs) => some (.four parts, cs)
  | none => do
    let (groups, cs) ← readSix (← readMark '[' cs)
    return (.six groups, ← readMark ']' (← skipScope cs))

/-- Reads an address. -/
def parse? (text : String) : Option SocketAddress := do
  let (host, cs) ← readHost text.toList
  let (portNumber, _, rest) ← readNumber 65535 (← readMark ':' cs)
  if rest.isEmpty then return ⟨host, portNumber⟩
  none

/-- Whether the host is this one, whatever networks it is on. -/
def isLocal (address : SocketAddress) : Bool :=
  match address.host with
  | .four parts => parts.head? == some 127 || parts == [0, 0, 0, 0]
  | .six groups => groups.dropLast.all (· == 0) && groups.getLast?.any (· ≤ 1)

end SocketAddress
end StorageFleet.Api
