import Courier.Toml.Number
import Courier.Toml.Table
import Courier.Toml.Text

/-!
# Reading TOML

A document is a sequence of lines, each of which is empty, starts a table or gives a key
its value. Values nest in lists and in tables within one line.
-/

namespace Courier.Toml

/-- The limit that nesting, and the parts of a dotted key, have to stay below. -/
def nestingLimit : Nat := 80

/-- Characters of a key without quotes. -/
def isBareKey (c : Char) : Bool := c.isAlphanum || c = '_' || c = '-'

/-- Reads one part of a key. -/
def keyPart : List Char → Scan String
  | [] => .error (.unexpected [])
  | c :: rest =>
    if c = '"' ∨ c = '\'' then shortText (c :: rest)
    else if isBareKey c then
      .ok (String.ofList ((c :: rest).takeWhile isBareKey), (c :: rest).dropWhile isBareKey)
    else .error (.unexpected (c :: rest))

/-- Reads the parts of a key, with blanks allowed around each of them. -/
def keyParts : Nat → List Char → Scan (List String)
  | 0, _ => .error .tooDeep
  | room + 1, cs =>
    (keyPart (skipBlanks cs)).bind fun (part, rest) =>
      match skipBlanks rest with
      | '.' :: rest => (keyParts room rest).map fun (parts, rest) => (part :: parts, rest)
      | rest => .ok ([part], rest)

/-- Reads a key as the parts before the last one and the last one. -/
def key (cs : List Char) : Scan (List String × String) :=
  (keyParts (nestingLimit - 1) cs).bind fun (parts, rest) =>
    match parts.getLast? with
    | some last => .ok ((parts.dropLast, last), rest)
    | none => .error (.unexpected cs)

/-- Reads a truth value. -/
def flag (cs : List Char) : Scan Document :=
  match literal? "true".toList cs, literal? "false".toList cs with
  | some rest, _ => .ok (.flag true, rest)
  | _, some rest => .ok (.flag false, rest)
  | _, _ => .error (.unexpected cs)

/-- A date stands for a table with one field of its own. -/
def dateDocument : Document := .table [("datetime", .other)]

/-- Reads a value of one part. -/
def plainValue (cs : List Char) : Scan Document :=
  match cs with
  | [] => .error (.unexpected [])
  | c :: _ =>
    if c = '"' ∨ c = '\'' then (text cs).map fun (s, rest) => (.text s, rest)
    else if c = 't' ∨ c = 'f' then flag cs
    else if startsDate cs then
      let skipped := if startsTime cs then timeOfDay cs else date cs
      skipped.map fun rest => (dateDocument, rest)
    else
      (number cs).map fun (n, rest) =>
        match n with
        | .integer n => (.integer n, rest)
        | .fractional => (.other, rest)

mutual

/-- Reads a value inside `depth` others. Every value, item and field costs one unit of
`fuel`. -/
def value (fuel depth : Nat) (cs : List Char) : Scan Document :=
  match fuel, cs with
  | 0, _ => .error .tooDeep
  | fuel + 1, '[' :: rest =>
    if nestingLimit ≤ depth + 1 then .error .tooDeep
    else (items fuel (depth + 1) rest).map fun (ds, rest) => (.list ds, rest)
  | fuel + 1, '\x7b' :: rest =>
    if nestingLimit ≤ depth + 1 then .error .tooDeep
    else
      match skipBlanks rest with
      | '\x7d' :: rest => .ok (.table [], rest)
      | rest =>
        (fields fuel (depth + 1) [] rest).map fun (entries, rest) =>
          (.table (entryDocuments entries), rest)
  | _ + 1, cs => plainValue cs

/-- Reads the items of a list up to its bracket. Line ends and comments may stand between
them, and a comma behind the last. -/
def items (fuel depth : Nat) (cs : List Char) : Scan (List Document) :=
  match fuel with
  | 0 => .error .tooDeep
  | fuel + 1 =>
    (skipLines cs).bind fun cs =>
      match cs with
      | ']' :: rest => .ok ([], rest)
      | _ =>
        (value fuel depth cs).bind fun (d, rest) =>
        (skipLines rest).bind fun rest =>
          match rest with
          | ',' :: rest => (items fuel depth rest).map fun (ds, rest) => (d :: ds, rest)
          | ']' :: rest => .ok ([d], rest)
          | rest => .error (.unexpected rest)

/-- Reads the fields of a table within a line up to its brace. -/
def fields (fuel depth : Nat) (entries : Entries) (cs : List Char) : Scan Entries :=
  match fuel with
  | 0 => .error .tooDeep
  | fuel + 1 =>
    (key cs).bind fun ((path, name), rest) =>
    (expect '=' rest).bind fun rest =>
    (value fuel depth (skipBlanks rest)).bind fun (d, rest) =>
    (entries.add path name d .headed).bind fun entries =>
      match skipBlanks rest with
      | ',' :: rest => fields fuel depth entries rest
      | '\x7d' :: rest => .ok (entries, rest)
      | rest => .error (.unexpected rest)

end

/-- A document as far as it is read: its tables, and the table to which lines add. -/
structure Progress where
  root : Entries := []
  current : List String := []

/-- Reads a header after its first bracket and starts its table. -/
def header (p : Progress) (cs : List Char) : Except Fault (Progress × List Char) := do
  let (repeated, rest) := match cs with
    | '[' :: rest => (true, rest)
    | rest => (false, rest)
  let ((path, name), rest) ← key rest
  let rest ← expect ']' rest
  let rest ← if repeated then expect ']' rest else pure rest
  let rest ← lineEnd rest
  let root ← if repeated then p.root.startElement path name else p.root.startTable path name
  return (⟨root, path ++ [name]⟩, rest)

/-- Reads a key and its value and adds them to the current table. -/
def assignment (p : Progress) (cs : List Char) : Except Fault (Progress × List Char) := do
  let ((path, name), rest) ← key cs
  let rest ← expect '=' rest
  let rest := skipBlanks rest
  let (d, rest) ← value (rest.length + 1) 0 rest
  let rest ← lineEnd rest
  let root ← Entries.change .passed (fun origin entries => entries.add path name d origin)
    p.current .headed p.root
  return ({ p with root }, rest)

/-- Reads lines to the end of the document. -/
def lines : Nat → Progress → List Char → Except Fault Progress
  | 0, p, _ => .ok p
  | fuel + 1, p, cs =>
    match skipBlanks cs with
    | [] => .ok p
    | '[' :: rest => (header p rest).bind fun (p, rest) => lines fuel p rest
    | rest =>
      match newline? rest with
      | some rest => lines fuel p rest
      | none =>
        if rest.head? = some '#' then (lineEnd rest).bind fun rest => lines fuel p rest
        else (assignment p rest).bind fun (p, rest) => lines fuel p rest

/-- Reads a document; a byte order mark may stand in front. -/
def read (s : String) : Except Fault Document :=
  let cs := match s.toList with
    | '\ufeff' :: rest => rest
    | cs => cs
  (lines (cs.length + 1) {} cs).map fun p => .table (entryDocuments p.root)

/-- What TOML settings allow. -/
def settingsRules : Dialect where
  isEmptyPayload
    | .table [] => true
    | .list [] => true
    | _ => false
  allowsExcess := true

end Courier.Toml
