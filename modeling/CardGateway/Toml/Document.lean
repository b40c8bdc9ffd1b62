import CardGateway.Toml.Scalar
import CardGateway.Toml.Text

/-!
# TOML documents

Lines of keys and values below headers of tables. A table is defined once: dotted keys extend only
tables that dotted keys or longer headers brought about, and headers only those that longer headers
did.
-/

namespace CardGateway.Toml

/-- The text behind a comment or the end of a line; none inside a line. -/
def endOfLine? (text : List Char) : Option (List Char) :=
  let text := text.dropWhile isBlank
  let text := match text with
    | '#' :: rest => rest.dropWhile isPrintable
    | text => text
  match text with
  | [] => some []
  | text => newline? text

/-- Skips blanks, comments and line breaks. -/
def skipBlankLines : Nat → List Char → List Char
  | 0, text => text
  | steps + 1, text =>
      match endOfLine? text with
      | some (c :: rest) => skipBlankLines steps (c :: rest)
      | some [] => []
      | none => text.dropWhile isBlank

namespace Entries

/-- Puts a value below the parts of a dotted key. The tables on the way are those of dotted keys; only
at the last of them can that be wrong unnoticed. -/
def putDotted (value : Value) : List String → Entries → Option Entries
  | [], _ => none
  | [key], entries =>
      match entries.find? key with
      | some _ => none
      | none => some (entries.put key value)
  | key :: next :: rest, entries =>
      match entries.find? key with
      | none => do
          return entries.put key (.table .dotted (← putDotted value (next :: rest) []))
      | some (.table .dotted inner) => do
          return entries.put key (.table .dotted (← putDotted value (next :: rest) inner))
      | some (.table .passed inner) => do
          guard (!rest.isEmpty)
          return entries.put key (.table .passed (← putDotted value (next :: rest) inner))
      | some _ => none

/-- Changes the table that a header leads to, or its parent. -/
def alter (change : Entries → Option Entries) : List String → Entries → Option Entries
  | [], entries => change entries
  | key :: rest, entries =>
      match entries.find? key with
      | none => do return entries.put key (.table .passed (← alter change rest []))
      | some (.table .inline _) => none
      | some (.table origin inner) => do
          return entries.put key (.table origin (← alter change rest inner))
      | some (.tables items) =>
          match items.getLast? with
          | some last => do
              return entries.put key (.tables (items.dropLast ++ [← alter change rest last]))
          | none => none
      | some _ => none

def openTable (key : String) (entries : Entries) : Option Entries :=
  match entries.find? key with
  | none => some (entries.put key (.table .header []))
  | some (.table .passed inner) => some (entries.put key (.table .header inner))
  | some _ => none

/-- Opens one more table in the list `key`. -/
def openItem (key : String) (entries : Entries) : Option Entries :=
  match entries.find? key with
  | none => some (entries.put key (.tables [[]]))
  | some (.tables items) => some (entries.put key (.tables (items ++ [[]])))
  | some _ => none

end Entries

mutual

/-- The value at the front, `depth` brackets deep. -/
def value? : Nat → Nat → List Char → Option (Value × List Char)
  | 0, _, _ => none
  | steps + 1, depth, text =>
      match text with
      | [] => none
      | c :: rest =>
          if c == '"' || c == '\'' then (string? text).map fun (s, rest) => (.text s, rest)
          else if c == '[' then do
            guard (depth + 1 < depthLimit)
            let (items, rest) ← items? steps (depth + 1) rest
            return (.list items, rest)
          else if c == '\x7b' then do
            guard (depth + 1 < depthLimit)
            let (entries, rest) ← match rest.dropWhile isBlank with
              | '\x7d' :: rest => some ([], rest)
              | rest => members? steps (depth + 1) [] rest
            return (.table .inline entries, rest)
          else scalar? text

def items? : Nat → Nat → List Char → Option (List Value × List Char)
  | 0, _, _ => none
  | steps + 1, depth, text =>
      match skipBlankLines text.length text with
      | ']' :: rest => some ([], rest)
      | text => do
          let (first, rest) ← value? steps depth text
          match skipBlankLines rest.length rest with
          | ',' :: rest =>
              let (items, rest) ← items? steps depth rest
              return (first :: items, rest)
          | ']' :: rest => return ([first], rest)
          | _ => none

/-- The members up to the closing brace, added to those before them. -/
def members? : Nat → Nat → Entries → List Char → Option (Entries × List Char)
  | 0, _, _, _ => none
  | steps + 1, depth, entries, text => do
      let (key, rest) ← key? text
      let rest ← rest.head?.bind fun c => if c == '=' then some (rest.drop 1) else none
      let (value, rest) ← value? steps depth (rest.dropWhile isBlank)
      let entries ← entries.putDotted value key
      match rest.dropWhile isBlank with
      | ',' :: rest => members? steps depth entries rest
      | '\x7d' :: rest => return (entries, rest)
      | _ => none

end

/-- A document read so far, and the header under which its next keys stand. -/
structure Draft where
  root : Entries
  header : List String

namespace Draft

def openTable (draft : Draft) (path : List String) : Option Draft := do
  let key ← path.getLast?
  return ⟨← draft.root.alter (Entries.openTable key) path.dropLast, path⟩

def openItem (draft : Draft) (path : List String) : Option Draft := do
  let key ← path.getLast?
  return ⟨← draft.root.alter (Entries.openItem key) path.dropLast, path⟩

def put (draft : Draft) (key : List String) (value : Value) : Option Draft := do
  return { draft with root := ← draft.root.alter (Entries.putDotted value key) draft.header }

/-- One line, or several where a value spans them. -/
def line? (draft : Draft) (text : List Char) : Option (Draft × List Char) :=
  match text with
  | '[' :: '[' :: rest => do
      let (path, rest) ← key? rest
      match rest with
      | ']' :: ']' :: rest => return (← draft.openItem path, ← endOfLine? rest)
      | _ => none
  | '[' :: rest => do
      let (path, rest) ← key? rest
      match rest with
      | ']' :: rest => return (← draft.openTable path, ← endOfLine? rest)
      | _ => none
  | _ => do
      let (key, rest) ← key? text
      match rest with
      | '=' :: rest =>
          let (value, rest) ← value? (3 * rest.length + 3) 0 (rest.dropWhile isBlank)
          return (← draft.put key value, ← endOfLine? rest)
      | _ => none

def lines? : Nat → Draft → List Char → Option Draft
  | 0, _, _ => none
  | steps + 1, draft, text =>
      match skipBlankLines text.length text with
      | [] => some draft
      | text => do
          let (draft, rest) ← draft.line? text
          lines? steps draft rest

end Draft

/-- The entries of a document; none if the text is not TOML. A byte order mark may lead it. -/
def parse? (text : String) : Option Entries :=
  let chars := match text.toList with
    | '\uFEFF' :: rest => rest
    | chars => chars
  (Draft.lines? (chars.length + 1) ⟨[], []⟩ chars).map (·.root)

end CardGateway.Toml
