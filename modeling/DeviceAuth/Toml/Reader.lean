import DeviceAuth.Toml.Draft
import DeviceAuth.Toml.Quoted

/-!
**Reading TOML documents.** A document is a list of lines: pairs, headers, comments and empty ones.
`Toml.parse?` gives its table. Values are nested less than 80 deep, paths have fewer than 80 names.
The fuel is paid by the characters that are read.
-/

namespace DeviceAuth.Toml

/-- How many values may stand inside each other, and names in a path. -/
def depthLimit : Nat := 80

/-! ### Between the parts -/

/-- Drops blanks, comments and the ends of lines. -/
def skipGaps : (inComment : Bool) → List Char → List Char
  | _, [] => []
  | _, '\n' :: rest => skipGaps false rest
  | _, '\r' :: '\n' :: rest => skipGaps false rest
  | true, char :: rest => if isPlain char then skipGaps true rest else char :: rest
  | false, char :: rest =>
    if char = '#' then skipGaps true rest
    else if char = ' ' ∨ char = '\t' then skipGaps false rest
    else char :: rest

/-- Drops what may follow on a line: blanks, a comment and the end of the line. -/
def dropLineEnd? (text : List Char) : Option (List Char) :=
  let rest :=
    match skipBlanks text with
    | '#' :: rest => rest.dropWhile isPlain
    | rest => rest
  if rest.isEmpty then some [] else dropNewline? rest

/-! ### Names -/

/-- Whether a character may stand in a name without quotes. -/
def isNameChar (char : Char) : Bool :=
  char.isAlphanum || char == '_' || char == '-'

/-- A name, and the text after it. -/
def scanName? (text : List Char) : Option (String × List Char) :=
  match text with
  | [] => none
  | first :: _ =>
    if first = '"' ∨ first = '\'' then
      (scanLine? text).map fun (content, rest) => (String.ofList content, rest)
    else if isNameChar first then
      some (String.ofList (text.takeWhile isNameChar), text.dropWhile isNameChar)
    else none

/-- Names with points between them, and the text after them. -/
def scanNames : (fuel : Nat) → List Char → Option (List String × List Char)
  | 0, _ => none
  | fuel + 1, text => do
    let (name, rest) ← scanName? (skipBlanks text)
    match skipBlanks rest with
    | '.' :: rest =>
      let (names, rest) ← scanNames fuel rest
      return (name :: names, rest)
    | rest => return ([name], rest)

/-- A path and the name at its end, and the text after them. -/
def scanPath? (text : List Char) : Option (List String × String × List Char) := do
  let (names, rest) ← scanNames (text.length + 1) text
  if names.length < depthLimit then return (names.dropLast, ← names.getLast?, rest) else none

/-! ### Values -/

/-- Whether a character ends a word. -/
def endsWord (char : Char) : Bool :=
  char == ' ' || char == '\t' || char == '\n' || char == '\r' || char == ',' || char == ']'
    || char == '}' || char == '#'

/-- A value without quotes, and the text after it. A date and a time may have a blank between
them. -/
def scanWord? (text : List Char) : Option (Toml × List Char) :=
  let word := text.takeWhile (!endsWord ·)
  let rest := text.dropWhile (!endsWord ·)
  let single := (ofWord? word).map fun value => (value, rest)
  match rest with
  | ' ' :: next =>
    let time := next.takeWhile (!endsWord ·)
    if isDate word ∧ isTime time then
      some (moment (String.ofList (word ++ ' ' :: time)), next.dropWhile (!endsWord ·))
    else single
  | _ => single

mutual

/-- A value, and the text after it. -/
def scanValue : (fuel depth : Nat) → List Char → Option (Toml × List Char)
  | 0, _, _ => none
  | fuel + 1, depth, text =>
    match text with
    | '[' :: rest =>
      if depth + 1 < depthLimit then
        (scanItems fuel (depth + 1) rest).map fun (items, rest) => (array items, rest)
      else none
    | '\x7b' :: rest =>
      if depth + 1 < depthLimit then do
        let (pairs, rest) ←
          match skipBlanks rest with
          | '\x7d' :: rest => some ([], rest)
          | rest => scanPairs fuel (depth + 1) rest
        let members ← addPairs pairs []
        return (table (Draft.finishMembers members), rest)
      else none
    | '"' :: _ =>
      (scanText? text).map fun (content, rest) => (.string (String.ofList content), rest)
    | '\'' :: _ =>
      (scanText? text).map fun (content, rest) => (.string (String.ofList content), rest)
    | _ => scanWord? text

/-- The items of an array up to its closing bracket; a comma may follow the last one. -/
def scanItems : (fuel depth : Nat) → List Char → Option (List Toml × List Char)
  | 0, _, _ => none
  | fuel + 1, depth, text =>
    match skipGaps false text with
    | ']' :: rest => some ([], rest)
    | first => do
      let (item, rest) ← scanValue fuel depth first
      match skipGaps false rest with
      | ']' :: rest => return ([item], rest)
      | ',' :: rest =>
        let (items, rest) ← scanItems fuel depth rest
        return (item :: items, rest)
      | _ => none

/-- A name and its value, and the text after them. -/
def scanPair : (fuel depth : Nat) → List Char → Option (Pair × List Char)
  | 0, _, _ => none
  | fuel + 1, depth, text => do
    let (path, name, rest) ← scanPath? text
    let (value, rest) ← scanValue fuel depth (skipBlanks (← dropChar? '=' rest))
    return (⟨path, name, value⟩, rest)

/-- One pair or more up to the closing brace of a table. -/
def scanPairs : (fuel depth : Nat) → List Char → Option (List Pair × List Char)
  | 0, _, _ => none
  | fuel + 1, depth, text => do
    let (pair, rest) ← scanPair fuel depth text
    match skipBlanks rest with
    | '\x7d' :: rest => return ([pair], rest)
    | ',' :: rest =>
      let (pairs, rest) ← scanPairs fuel depth rest
      return (pair :: pairs, rest)
    | _ => none

end

/-! ### Documents -/

/-- A line that says something. -/
inductive Line where
  | pair (pair : Pair)
  /-- A header, which adds a table to an array if its brackets are double. -/
  | header (isItem : Bool) (path : List String) (name : String)

/-- The path in a header that ends with these brackets, as a line, and the text after them. -/
def scanHeader? (isItem : Bool) (closing text : List Char) : Option (Line × List Char) := do
  let (path, name, rest) ← scanPath? text
  if closing.isPrefixOf rest then
    return (.header isItem path name, rest.drop closing.length)
  else none

/-- A line that says something, and the text after it on the line. -/
def scanLineContent? (text : List Char) : Option (Line × List Char) :=
  match text with
  | '[' :: '[' :: rest => scanHeader? true [']', ']'] rest
  | '[' :: rest => scanHeader? false [']'] rest
  | line => (scanPair (line.length + 1) 0 line).map fun (pair, rest) => (.pair pair, rest)

/-- The lines of a text that say something. -/
def scanLines : (fuel : Nat) → List Char → Option (List Line)
  | 0, _ => none
  | fuel + 1, text =>
    match skipBlanks text with
    | [] => some []
    | first :: rest =>
      if first = '#' ∨ first = '\n' ∨ first = '\r' then do
        scanLines fuel (← dropLineEnd? (first :: rest))
      else do
        let (line, rest) ← scanLineContent? (first :: rest)
        let lines ← scanLines fuel (← dropLineEnd? rest)
        return line :: lines

/-- The pairs before the first header, and the sections. -/
def sections : List Line → List Pair × List Section
  | [] => ([], [])
  | .pair pair :: lines =>
    let (pairs, parts) := sections lines
    (pair :: pairs, parts)
  | .header isItem path name :: lines =>
    let (pairs, parts) := sections lines
    ([], ⟨isItem, path, name, pairs⟩ :: parts)

/-- The table of a document, which a byte order mark may start. -/
def parse? (document : String) : Option Toml := do
  let text :=
    match document.toList with
    | '\uFEFF' :: rest => rest
    | unchanged => unchanged
  let (pairs, parts) := sections (← scanLines (text.length + 1) text)
  ofSections? pairs parts

end DeviceAuth.Toml
