import EditScript.Toml.Scalar

/-!
# Reading TOML

A document is read from left to right. Each function takes the text that is left and gives what
it has read together with what is left after it.

* `Toml.value?`: a value. Arrays and inline tables may be nested so deep as its first argument
  says.
* `Toml.key?`: a dotted key.
* `Toml.document?`: the table that a whole document stands for.

Where a loop has no structure of its own to follow, it is bounded by the length of the text: each
turn takes at least one character.
-/

namespace EditScript.Toml

/-- A space or a tab. -/
def isSpace (c : Char) : Bool := c == ' ' || c == '\t'

/-- The text from its first character that is no space. -/
def skipSpaces (t : Text) : Text := t.dropWhile isSpace

/-- The text after the line break that it starts with. -/
def lineBreak? : Text → Option Text
  | '\n' :: rest => some rest
  | '\r' :: '\n' :: rest => some rest
  | _ => none

/-- The character may stand in a string or in a comment: a tab, or no control character. -/
def isPlain (c : Char) : Bool := c == '\t' || (0x20 ≤ c.toNat && c.toNat ≠ 0x7F)

/-- The text after a comment, if there is one. -/
def skipComment : Text → Text
  | '#' :: rest => rest.dropWhile isPlain
  | t => t

/-- The text after the end of a line that holds nothing more. -/
def lineEnd? (t : Text) : Option Text :=
  match skipComment (skipSpaces t) with
  | [] => some []
  | rest => lineBreak? rest

/-- The text after at most `bound` line ends and the spaces around them. -/
def skipLines (comments : Bool) : Nat → Text → Text
  | 0, t => skipSpaces t
  | bound + 1, t =>
    let t := skipSpaces t
    match lineBreak? (if comments then skipComment t else t) with
    | some rest => skipLines comments bound rest
    | none => t

/-- The character with a code of `count` hexadecimal digits. -/
def hexChar? (count : Nat) (t : Text) : Option (Char × Text) :=
  let digits := t.take count
  let code := digits.foldl (fun n c => n * 16 + digitValue c) 0
  if digits.length = count ∧ digits.all (fun c => digitValue c < 16) ∧ code.isValidChar then
    some (Char.ofNat code, t.drop count)
  else none

/-- The character that an escape sequence stands for, its backslash already read. -/
def escape? : Text → Option (Char × Text)
  | 'b' :: rest => some ('\x08', rest)
  | 't' :: rest => some ('\t', rest)
  | 'n' :: rest => some ('\n', rest)
  | 'f' :: rest => some ('\x0c', rest)
  | 'r' :: rest => some ('\r', rest)
  | '"' :: rest => some ('"', rest)
  | '\\' :: rest => some ('\\', rest)
  | 'u' :: rest => hexChar? 4 rest
  | 'U' :: rest => hexChar? 8 rest
  | _ => none

/-- A string on one line, its first quotation mark already read. -/
def basic? : Nat → Text → Option (Text × Text)
  | 0, _ => none
  | bound + 1, t =>
    match t with
    | '"' :: rest => some ([], rest)
    | '\\' :: rest => do
      let (c, rest) ← escape? rest
      let (s, rest) ← basic? bound rest
      return (c :: s, rest)
    | c :: rest => do
      if !isPlain c then none
      let (s, rest) ← basic? bound rest
      return (c :: s, rest)
    | [] => none

/-- A string on one line without escape sequences, its first apostrophe already read. -/
def literal? (t : Text) : Option (Text × Text) :=
  let body := t.takeWhile fun c => isPlain c && c ≠ '\''
  match t.dropWhile fun c => isPlain c && c ≠ '\'' with
  | '\'' :: rest => some (body, rest)
  | _ => none

/-- A string over several lines, its three marks already read. Three to five marks in a row end
it, and those beyond three belong to it. -/
def long? (mark : Char) (escapes : Bool) : Nat → Text → Option (Text × Text)
  | 0, _ => none
  | bound + 1, t =>
    match t with
    | [] => none
    | c :: rest =>
      if c = mark then
        let run := (t.takeWhile (· = mark)).length
        if run < 3 then do
          let (s, rest) ← long? mark escapes bound (t.drop run)
          return (List.replicate run mark ++ s, rest)
        else if run ≤ 5 then some (List.replicate (run - 3) mark, t.drop run)
        else none
      else if escapes ∧ c = '\\' then
        match lineBreak? (skipSpaces rest) with
        | some rest => long? mark escapes bound (skipLines false rest.length rest)
        | none => do
          let (c, rest) ← escape? rest
          let (s, rest) ← long? mark escapes bound rest
          return (c :: s, rest)
      else
        match lineBreak? t with
        | some rest => do
          let (s, rest) ← long? mark escapes bound rest
          return ('\n' :: s, rest)
        | none => do
          if !isPlain c then none
          let (s, rest) ← long? mark escapes bound rest
          return (c :: s, rest)

/-- A string over several lines; a line break right after the three marks is left out. -/
def longString? (mark : Char) (escapes : Bool) (t : Text) : Option (Text × Text) :=
  let body := (lineBreak? t).getD t
  long? mark escapes (body.length + 1) body

/-- A string of any kind. -/
def string? : Text → Option (Text × Text)
  | '"' :: '"' :: '"' :: rest => longString? '"' true rest
  | '\'' :: '\'' :: '\'' :: rest => longString? '\'' false rest
  | '"' :: rest => basic? (rest.length + 1) rest
  | '\'' :: rest => literal? rest
  | _ => none

/-- The character may stand in a key without quotation marks. -/
def isBareChar (c : Char) : Bool := c.isAlphanum || c == '_' || c == '-'

/-- One part of a key. -/
def simpleKey? (t : Text) : Option (Text × Text) :=
  match t with
  | '"' :: rest => basic? (rest.length + 1) rest
  | '\'' :: rest => literal? rest
  | t =>
    let word := t.takeWhile isBareChar
    if word = [] then none else some (word, t.dropWhile isBareChar)

/-- The parts of a key, with dots between them and spaces around each. -/
def keyParts? : Nat → Text → Option (List Text × Text)
  | 0, _ => none
  | bound + 1, t => do
    let (part, rest) ← simpleKey? (skipSpaces t)
    match skipSpaces rest with
    | '.' :: rest => do
      let (parts, rest) ← keyParts? bound rest
      return (part :: parts, rest)
    | rest => return ([part], rest)

/-- The deepest nesting of tables and arrays. -/
def maxDepth : Nat := 80

/-- A dotted key. -/
def key? (t : Text) : Option (List Text × Text) := do
  let (parts, rest) ← keyParts? (t.length + 1) t
  if parts.length < maxDepth then return (parts, rest) else none

/-- The character may stand in a number, a date or a word. -/
def isWordChar (c : Char) : Bool :=
  c.isAlphanum || c == '_' || c == '+' || c == '-' || c == '.' || c == ':'

/-- A number, a date or a word. A time may follow a date after one space. -/
def scalar? (t : Text) : Option (Toml × Text) :=
  let word := t.takeWhile isWordChar
  let rest := t.dropWhile isWordChar
  let time := (rest.drop 1).takeWhile isWordChar
  if isDate word ∧ rest.head? = some ' ' ∧ isTime isOffset time then
    some (.moment, (rest.drop 1).dropWhile isWordChar)
  else (ofWord? word).map (·, rest)

/-- The items of an array, its opening bracket already read. -/
def items? (item : Text → Option (Toml × Text)) : Nat → Text → Option (List Toml × Text)
  | 0, _ => none
  | bound + 1, t =>
    match skipLines true t.length t with
    | ']' :: rest => some ([], rest)
    | t => do
      let (v, rest) ← item t
      match skipLines true rest.length rest with
      | ']' :: rest => return ([v], rest)
      | ',' :: rest => do
        let (vs, rest) ← items? item bound rest
        return (v :: vs, rest)
      | _ => none

/-- A key, an equals sign and a value, with spaces around each; what they add to a table. -/
def pair? (item : Text → Option (Toml × Text)) (t : Text) :
    Option ((List (Text × Toml) → Option (List (Text × Toml))) × Text) := do
  let (path, rest) ← key? t
  match rest with
  | '=' :: rest => do
    let (v, rest) ← item (skipSpaces rest)
    let last ← path.getLast?
    return (assign v last path.dropLast, skipSpaces rest)
  | _ => none

/-- The entries of an inline table, of which some have been read. -/
def entries? (item : Text → Option (Toml × Text)) :
    Nat → List (Text × Toml) → Text → Option (List (Text × Toml) × Text)
  | 0, _, _ => none
  | bound + 1, entries, t => do
    let (change, rest) ← pair? item t
    let entries ← change entries
    match rest with
    | '\x7d' :: rest => return (entries, rest)
    | ',' :: rest => entries? item bound entries rest
    | _ => none

/-- A value in which arrays and inline tables are nested at most so deep. -/
def value? : Nat → Text → Option (Toml × Text)
  | 0, t =>
    match t.head? with
    | some '"' | some '\'' => do
      let (s, rest) ← string? t
      return (.string s, rest)
    | _ => scalar? t
  | depth + 1, t =>
    match t with
    | '[' :: rest => do
      let (items, rest) ← items? (value? depth) (rest.length + 1) rest
      return (.array items, rest)
    | '\x7b' :: rest =>
      match skipSpaces rest with
      | '\x7d' :: rest => some (.table .inlined [], rest)
      | rest => do
        let (entries, rest) ← entries? (value? depth) (rest.length + 1) [] rest
        return (.table .inlined entries, rest)
    | t =>
      match t.head? with
      | some '"' | some '\'' => do
        let (s, rest) ← string? t
        return (.string s, rest)
      | _ => scalar? t

/-- A document up to some line: its entries, and the path of the last header. -/
structure Draft where
  /-- The entries of the whole document. -/
  root : List (Text × Toml)
  /-- Where the next pair belongs. -/
  path : List Text

/-- A header, its first bracket already read. -/
def header? (d : Draft) (t : Text) : Option (Draft × Text) :=
  match t with
  | '[' :: t => do
    let (path, rest) ← key? t
    let last ← path.getLast?
    match rest with
    | ']' :: ']' :: rest => return (⟨← within (openElement last) path.dropLast d.root, path⟩, rest)
    | _ => none
  | t => do
    let (path, rest) ← key? t
    let last ← path.getLast?
    match rest with
    | ']' :: rest => return (⟨← within (openTable last) path.dropLast d.root, path⟩, rest)
    | _ => none

/-- The first thing on a line: a header, a pair, or nothing. -/
def lineStart? (d : Draft) (t : Text) : Option (Draft × Text) :=
  match skipSpaces t with
  | '[' :: rest => header? d rest
  | rest =>
    if rest = [] ∨ rest.head? = some '#' ∨ (lineBreak? rest).isSome then some (d, rest)
    else do
      let (change, rest) ← pair? (value? (maxDepth - 1)) rest
      return (⟨← within change d.path d.root, d.path⟩, rest)

/-- The lines of a document. -/
def lines? : Nat → Draft → Text → Option Draft
  | 0, _, _ => none
  | bound + 1, d, t => do
    let (d, rest) ← lineStart? d t
    let rest' ← lineEnd? rest
    if rest' = [] then return d else lines? bound d rest'

/-- The table that a document stands for. A byte order mark in front is left out. -/
def document? (t : Text) : Option (List (Text × Toml)) :=
  let body := if t.head? = some '\ufeff' then t.tail else t
  (lines? (body.length + 1) ⟨[], []⟩ body).map Draft.root

end EditScript.Toml
