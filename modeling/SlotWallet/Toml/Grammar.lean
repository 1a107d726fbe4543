import SlotWallet.Toml.Literal
import SlotWallet.Toml.Text

/-!
# The grammar of TOML

A document is a list of statements, one a line: a value under a key, the header
of a table, or the header of one more of several tables. Arrays may go over
lines and hold comments; tables in place may not.
-/

namespace SlotWallet.Toml

inductive Statement where
  | assign (key : List String) (value : Toml)
  | table (path : List String)
  | nextTable (path : List String)

namespace Grammar

/-- Arrays and tables in place nest less deep than this, and keys have fewer
parts. -/
def depthLimit : Nat := 80

def isBlank (c : Char) : Bool := c = ' ' || c = '\t'

def skipBlanks (text : List Char) : List Char := text.dropWhile isBlank

def isBareKeyChar (c : Char) : Bool := c.isAlphanum || c = '_' || c = '-'

def readKeyPart (text : List Char) : Option (String × List Char) :=
  match text with
  | '"' :: rest => (readBasic rest).map fun (k, rest) => (String.ofList k, rest)
  | '\'' :: rest => (readLiteral rest).map fun (k, rest) => (String.ofList k, rest)
  | _ =>
    let bare := text.takeWhile isBareKeyChar
    if bare = [] then none else some (String.ofList bare, text.dropWhile isBareKeyChar)

def readKeyParts (fuel : Nat) (text : List Char) : Option (List String × List Char) :=
  match fuel with
  | 0 => none
  | fuel + 1 => do
    let (part, rest) ← readKeyPart (skipBlanks text)
    match skipBlanks rest with
    | '.' :: rest => do
      let (parts, rest) ← readKeyParts fuel rest
      pure (part :: parts, rest)
    | rest => pure ([part], rest)

def readKey (text : List Char) : Option (List String × List Char) := do
  let (parts, rest) ← readKeyParts (text.length + 1) text
  if parts.length < depthLimit then some (parts, rest) else none

def skipComment : List Char → Option (List Char)
  | [] => some []
  | '\n' :: rest => some ('\n' :: rest)
  | '\r' :: '\n' :: rest => some ('\r' :: '\n' :: rest)
  | c :: rest => if isControl c then none else skipComment rest

def skipFiller (fuel : Nat) (text : List Char) : Option (List Char) :=
  match fuel with
  | 0 => none
  | fuel + 1 =>
    match skipBlanks text with
    | '\n' :: rest => skipFiller fuel rest
    | '\r' :: '\n' :: rest => skipFiller fuel rest
    | '#' :: rest => do skipFiller fuel (← skipComment rest)
    | rest => some rest

def filler (text : List Char) : Option (List Char) := skipFiller (text.length + 1) text

mutual

def readValue (fuel depth : Nat) (text : List Char) : Option (Toml × List Char) :=
  match fuel with
  | 0 => none
  | fuel + 1 =>
    match text with
    | [] => none
    | '[' :: rest =>
      if depth = 0 then none
      else (readElements fuel (depth - 1) rest).map fun (vs, rest) => (.array vs, rest)
    | '\x7b' :: rest =>
      if depth = 0 then none
      else
        match skipBlanks rest with
        | '\x7d' :: rest => some (.table .inline [], rest)
        | rest => do
          let (members, rest) ← readMembers fuel (depth - 1) [] rest
          pure (.table .inline members, rest)
    | c :: rest =>
      if c = '"' ∨ c = '\'' then
        (readString (c :: rest)).map fun (s, rest) => (.string (String.ofList s), rest)
      else readLiteralValue (c :: rest)

def readElements (fuel depth : Nat) (text : List Char) : Option (List Toml × List Char) :=
  match fuel with
  | 0 => none
  | fuel + 1 => do
    match ← filler text with
    | ']' :: rest => pure ([], rest)
    | rest => do
      let (value, rest) ← readValue fuel depth rest
      match ← filler rest with
      | ',' :: rest => do
        let (values, rest) ← readElements fuel depth rest
        pure (value :: values, rest)
      | ']' :: rest => pure ([value], rest)
      | _ => none

def readMembers (fuel depth : Nat) (before : Members) (text : List Char) :
    Option (Members × List Char) :=
  match fuel with
  | 0 => none
  | fuel + 1 => do
    let (key, rest) ← readKey text
    match rest with
    | '=' :: rest => do
      let (value, rest) ← readValue fuel depth (skipBlanks rest)
      let members ← addDotted? before key value
      match skipBlanks rest with
      | ',' :: rest => readMembers fuel depth members rest
      | '\x7d' :: rest => pure (members, rest)
      | _ => none
    | _ => none

end

def endLine (text : List Char) : Option (List Char) := do
  let rest ← match skipBlanks text with
    | '#' :: rest => skipComment rest
    | rest => some rest
  match rest with
  | [] => some []
  | '\n' :: rest => some rest
  | '\r' :: '\n' :: rest => some rest
  | _ => none

def readStatement (text : List Char) : Option (Statement × List Char) := do
  let (statement, rest) ← (match text with
    | '[' :: '[' :: rest => do
      match ← readKey rest with
      | (path, ']' :: ']' :: rest) => some (.nextTable path, rest)
      | _ => none
    | '[' :: rest => do
      match ← readKey rest with
      | (path, ']' :: rest) => some (.table path, rest)
      | _ => none
    | _ => do
      match ← readKey text with
      | (key, '=' :: rest) => do
        let (value, rest) ← readValue (2 * rest.length + 2) (depthLimit - 1) (skipBlanks rest)
        pure (.assign key value, rest)
      | _ => none : Option (Statement × List Char))
  pure (statement, ← endLine rest)

def readStatements (fuel : Nat) (text : List Char) : Option (List Statement) :=
  match fuel with
  | 0 => none
  | fuel + 1 =>
    match skipBlanks text with
    | [] => some []
    | '\n' :: rest => readStatements fuel rest
    | '\r' :: '\n' :: rest => readStatements fuel rest
    | '#' :: rest => do readStatements fuel (← endLine ('#' :: rest))
    | rest => do
      let (statement, rest) ← readStatement rest
      let statements ← readStatements fuel rest
      pure (statement :: statements)

end Grammar

/-- The root table after one more statement, and the path of the open table. -/
def Statement.apply? (root : Members) (current : List String) :
    Statement → Option (Members × List String)
  | .assign key value =>
    (changeAt? root current fun members => addDotted? members key value).map (·, current)
  | .table path => (open? root path).map (·, path)
  | .nextTable path => (openNext? root path).map (·, path)

def build? (root : Members) (current : List String) : List Statement → Option Members
  | [] => some root
  | statement :: rest => do
    let (root, current) ← statement.apply? root current
    build? root current rest

/-- The root table of a document, which a byte-order mark may open. -/
def readDocument? (text : List Char) : Option Members := do
  let text := match text with
    | c :: rest => if c.toNat = 0xFEFF then rest else text
    | [] => text
  build? [] [] (← Grammar.readStatements (text.length + 1) text)

end SlotWallet.Toml
