/-!
# TOML text

Blanks, line ends, comments and the four forms of strings.
-/
namespace S7Request.Toml

def isBlank (c : Char) : Bool :=
  c = ' ' || c = '\t'

def skipBlanks (cs : List Char) : List Char :=
  cs.dropWhile isBlank

/-- A character that may stand in a comment. -/
def isCommentChar (c : Char) : Bool :=
  c = '\t' || (0x20 ≤ c.toNat && c.toNat ≠ 0x7f)

/-- The text behind the line end at its front. -/
def newline? : List Char → Option (List Char)
  | '\n' :: rest => some rest
  | '\r' :: '\n' :: rest => some rest
  | _ => none

/-- The text behind a comment, at the end of its line. -/
def skipComment : List Char → List Char
  | '#' :: rest => rest.dropWhile isCommentChar
  | cs => cs

/-- The text behind the rest of a line that holds nothing more than a comment. -/
def endOfLine? (cs : List Char) : Option (List Char) :=
  match skipComment (skipBlanks cs) with
  | [] => some []
  | rest => newline? rest

/-- The text without the blanks, line ends and comments at its front; `comment` says that the text
begins inside a comment. -/
def skipTrivia (comment : Bool) : List Char → List Char
  | [] => []
  | '\n' :: rest => skipTrivia false rest
  | '\r' :: '\n' :: rest => skipTrivia false rest
  | c :: rest =>
      if comment then
        if isCommentChar c then skipTrivia true rest else c :: rest
      else if isBlank c then skipTrivia false rest
      else if c = '#' then skipTrivia true rest
      else c :: rest

def hexDigit? (c : Char) : Option Nat :=
  if c.isDigit then some (c.toNat - 48)
  else if 'a' ≤ c ∧ c ≤ 'f' then some (c.toNat - 87)
  else if 'A' ≤ c ∧ c ≤ 'F' then some (c.toNat - 55)
  else none

/-- The character whose number hexadecimal digits spell. -/
def hexChar? (ds : List Char) : Option Char := do
  let n ← ds.foldlM (fun n d => (hexDigit? d).map (n * 16 + ·)) 0
  if n.isValidChar then some (Char.ofNat n) else none

/-- The character of an escape with one letter. -/
def shortEscape? (c : Char) : Option Char :=
  if c = '"' ∨ c = '\\' then some c
  else if c = 'b' then some '\x08'
  else if c = 't' then some '\t'
  else if c = 'n' then some '\n'
  else if c = 'f' then some '\x0c'
  else if c = 'r' then some '\r'
  else none

/-- Puts a character in front of the characters read so far. -/
def push (c : Char) (r : List Char × List Char) : List Char × List Char :=
  (c :: r.1, r.2)

/-- A string on one line, from behind its opening quote. -/
def basicString : List Char → Option (List Char × List Char)
  | [] => none
  | '"' :: rest => some ([], rest)
  | '\\' :: 'u' :: a :: b :: c :: d :: rest => do
      let x ← hexChar? [a, b, c, d]
      (basicString rest).map (push x)
  | '\\' :: 'U' :: a :: b :: c :: d :: e :: f :: g :: h :: rest => do
      let x ← hexChar? [a, b, c, d, e, f, g, h]
      (basicString rest).map (push x)
  | '\\' :: c :: rest => do
      let x ← shortEscape? c
      (basicString rest).map (push x)
  | c :: rest => if isCommentChar c then (basicString rest).map (push c) else none

/-- Whether the text begins with blanks and a line end. -/
def endsLine (cs : List Char) : Bool :=
  (newline? (skipBlanks cs)).isSome

/-- A string over several lines, from behind its opening quotes. Behind a backslash at the end of
a line, `skipping` is set and blanks and line ends are left out. Up to two quotes may stand before
the closing ones. -/
def longString (skipping : Bool) : List Char → Option (List Char × List Char)
  | [] => none
  | '"' :: '"' :: '"' :: '"' :: '"' :: rest => some (['"', '"'], rest)
  | '"' :: '"' :: '"' :: '"' :: rest => some (['"'], rest)
  | '"' :: '"' :: '"' :: rest => some ([], rest)
  | '\r' :: '\n' :: rest =>
      if skipping then longString true rest else (longString false rest).map (push '\n')
  | '\n' :: rest =>
      if skipping then longString true rest else (longString false rest).map (push '\n')
  | '\\' :: 'u' :: a :: b :: c :: d :: rest => do
      let x ← hexChar? [a, b, c, d]
      (longString false rest).map (push x)
  | '\\' :: 'U' :: a :: b :: c :: d :: e :: f :: g :: h :: rest => do
      let x ← hexChar? [a, b, c, d, e, f, g, h]
      (longString false rest).map (push x)
  | '\\' :: c :: rest =>
      if endsLine (c :: rest) then longString true (c :: rest)
      else do
        let x ← shortEscape? c
        (longString false rest).map (push x)
  | c :: rest =>
      if skipping && isBlank c then longString true rest
      else if isCommentChar c then (longString false rest).map (push c)
      else none

/-- A string without escapes on one line, from behind its opening apostrophe. -/
def literalString : List Char → Option (List Char × List Char)
  | [] => none
  | '\'' :: rest => some ([], rest)
  | c :: rest => if isCommentChar c then (literalString rest).map (push c) else none

/-- A string without escapes over several lines, from behind its opening apostrophes. -/
def longLiteral : List Char → Option (List Char × List Char)
  | [] => none
  | '\'' :: '\'' :: '\'' :: '\'' :: '\'' :: rest => some (['\'', '\''], rest)
  | '\'' :: '\'' :: '\'' :: '\'' :: rest => some (['\''], rest)
  | '\'' :: '\'' :: '\'' :: rest => some ([], rest)
  | '\r' :: '\n' :: rest => (longLiteral rest).map (push '\n')
  | '\n' :: rest => (longLiteral rest).map (push '\n')
  | c :: rest => if isCommentChar c then (longLiteral rest).map (push c) else none

def skipNewline (cs : List Char) : List Char :=
  (newline? cs).getD cs

/-- The string at the front of a text, if the text begins with a quote or an apostrophe. -/
def scanString : List Char → Option (String × List Char)
  | '"' :: '"' :: '"' :: rest =>
      (longString false (skipNewline rest)).map fun r => (.ofList r.1, r.2)
  | '"' :: rest => (basicString rest).map fun r => (.ofList r.1, r.2)
  | '\'' :: '\'' :: '\'' :: rest => (longLiteral (skipNewline rest)).map fun r => (.ofList r.1, r.2)
  | '\'' :: rest => (literalString rest).map fun r => (.ofList r.1, r.2)
  | _ => none

/-- A character of a name without quotes. -/
def isBareChar (c : Char) : Bool :=
  c.isAlphanum || c = '_' || c = '-'

def scanName : List Char → Option (String × List Char)
  | '"' :: rest => (basicString rest).map fun r => (.ofList r.1, r.2)
  | '\'' :: rest => (literalString rest).map fun r => (.ofList r.1, r.2)
  | cs =>
      let name := cs.takeWhile isBareChar
      if name = [] then none else some (.ofList name, cs.dropWhile isBareChar)

end S7Request.Toml
