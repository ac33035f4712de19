import S7Request.Json.Token

/-!
# Writing JSON values

A value is written as its tokens without blanks. Strings escape the quote, the backslash and the
control characters; a string without a value is written as a single unpaired surrogate.
-/
namespace S7Request.Json

mutual

def tokens : Json → List Token
  | null => [.null]
  | boolean b => [.boolean b]
  | number n => [.number n]
  | string s => [.string s]
  | array es => .openArray :: elementTokens es
  | object ms => .openObject :: memberTokens ms

/-- The tokens of the elements of an array and of its closing bracket. -/
def elementTokens : List Json → List Token
  | [] => [.closeArray]
  | [e] => tokens e ++ [.closeArray]
  | e :: f :: es => tokens e ++ .comma :: elementTokens (f :: es)

/-- The tokens of the members of an object and of its closing brace. -/
def memberTokens : List (Option String × Json) → List Token
  | [] => [.closeObject]
  | [(name, value)] => .string name :: .colon :: tokens value ++ [.closeObject]
  | (name, value) :: m :: ms =>
      .string name :: .colon :: tokens value ++ .comma :: memberTokens (m :: ms)

end

/-- The form of a character inside a string. -/
def writeChar (c : Char) : List Char :=
  if c = '"' then ['\\', '"']
  else if c = '\\' then ['\\', '\\']
  else if c.toNat < 0x20 then
    ['\\', 'u', '0', '0', Nat.digitChar (c.toNat / 16), Nat.digitChar (c.toNat % 16)]
  else [c]

def Token.text : Token → List Char
  | openArray => ['[']
  | closeArray => [']']
  | openObject => ['{']
  | closeObject => ['}']
  | comma => [',']
  | colon => [':']
  | null => ['n', 'u', 'l', 'l']
  | boolean true => ['t', 'r', 'u', 'e']
  | boolean false => ['f', 'a', 'l', 's', 'e']
  | number (.integer (.ofNat n)) => Nat.toDigits 10 n
  | number (.integer (.negSucc n)) => '-' :: Nat.toDigits 10 (n + 1)
  | number (.decimal literal) => literal
  | string (some s) => '"' :: s.toList.flatMap writeChar ++ ['"']
  | string none => '"' :: '\\' :: 'u' :: 'd' :: '8' :: '0' :: '0' :: ['"']

def render (value : Json) : String :=
  String.ofList (value.tokens.flatMap Token.text)

end S7Request.Json
