import Turnstile.Text.Hex

/-!
JSON values and their compact text. Names keep the order in which they are given, and a text escapes
the quote, the backslash and the control characters only.
-/

namespace Turnstile.Json

inductive Value where
  | null
  | flag (b : Bool)
  | integer (n : Int)
  | decimal (digits exponent : Int)
  | text (s : String)
  | list (items : List Value)
  | record (members : List (String × Value))
  deriving Inhabited

namespace Value

def texts (xs : List String) : Value := .list (xs.map .text)

def optional (f : α → Value) : Option α → Value
  | none => .null
  | some a => f a

def text? : Value → Option String
  | .text s => some s
  | _ => none

def flag? : Value → Option Bool
  | .flag b => some b
  | _ => none

def integer? : Value → Option Int
  | .integer n => some n
  | _ => none

def texts? : Value → Option (List String)
  | .list xs => xs.mapM text?
  | _ => none

/-- The member of a name; among equal names the last one counts. -/
def member? (name : String) : Value → Option Value
  | .record ms => (ms.reverse.find? (·.1 = name)).map Prod.snd
  | _ => none

@[simp] theorem texts?_texts (xs : List String) : (texts xs).texts? = some xs := by
  simp only [texts, texts?, List.mapM_map]
  induction xs with
  | nil => rfl
  | cons x xs ih => simp_all [text?]

end Value

def escapeChar (c : Char) : List Char :=
  if c = '"' then ['\\', '"']
  else if c = '\\' then ['\\', '\\']
  else if c = '\n' then ['\\', 'n']
  else if c = '\r' then ['\\', 'r']
  else if c = '\t' then ['\\', 't']
  else if c = '\x08' then ['\\', 'b']
  else if c = '\x0c' then ['\\', 'f']
  else if c.toNat < 32 then ['\\', 'u', '0', '0', Hex.digit (c.toNat / 16), Hex.digit (c.toNat % 16)]
  else [c]

def quoted (s : String) : List Char := '"' :: s.toList.flatMap escapeChar ++ ['"']

def numeral (n : Int) : List Char := (toString n).toList

mutual

def chars : Value → List Char
  | .null => ['n', 'u', 'l', 'l']
  | .flag true => ['t', 'r', 'u', 'e']
  | .flag false => ['f', 'a', 'l', 's', 'e']
  | .integer n => numeral n
  | .decimal d e => numeral d ++ 'e' :: numeral e
  | .text s => quoted s
  | .list xs => '[' :: itemChars xs ++ [']']
  | .record ms => '{' :: memberChars ms ++ ['}']

def itemChars : List Value → List Char
  | [] => []
  | [x] => chars x
  | x :: y :: xs => chars x ++ ',' :: itemChars (y :: xs)

def memberChars : List (String × Value) → List Char
  | [] => []
  | [(k, x)] => quoted k ++ ':' :: chars x
  | (k, x) :: m :: ms => quoted k ++ ':' :: chars x ++ ',' :: memberChars (m :: ms)

end

def render (v : Value) : String := String.ofList (chars v)

end Turnstile.Json
