import ProofStack.Json.Basic

/-!
This module contains the reader of JSON texts.
-/

namespace ProofStack
namespace Json

variable {ν : Type}

inductive Mode where
  | between
  | word (letters : List Char)
  | number (text : List Char)
  | string (units : List UInt16)
  | escape (units : List UInt16)
  | hex (units : List UInt16) (digits : List Nat)

def isSpace (c : Char) : Bool :=
  c = ' ' || c = '\t' || c = '\n' || c = '\r'

def isNumberChar (c : Char) : Bool :=
  isDigit c || c = '-' || c = '+' || c = '.' || c = 'e' || c = 'E'

def isLetter (c : Char) : Bool :=
  'a' ≤ c && c ≤ 'z'

def punctuator (c : Char) : Option (Token ν) :=
  match c with
  | '{' => some .openObject
  | '}' => some .closeObject
  | '[' => some .openArray
  | ']' => some .closeArray
  | ':' => some .colon
  | ',' => some .comma
  | _ => none

def wordToken (letters : List Char) : Option (Token ν) :=
  match letters with
  | ['n', 'u', 'l', 'l'] => some .null
  | ['t', 'r', 'u', 'e'] => some (.bool true)
  | ['f', 'a', 'l', 's', 'e'] => some (.bool false)
  | _ => none

def numberToken [NumberText ν] (text : List Char) : Option (Token ν) :=
  if isNumber text then some (.number (NumberText.read text)) else none

def escaped (c : Char) : Option UInt16 :=
  match c with
  | 'b' => some 0x08
  | 't' => some 0x09
  | 'n' => some 0x0A
  | 'f' => some 0x0C
  | 'r' => some 0x0D
  | '"' => some 0x22
  | '\\' => some 0x5C
  | '/' => some 0x2F
  | _ => none

def hexValue (c : Char) : Option Nat :=
  if isDigit c then some (c.toNat - '0'.toNat)
  else if 'a' ≤ c && c ≤ 'f' then some (c.toNat - 'a'.toNat + 10)
  else if 'A' ≤ c && c ≤ 'F' then some (c.toNat - 'A'.toNat + 10)
  else none

def begin (c : Char) : Option (List (Token ν) × Mode) :=
  if isSpace c then some ([], .between)
  else if c = '"' then some ([], .string [])
  else if isLetter c then some ([], .word [c])
  else if isDigit c || c = '-' then some ([], .number [c])
  else (punctuator c).map (fun token => ([token], .between))

def flush (token : Option (Token ν)) (c : Char) : Option (List (Token ν) × Mode) := do
  let token ← token
  let (tokens, mode) ← begin c
  some (token :: tokens, mode)

def scanChar [NumberText ν] (mode : Mode) (c : Char) : Option (List (Token ν) × Mode) :=
  match mode with
  | .between => begin c
  | .word letters =>
    if isLetter c then some ([], .word (letters ++ [c])) else flush (wordToken letters) c
  | .number text =>
    if isNumberChar c then some ([], .number (text ++ [c])) else flush (numberToken text) c
  | .string units =>
    if c = '"' then some ([.string units], .between)
    else if c = '\\' then some ([], .escape units)
    else if c.toNat < 0x20 then none
    else some ([], .string (units ++ charUnits c))
  | .escape units =>
    if c = 'u' then some ([], .hex units [])
    else (escaped c).map (fun u => ([], .string (units ++ [u])))
  | .hex units digits => do
    let digit ← hexValue c
    match digits with
    | [d, d', d''] =>
      some ([], .string (units ++ [UInt16.ofNat (((d * 16 + d') * 16 + d'') * 16 + digit)]))
    | _ => some ([], .hex units (digits ++ [digit]))

def scanEnd [NumberText ν] : Mode → Option (List (Token ν))
  | .between => some []
  | .word letters => (wordToken letters).map ([·])
  | .number text => (numberToken text).map ([·])
  | .string _ | .escape _ | .hex _ _ => none

@[simp]
def scan [NumberText ν] (mode : Mode) : List Char → Option (List (Token ν))
  | [] => scanEnd mode
  | c :: rest => do
    let (tokens, mode) ← scanChar mode c
    let others ← scan mode rest
    some (tokens ++ others)

inductive Frame (ν : Type) where
  | array (items : List (Json ν))
  | object (members : List (List UInt16 × Json ν)) (key : List UInt16)

inductive ParserState (ν : Type) where
  | value (stack : List (Frame ν))
  | firstItem (stack : List (Frame ν))
  | firstKey (stack : List (Frame ν))
  | key (stack : List (Frame ν)) (members : List (List UInt16 × Json ν))
  | colon (stack : List (Frame ν)) (members : List (List UInt16 × Json ν)) (key : List UInt16)
  | after (stack : List (Frame ν)) (value : Json ν)

def parseValue (stack : List (Frame ν)) : Token ν → Option (ParserState ν)
  | .null => some (.after stack .null)
  | .bool value => some (.after stack (.bool value))
  | .number value => some (.after stack (.number value))
  | .string units => some (.after stack (.string units))
  | .openArray => some (.firstItem stack)
  | .openObject => some (.firstKey stack)
  | .closeArray | .closeObject | .colon | .comma => none

def parseToken (s : ParserState ν) (token : Token ν) : Option (ParserState ν) :=
  match s, token with
  | .value stack, _ => parseValue stack token
  | .firstItem stack, .closeArray => some (.after stack (.array []))
  | .firstItem stack, _ => parseValue (.array [] :: stack) token
  | .firstKey stack, .closeObject => some (.after stack (.object []))
  | .firstKey stack, .string key => some (.colon stack [] key)
  | .key stack members, .string key => some (.colon stack members key)
  | .colon stack members key, .colon => some (.value (.object members key :: stack))
  | .after (.array items :: stack) value, .comma => some (.value (.array (items ++ [value]) :: stack))
  | .after (.array items :: stack) value, .closeArray =>
    some (.after stack (.array (items ++ [value])))
  | .after (.object members key :: stack) value, .comma =>
    some (.key stack (define members key value))
  | .after (.object members key :: stack) value, .closeObject =>
    some (.after stack (.object (define members key value)))
  | _, _ => none

def parseEnd : ParserState ν → Option (Json ν)
  | .after [] value => some value
  | _ => none

def parse [NumberText ν] (text : List Char) : Option (Json ν) := do
  let tokens ← scan .between text
  let s ← tokens.foldlM parseToken (.value [])
  parseEnd s

end Json
end ProofStack
