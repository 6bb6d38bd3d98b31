import Portrait.SortedMap

/-! JSON text: strings with the least escapes, and objects and arrays without blanks. -/

namespace Portrait.Json

def hexDigit (n : Nat) : Char := if n < 10 then Char.ofNat (48 + n) else Char.ofNat (87 + n)

def escaped (c : Char) : List Char := match c with
  | '"' => ['\\', '"']
  | '\\' => ['\\', '\\']
  | '\x08' => ['\\', 'b']
  | '\x0c' => ['\\', 'f']
  | '\n' => ['\\', 'n']
  | '\r' => ['\\', 'r']
  | '\t' => ['\\', 't']
  | c =>
    if c.toNat < 0x20 then ['\\', 'u', '0', '0', hexDigit (c.toNat / 16), hexDigit (c.toNat % 16)]
    else [c]

def printString (s : String) : List Char := '"' :: s.toList.flatMap escaped ++ ['"']

def printArray (elements : List (List Char)) : List Char :=
  '[' :: [','].intercalate elements ++ [']']

def printMember (m : String × List Char) : List Char := printString m.1 ++ ':' :: m.2

def printObject (members : List (String × List Char)) : List Char :=
  '\x7b' :: [','].intercalate (members.map printMember) ++ ['\x7d']

def printLines (members : List (String × List Char)) : List Char :=
  if members.isEmpty then ['\x7b', '\x7d']
  else
    let lines := members.map fun m => [' ', ' '] ++ printString m.1 ++ [':', ' '] ++ m.2
    ['\x7b', '\n'] ++ [',', '\n'].intercalate lines ++ ['\n', '\x7d']

def printBool (b : Bool) : List Char := if b then ['t', 'r', 'u', 'e'] else ['f', 'a', 'l', 's', 'e']

def printInt (i : Int) : List Char := (toString i).toList

end Portrait.Json
