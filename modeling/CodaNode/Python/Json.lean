/-
Module: CodaNode.Python.Json
Layer: Python (library)
Purpose: The `json` module of the standard library. `dumps` writes with `indent=2` and escapes what is
  not ASCII; `loads` is the decoder, over characters. A float is kept as the caller reads its literal. A
  surrogate escape that stands alone is no character and is refused.
Imports: CodaNode.Python.Text
Main exports: Python.Json, Python.Json.dumps, Python.Json.loads
-/
import CodaNode.Python.Text

namespace Python

/-- A JSON value with floats of type `F`. A repeated key of an object counts with its last value. -/
inductive Json (F : Type) where
  | null
  | bool (value : Bool)
  | int (value : Int)
  | float (value : F)
  | str (value : String)
  | list (items : List (Json F))
  | dict (entries : List (String × Json F))

namespace Json

variable {F : Type}

/-! ### Equality of values -/

section

variable [DecidableEq F]

mutual

def decEq : (first second : Json F) → Decidable (first = second)
  | .null, .null => .isTrue rfl
  | .bool a, .bool b => decidable_of_iff (a = b) (by simp)
  | .int a, .int b => decidable_of_iff (a = b) (by simp)
  | .float a, .float b => decidable_of_iff (a = b) (by simp)
  | .str a, .str b => decidable_of_iff (a = b) (by simp)
  | .list a, .list b => @decidable_of_iff _ (a = b) (by simp) (decEqItems a b)
  | .dict a, .dict b => @decidable_of_iff _ (a = b) (by simp) (decEqEntries a b)
  | .null, .bool _ | .null, .int _ | .null, .float _ | .null, .str _ | .null, .list _ | .null, .dict _
  | .bool _, .null | .bool _, .int _ | .bool _, .float _ | .bool _, .str _ | .bool _, .list _
  | .bool _, .dict _ | .int _, .null | .int _, .bool _ | .int _, .float _ | .int _, .str _
  | .int _, .list _ | .int _, .dict _ | .float _, .null | .float _, .bool _ | .float _, .int _
  | .float _, .str _ | .float _, .list _ | .float _, .dict _ | .str _, .null | .str _, .bool _
  | .str _, .int _ | .str _, .float _ | .str _, .list _ | .str _, .dict _ | .list _, .null
  | .list _, .bool _ | .list _, .int _ | .list _, .float _ | .list _, .str _ | .list _, .dict _
  | .dict _, .null | .dict _, .bool _ | .dict _, .int _ | .dict _, .float _ | .dict _, .str _
  | .dict _, .list _ => .isFalse (by simp)

def decEqItems : (first second : List (Json F)) → Decidable (first = second)
  | [], [] => .isTrue rfl
  | a :: as, b :: bs =>
      @decidable_of_iff _ (a = b ∧ as = bs) (by simp) (@instDecidableAnd _ _ (decEq a b) (decEqItems as bs))
  | [], _ :: _ | _ :: _, [] => .isFalse (by simp)

def decEqEntries : (first second : List (String × Json F)) → Decidable (first = second)
  | [], [] => .isTrue rfl
  | (k, a) :: as, (l, b) :: bs =>
      @decidable_of_iff _ (k = l ∧ a = b ∧ as = bs) (by simp [and_assoc])
        (@instDecidableAnd _ _ _ (@instDecidableAnd _ _ (decEq a b) (decEqEntries as bs)))
  | [], _ :: _ | _ :: _, [] => .isFalse (by simp)

end

instance : DecidableEq (Json F) := decEq

end

/-! ### Values -/

/-- `data.get(key)` -/
def get (entries : List (String × Json F)) (key : String) : Option (Json F) := entries.reverse.lookup key

/-! ### Writing -/

/-- A hexadecimal digit. -/
def hexDigit (value : Nat) : Char :=
  if value < 10 then Char.ofNat (48 + value) else Char.ofNat (87 + value)

/-- `\uXXXX` -/
def unicodeEscape (code : Nat) : List Char :=
  ['\\', 'u', hexDigit (code / 4096 % 16), hexDigit (code / 256 % 16), hexDigit (code / 16 % 16),
    hexDigit (code % 16)]

/-- A character inside a string. -/
def escape (char : Char) : List Char :=
  if char = '"' then ['\\', '"']
  else if char = '\\' then ['\\', '\\']
  else if char = '\n' then ['\\', 'n']
  else if char = '\r' then ['\\', 'r']
  else if char = '\t' then ['\\', 't']
  else if char.toNat = 12 then ['\\', 'f']
  else if char.toNat = 8 then ['\\', 'b']
  else if 32 ≤ char.toNat ∧ char.toNat < 127 then [char]
  else if char.toNat < 65536 then unicodeEscape char.toNat
  else
    unicodeEscape (55296 + (char.toNat - 65536) / 1024) ++
      unicodeEscape (56320 + (char.toNat - 65536) % 1024)

/-- A string in quotes. -/
def quoted (text : String) : List Char := '"' :: text.toList.flatMap escape ++ ['"']

/-- A line break and the indentation of a level. -/
def newline (level : Nat) : List Char := '\n' :: List.replicate (2 * level) ' '

mutual

/-- A value at a level of indentation. -/
def dump (writeFloat : F → List Char) (level : Nat) : Json F → List Char
  | .null => ['n', 'u', 'l', 'l']
  | .bool true => ['t', 'r', 'u', 'e']
  | .bool false => ['f', 'a', 'l', 's', 'e']
  | .int value => (if value < 0 then ['-'] else []) ++ Nat.toDigits 10 value.natAbs
  | .float value => writeFloat value
  | .str value => quoted value
  | .list [] => ['[', ']']
  | .list (item :: items) =>
      '[' :: newline (level + 1) ++ dump writeFloat (level + 1) item ++
        dumpItems writeFloat (level + 1) items ++ newline level ++ [']']
  | .dict [] => ['{', '}']
  | .dict ((key, value) :: entries) =>
      '{' :: newline (level + 1) ++ quoted key ++ [':', ' '] ++ dump writeFloat (level + 1) value ++
        dumpEntries writeFloat (level + 1) entries ++ newline level ++ ['}']

/-- The items behind the first one. -/
def dumpItems (writeFloat : F → List Char) (level : Nat) : List (Json F) → List Char
  | [] => []
  | item :: items =>
      ',' :: newline level ++ dump writeFloat level item ++ dumpItems writeFloat level items

/-- The entries behind the first one. -/
def dumpEntries (writeFloat : F → List Char) (level : Nat) : List (String × Json F) → List Char
  | [] => []
  | (key, value) :: entries =>
      ',' :: newline level ++ quoted key ++ [':', ' '] ++ dump writeFloat level value ++
        dumpEntries writeFloat level entries

end

/-- `json.dumps(value, indent=2)` -/
def dumps (writeFloat : F → List Char) (value : Json F) : String := String.ofList (dump writeFloat 0 value)

/-! ### Reading -/

/-- The white space between tokens. -/
def isBlank (char : Char) : Bool := char = ' ' || char = '\t' || char = '\n' || char = '\r'

/-- The text behind an expected token. -/
def expect : List Char → List Char → Option (List Char)
  | [], chars => some chars
  | _ :: _, [] => none
  | token :: tokens, char :: chars => if token = char then expect tokens chars else none

/-- Skip white space. -/
def skip (chars : List Char) : List Char := chars.dropWhile isBlank

/-- The value of a hexadecimal digit. -/
def hexValue (char : Char) : Option Nat :=
  let code := char.toNat
  if 48 ≤ code ∧ code < 58 then some (code - 48)
  else if 97 ≤ code ∧ code < 103 then some (code - 87)
  else if 65 ≤ code ∧ code < 71 then some (code - 55)
  else none

/-- The number behind `\u`. -/
def hexCode (a b c d : Char) : Option Nat := do
  let a ← hexValue a
  let b ← hexValue b
  let c ← hexValue c
  let d ← hexValue d
  return 4096 * a + 256 * b + 16 * c + d

/-- A character behind a backslash. -/
def unescape (char : Char) : Option Char :=
  if char = '"' ∨ char = '\\' ∨ char = '/' then some char
  else if char = 'n' then some '\n'
  else if char = 'r' then some '\r'
  else if char = 't' then some '\t'
  else if char = 'f' then some (Char.ofNat 12)
  else if char = 'b' then some (Char.ofNat 8)
  else none

/-- What `\uXXXX` stands for: the first half of a surrogate pair, or a character. `high` is the first half
that was read just before. -/
def codeUnit (high : Option Nat) (code : Nat) : Option (Option Nat × List Char) :=
  match high with
  | none =>
      if 55296 ≤ code ∧ code < 56320 then some (some code, [])
      else if 56320 ≤ code ∧ code < 57344 then none
      else some (none, [Char.ofNat code])
  | some first =>
      if 56320 ≤ code ∧ code < 57344 then
        some (none, [Char.ofNat (65536 + 1024 * (first - 55296) + (code - 56320))])
      else none

/-- Put characters in front of what was read. -/
def prepend (chars : List Char) : List Char × List Char → List Char × List Char
  | (text, rest) => (chars ++ text, rest)

/-- The inside of a string and what follows its closing quote. -/
def string (high : Option Nat) : List Char → Option (List Char × List Char)
  | [] => none
  | char :: rest =>
      if char = '\\' then
        match rest with
        | [] => none
        | kind :: rest =>
            if kind = 'u' then
              match rest with
              | a :: b :: c :: d :: rest =>
                  match (hexCode a b c d).bind (codeUnit high) with
                  | some (high, chars) => (string high rest).map (prepend chars)
                  | none => none
              | _ => none
            else
              match unescape kind with
              | some char => if high = none then (string none rest).map (prepend [char]) else none
              | none => none
      else if high ≠ none ∨ char.toNat < 32 then none
      else if char = '"' then some ([], rest)
      else (string none rest).map (prepend [char])

/-- One digit or more. -/
def digits : List Char → Option (List Char × List Char)
  | [] => none
  | char :: rest =>
      if char.isDigit then some (char :: rest.takeWhile Char.isDigit, rest.dropWhile Char.isDigit)
      else none

/-- The digits before the point. -/
def integerPart : List Char → Option (List Char × List Char)
  | [] => none
  | char :: rest => if char = '0' then some (['0'], rest) else digits (char :: rest)

/-- The point and the digits behind it. -/
def fractionPart : List Char → List Char × List Char
  | [] => ([], [])
  | char :: rest =>
      if char = '.' then
        match digits rest with
        | some (fraction, rest) => ('.' :: fraction, rest)
        | none => ([], char :: rest)
      else ([], char :: rest)

/-- The digits of an exponent, with or without a sign. -/
def exponentDigits : List Char → Option (List Char × List Char)
  | [] => none
  | char :: rest =>
      if char = '-' ∨ char = '+' then
        (digits rest).map fun (exponent, rest) => (char :: exponent, rest)
      else digits (char :: rest)

/-- The exponent. -/
def exponentPart : List Char → List Char × List Char
  | [] => ([], [])
  | char :: rest =>
      if char = 'e' ∨ char = 'E' then
        match exponentDigits rest with
        | some (exponent, rest) => (char :: exponent, rest)
        | none => ([], char :: rest)
      else ([], char :: rest)

/-- A number without its sign. -/
def unsigned (readFloat : List Char → F) (negative : Bool) (chars : List Char) :
    Option (Json F × List Char) :=
  match integerPart chars with
  | none => none
  | some (whole, chars) =>
      let (fraction, chars) := fractionPart chars
      let (exponent, chars) := exponentPart chars
      if fraction = [] ∧ exponent = [] then
        if whole.length ≤ maxStrDigits then
          let value := Nat.ofDigitChars 10 whole 0
          some (.int (if negative then -value else value), chars)
        else none
      else
        some (.float (readFloat ((if negative then ['-'] else []) ++ whole ++ fraction ++ exponent)), chars)

/-- A number. -/
def signed (readFloat : List Char → F) : List Char → Option (Json F × List Char)
  | [] => none
  | char :: rest =>
      if char = '-' then unsigned readFloat true rest else unsigned readFloat false (char :: rest)

/-- The constants that are not JSON. -/
def constant (readFloat : List Char → F) : List Char → Option (Json F × List Char)
  | [] => none
  | char :: rest =>
      if char = 'N' then
        (expect ['a', 'N'] rest).map fun rest => (.float (readFloat "NaN".toList), rest)
      else if char = 'I' then
        (expect ['n', 'f', 'i', 'n', 'i', 't', 'y'] rest).map fun rest =>
          (.float (readFloat "Infinity".toList), rest)
      else if char = '-' then
        (expect ['I', 'n', 'f', 'i', 'n', 'i', 't', 'y'] rest).map fun rest =>
          (.float (readFloat "-Infinity".toList), rest)
      else none

mutual

/-- A value, and what follows it. The nesting is bounded by the fuel. -/
def value (readFloat : List Char → F) : Nat → List Char → Option (Json F × List Char)
  | 0, _ | _ + 1, [] => none
  | fuel + 1, char :: rest =>
      if char = '"' then
        (string none rest).map fun (text, rest) => (.str (String.ofList text), rest)
      else if char = '{' then
        match expect ['}'] (skip rest) with
        | some rest => some (.dict [], rest)
        | none => (members readFloat fuel (skip rest)).map fun (entries, rest) => (.dict entries, rest)
      else if char = '[' then
        match expect [']'] (skip rest) with
        | some rest => some (.list [], rest)
        | none => (elements readFloat fuel (skip rest)).map fun (items, rest) => (.list items, rest)
      else if char = 'n' then (expect ['u', 'l', 'l'] rest).map fun rest => (.null, rest)
      else if char = 't' then (expect ['r', 'u', 'e'] rest).map fun rest => (.bool true, rest)
      else if char = 'f' then (expect ['a', 'l', 's', 'e'] rest).map fun rest => (.bool false, rest)
      else (signed readFloat (char :: rest)).or (constant readFloat (char :: rest))

/-- The items of a list up to its end. -/
def elements (readFloat : List Char → F) : Nat → List Char → Option (List (Json F) × List Char)
  | 0, _ => none
  | fuel + 1, chars =>
      match value readFloat fuel chars with
      | none => none
      | some (item, rest) =>
          match expect [']'] (skip rest) with
          | some rest => some ([item], rest)
          | none =>
              match expect [','] (skip rest) with
              | some rest =>
                  (elements readFloat fuel (skip rest)).map fun (items, rest) => (item :: items, rest)
              | none => none

/-- The entries of an object up to its end. -/
def members (readFloat : List Char → F) :
    Nat → List Char → Option (List (String × Json F) × List Char)
  | 0, _ => none
  | fuel + 1, chars =>
      match (expect ['"'] chars).bind (string none) with
      | none => none
      | some (key, rest) =>
          match expect [':'] (skip rest) with
          | none => none
          | some rest =>
              match value readFloat fuel (skip rest) with
              | none => none
              | some (item, rest) =>
                  match expect ['}'] (skip rest) with
                  | some rest => some ([(String.ofList key, item)], rest)
                  | none =>
                      match expect [','] (skip rest) with
                      | some rest =>
                          (members readFloat fuel (skip rest)).map fun (entries, rest) =>
                            ((String.ofList key, item) :: entries, rest)
                      | none => none

end

/-- `json.loads(text)`; `none` stands for the `ValueError`. -/
def loads (readFloat : List Char → F) (text : String) : Option (Json F) :=
  match value readFloat (text.toList.length + 1) (skip text.toList) with
  | some (result, rest) => if skip rest = [] then some result else none
  | none => none

end Json

end Python
