import GoodOmens.Services.Http

/-!
# JSON as text

`jsonEncode` and `jsonDecode` of `dart:convert`, on the values of `Services/Http.lean`.

The encoder writes no spaces and escapes the quote, the backslash and the control
characters.  The decoder goes through the text once, one character at a time, as the
platform's does: a stack holds the containers that wait for a value, a mode says what is
being read (`step`).  A number ends where its text cannot go on, and the character there is
read again (`stepOn`).  An integer that does not fit in 64 bits is a `double`, and a
`double` is kept as the text that Dart prints for it, so the printing of a parsed
`double` is a parameter.  A key that comes twice keeps its place and takes the later value.

A Dart string is a sequence of UTF-16 units, and `dart:convert` takes an escape for half of
a surrogate pair as it is.  Such a string has no counterpart here: a text with a lone half
is outside the model, and refused (`finishUnicode`).
-/

namespace GoodOmens.JsonText

/-! ### Encoding -/

/-- `\u00xx`. -/
def escapeUnicode (c : Char) : List Char :=
  ['\\', 'u', '0', '0', Nat.digitChar (c.toNat / 16), Nat.digitChar (c.toNat % 16)]

/-- What the encoder writes for a character of a string. -/
def escape (c : Char) : List Char :=
  if c = '"' then ['\\', '"']
  else if c = '\\' then ['\\', '\\']
  else if c.toNat < 32 then
    if c.toNat = 8 then ['\\', 'b']
    else if c = '\t' then ['\\', 't']
    else if c = '\n' then ['\\', 'n']
    else if c.toNat = 12 then ['\\', 'f']
    else if c = '\r' then ['\\', 'r']
    else escapeUnicode c
  else [c]

def encodeString (s : String) : List Char := '"' :: (s.toList.flatMap escape ++ ['"'])

def encodeInt (n : Int) : List Char :=
  (if n < 0 then ['-'] else []) ++ Nat.toDigits 10 n.natAbs

mutual

def encode : Json → List Char
  | .null => "null".toList
  | .bool b => if b then "true".toList else "false".toList
  | .int n => encodeInt n
  | .double text => text.toList
  | .str s => encodeString s
  | .arr [] => "[]".toList
  | .arr (j :: js) => '[' :: (encode j ++ (encodeElements js ++ [']']))
  | .obj [] => "\x7b\x7d".toList
  | .obj ((k, j) :: js) =>
    '\x7b' :: (encodeString k ++ ':' :: (encode j ++ (encodeEntries js ++ ['\x7d'])))

/-- The elements after the first one. -/
def encodeElements : List Json → List Char
  | [] => []
  | j :: js => ',' :: (encode j ++ encodeElements js)

/-- The entries after the first one. -/
def encodeEntries : List (String × Json) → List Char
  | [] => []
  | (k, j) :: js => ',' :: (encodeString k ++ ':' :: (encode j ++ encodeEntries js))

end

/-- `jsonEncode`. -/
def jsonEncode (v : Json) : String := String.ofList (encode v)

/-! ### Decoding -/

/-- A container that waits for a value: a list with its elements so far, a map with its
entries so far and the key of the value. -/
inductive Frame
  | arr (elements : List Json)
  | obj (entries : List (String × Json)) (key : String)

/-- What a string is read for. -/
inductive Purpose
  | value
  | key (entries : List (String × Json))

/-- How far a number has been read. -/
inductive Phase
  | minus | zero | digits | dot | fraction | exponent | exponentSign | exponentDigits
deriving DecidableEq, Repr

/-- What is being read.  The modes between the values of a container hold what the container
has by then. -/
inductive Mode
  | value
  | firstElement
  | afterElement (elements : List Json)
  | firstKey
  | nextKey (entries : List (String × Json))
  | colon (entries : List (String × Json)) (key : String)
  | afterMember (entries : List (String × Json))
  | ended (v : Json)
  | string (purpose : Purpose) (text : List Char)
  | escaped (purpose : Purpose) (text : List Char)
  | unicode (purpose : Purpose) (text : List Char) (high : Option Nat) (count value : Nat)
  | lowSurrogate (purpose : Purpose) (text : List Char) (high : Nat) (backslash : Bool)
  | number (phase : Phase) (text : List Char)
  | literal (rest : List Char) (v : Json)

structure State where
  stack : List Frame
  mode : Mode

/-- `map[key] = value`. -/
def setEntry (entries : List (String × Json)) (key : String) (v : Json) : List (String × Json) :=
  if key ∈ entries.map Prod.fst then
    entries.map (fun e => if e.1 = key then (key, v) else e)
  else entries ++ [(key, v)]

/-- A value is complete: it goes to the container on top of the stack. -/
def deliver (v : Json) : List Frame → State
  | [] => ⟨[], .ended v⟩
  | .arr elements :: stack => ⟨stack, .afterElement (elements ++ [v])⟩
  | .obj entries key :: stack => ⟨stack, .afterMember (setEntry entries key v)⟩

/-- A string is complete. -/
def finishString (purpose : Purpose) (text : List Char) (stack : List Frame) : State :=
  match purpose with
  | .value => deliver (.str (String.ofList text)) stack
  | .key entries => ⟨stack, .colon entries (String.ofList text)⟩

def isSpace (c : Char) : Bool := c = ' ' || c = '\t' || c = '\n' || c = '\r'

/-- The first character of a value. -/
def begin (c : Char) (stack : List Frame) : Option State :=
  if c = '"' then some ⟨stack, .string .value []⟩
  else if c = '[' then some ⟨stack, .firstElement⟩
  else if c = '\x7b' then some ⟨stack, .firstKey⟩
  else if c = 'n' then some ⟨stack, .literal "ull".toList .null⟩
  else if c = 't' then some ⟨stack, .literal "rue".toList (.bool true)⟩
  else if c = 'f' then some ⟨stack, .literal "alse".toList (.bool false)⟩
  else if c = '-' then some ⟨stack, .number .minus ['-']⟩
  else if c = '0' then some ⟨stack, .number .zero ['0']⟩
  else if c.isDigit then some ⟨stack, .number .digits [c]⟩
  else none

/-- How a number goes on. -/
def Phase.next : Phase → Char → Option Phase
  | minus, c => if c = '0' then some zero else if c.isDigit then some digits else none
  | zero, c =>
    if c = '.' then some dot else if c = 'e' ∨ c = 'E' then some exponent else none
  | digits, c =>
    if c.isDigit then some digits else if c = '.' then some dot
    else if c = 'e' ∨ c = 'E' then some exponent else none
  | dot, c => if c.isDigit then some fraction else none
  | fraction, c =>
    if c.isDigit then some fraction else if c = 'e' ∨ c = 'E' then some exponent else none
  | exponent, c =>
    if c = '+' ∨ c = '-' then some exponentSign else if c.isDigit then some exponentDigits else none
  | exponentSign, c | exponentDigits, c => if c.isDigit then some exponentDigits else none

/-- A number may end here. -/
def Phase.isFinal : Phase → Bool
  | zero | digits | fraction | exponentDigits => true
  | minus | dot | exponent | exponentSign => false

/-- The number has neither a fraction nor an exponent. -/
def Phase.isInt : Phase → Bool
  | zero | digits => true
  | _ => false

/-- The integer that is written. -/
def intOf : List Char → Int
  | '-' :: ds => -(Nat.ofDigitChars 10 ds 0 : Int)
  | ds => Nat.ofDigitChars 10 ds 0

/-- The integers of 64 bits. -/
def InRange (n : Int) : Prop := -0x8000000000000000 ≤ n ∧ n ≤ 0x7fffffffffffffff

instance (n : Int) : Decidable (InRange n) := inferInstanceAs (Decidable (_ ∧ _))

/-- The digit that a character is in base 16. -/
def hexDigit (c : Char) : Option Nat :=
  if '0' ≤ c ∧ c ≤ '9' then some (c.toNat - '0'.toNat)
  else if 'a' ≤ c ∧ c ≤ 'f' then some (c.toNat - 'a'.toNat + 10)
  else if 'A' ≤ c ∧ c ≤ 'F' then some (c.toNat - 'A'.toNat + 10)
  else none

/-- The character after a backslash. -/
def unescape (c : Char) : Option Char :=
  if c = '"' ∨ c = '\\' ∨ c = '/' then some c
  else if c = 'b' then some (Char.ofNat 8)
  else if c = 't' then some '\t'
  else if c = 'n' then some '\n'
  else if c = 'f' then some (Char.ofNat 12)
  else if c = 'r' then some '\r'
  else none

def isHighSurrogate (n : Nat) : Bool := 0xD800 ≤ n && n < 0xDC00

def isLowSurrogate (n : Nat) : Bool := 0xDC00 ≤ n && n < 0xE000

/-- The four digits of an escape have been read.  Where a half of a pair stands alone the
platform's decoder goes on, and this one gives up. -/
def finishUnicode (purpose : Purpose) (text : List Char) (high : Option Nat) (n : Nat) :
    Option Mode :=
  match high with
  | none =>
    if isHighSurrogate n then some (.lowSurrogate purpose text n false)
    else if isLowSurrogate n then none
    else some (.string purpose (text ++ [Char.ofNat n]))
  | some h =>
    if isLowSurrogate n then
      some (.string purpose
        (text ++ [Char.ofNat (0x10000 + (h - 0xD800) * 0x400 + (n - 0xDC00))]))
    else none

section

variable (printDouble : String → String)

/-- The value of a number. -/
def numberOf (phase : Phase) (text : List Char) : Json :=
  if phase.isInt ∧ InRange (intOf text) then .int (intOf text)
  else .double (printDouble (String.ofList text))

/-- One character, where no number is being read. -/
def stepOn (s : State) (c : Char) : Option State :=
  match s.mode with
  | .value => if isSpace c then some s else begin c s.stack
  | .firstElement =>
    if isSpace c then some s
    else if c = ']' then some (deliver (.arr []) s.stack)
    else begin c (.arr [] :: s.stack)
  | .afterElement elements =>
    if isSpace c then some s
    else if c = ',' then some ⟨.arr elements :: s.stack, .value⟩
    else if c = ']' then some (deliver (.arr elements) s.stack)
    else none
  | .firstKey =>
    if isSpace c then some s
    else if c = '"' then some ⟨s.stack, .string (.key []) []⟩
    else if c = '\x7d' then some (deliver (.obj []) s.stack)
    else none
  | .nextKey entries =>
    if isSpace c then some s
    else if c = '"' then some ⟨s.stack, .string (.key entries) []⟩
    else none
  | .colon entries key =>
    if isSpace c then some s
    else if c = ':' then some ⟨.obj entries key :: s.stack, .value⟩
    else none
  | .afterMember entries =>
    if isSpace c then some s
    else if c = ',' then some ⟨s.stack, .nextKey entries⟩
    else if c = '\x7d' then some (deliver (.obj entries) s.stack)
    else none
  | .ended _ => if isSpace c then some s else none
  | .string purpose text =>
    if c = '"' then some (finishString purpose text s.stack)
    else if c = '\\' then some ⟨s.stack, .escaped purpose text⟩
    else if c.toNat < 32 then none
    else some ⟨s.stack, .string purpose (text ++ [c])⟩
  | .escaped purpose text =>
    if c = 'u' then some ⟨s.stack, .unicode purpose text none 0 0⟩
    else (unescape c).map (fun d => ⟨s.stack, .string purpose (text ++ [d])⟩)
  | .unicode purpose text high count value =>
    (hexDigit c).bind (fun d =>
      if count < 3 then some ⟨s.stack, .unicode purpose text high (count + 1) (16 * value + d)⟩
      else (finishUnicode purpose text high (16 * value + d)).map (fun mode => ⟨s.stack, mode⟩))
  | .lowSurrogate purpose text high backslash =>
    if backslash then
      if c = 'u' then some ⟨s.stack, .unicode purpose text (some high) 0 0⟩ else none
    else if c = '\\' then some ⟨s.stack, .lowSurrogate purpose text high true⟩ else none
  | .literal rest v =>
    match rest with
    | [] => none
    | [d] => if c = d then some (deliver v s.stack) else none
    | d :: rest => if c = d then some ⟨s.stack, .literal rest v⟩ else none
  | .number _ _ => none

/-- One character. -/
def step (s : State) (c : Char) : Option State :=
  match s.mode with
  | .number phase text =>
    match phase.next c with
    | some phase' => some ⟨s.stack, .number phase' (text ++ [c])⟩
    | none =>
      if phase.isFinal then stepOn (deliver (numberOf printDouble phase text) s.stack) c else none
  | _ => stepOn s c

/-- The end of the text. -/
def finish (s : State) : Option Json :=
  match s.mode, s.stack with
  | .ended v, _ => some v
  | .number phase text, [] =>
    if phase.isFinal then some (numberOf printDouble phase text) else none
  | _, _ => none

/-- What the rest of the text gives. -/
def read (s : State) : List Char → Option Json
  | [] => finish printDouble s
  | c :: cs => (step printDouble s c).bind (fun s => read s cs)

/-- `jsonDecode`. -/
def jsonDecode (source : String) : Except DartError Json :=
  match read printDouble ⟨[], .value⟩ source.toList with
  | some v => .ok v
  | none => .error .formatException

end

end GoodOmens.JsonText
