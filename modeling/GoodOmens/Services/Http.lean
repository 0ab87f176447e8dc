/-!
# What comes back from the network

A request ends in a response with a status code and a body, or in an exception
(`Outcome`).  A body is read with `jsonDecode`, whose result is a `Json`; the
decoder itself is the platform's, so it is a parameter wherever a page uses it.

`Json.index` is `value[key]` on a value of static type `dynamic`: a map gives
the entry or `null`, everything else throws.  `Json.asString` and `Json.asInt`
are the implicit casts of an assignment to a `String` or an `int`.
-/

namespace GoodOmens

/-- What a Dart expression can throw here. -/
inductive DartError
  | formatException
  | typeError
  | noSuchMethod
  | clientException
  | lateInitialization
  | rangeError
  | unmounted
  | exception (body : String)
deriving DecidableEq, Repr

/-- How an HTTP request ends. -/
inductive Outcome
  | response (statusCode : Nat) (body : String)
  | exception
deriving DecidableEq, Repr

/-- The status code, if there is one. -/
def Outcome.status : Outcome → Option Nat
  | response statusCode _ => some statusCode
  | exception => none

/-- The request was answered with this status. -/
def Outcome.Answered (o : Outcome) (statusCode : Nat) : Prop := o.status = some statusCode

instance (o : Outcome) (statusCode : Nat) : Decidable (o.Answered statusCode) :=
  inferInstanceAs (Decidable (_ = _))

/-- A decoded body.  A `double` is kept as the text Dart prints for it. -/
inductive Json
  | null
  | bool (b : Bool)
  | int (n : Int)
  | double (text : String)
  | str (s : String)
  | arr (elements : List Json)
  | obj (entries : List (String × Json))

namespace Json

mutual

/-- `value.toString()`. -/
def toString : Json → String
  | null => "null"
  | bool b => if b then "true" else "false"
  | int n => ToString.toString n
  | double text => text
  | str s => s
  | arr elements => "[" ++ ", ".intercalate (elementsToString elements) ++ "]"
  | obj entries => "\x7b" ++ ", ".intercalate (entriesToString entries) ++ "\x7d"

def elementsToString : List Json → List String
  | [] => []
  | j :: js => toString j :: elementsToString js

def entriesToString : List (String × Json) → List String
  | [] => []
  | (k, j) :: js => (k ++ ": " ++ toString j) :: entriesToString js

end

/-- The entry of a map, `null` when there is none. -/
def field (entries : List (String × Json)) (key : String) : Json :=
  (entries.lookup key).getD null

/-- `value[key]` with a string key. -/
def index : Json → String → Except DartError Json
  | obj entries, key => .ok (field entries key)
  | arr _, _ | str _, _ => .error .typeError
  | null, _ | bool _, _ | int _, _ | double _, _ => .error .noSuchMethod

/-- The cast to `String`. -/
def asString : Json → Except DartError String
  | str s => .ok s
  | _ => .error .typeError

/-- The cast to `int`. -/
def asInt : Json → Except DartError Int
  | int n => .ok n
  | _ => .error .typeError

end Json

end GoodOmens
