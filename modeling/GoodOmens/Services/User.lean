import GoodOmens.Services.Http

/-!
# The user service

`models/user.dart` and `services/user.dart`.  Every method makes one request and
turns its outcome into a value: `getUserById` throws unless the answer is a `200`
with a well-formed user; the four writing methods return `"success"`, `"error"`
or, when the request throws, `null`; `checkIfFirstTimeLogin` is true on a `404`
and false on everything else, an exception included.

The four writing methods are one function of the outcome, `acknowledged`.
-/

namespace GoodOmens

/-- `user_model.User`. -/
structure User where
  id : String
  email : String
  phoneNumber : String
  book : String
  language : String
  reminder : String
  theme : Int
  subscription : Int
  subscription_time : String
deriving DecidableEq, Repr

/-- `User.fromJson`, whose argument is cast to `Map<String, dynamic>`. -/
def User.fromJson (json : Json) : Except DartError User :=
  match json with
  | .obj entries => do
    let field := Json.field entries
    return {
      id := ← (field "id").asString
      email := ← (field "email").asString
      phoneNumber := ← (field "phone_number").asString
      book := ← (field "book").asString
      language := ← (field "language").asString
      reminder := ← (field "reminder").asString
      theme := ← (field "theme").asInt
      subscription := ← (field "subscription").asInt
      subscription_time := ← (field "subscription_time").asString }
  | _ => .error .typeError

namespace UserService

/-- `getUserById`: anything but a `200` with a user in its payload throws. -/
def getUserById (jsonDecode : String → Except DartError Json) : Outcome → Except DartError User
  | .response statusCode body =>
    if statusCode = 200 then do
      let responseData ← jsonDecode body
      User.fromJson (← responseData.index "Payload")
    else
      .error (.exception body)
  | .exception => .error .clientException

/-- The result of a writing method: `none` is Dart's `null`. -/
def acknowledged : Outcome → Option String
  | .response statusCode _ => if statusCode = 200 then some "success" else some "error"
  | .exception => none

def createUser (o : Outcome) : Option String := acknowledged o
def updateUserTheme (o : Outcome) : Option String := acknowledged o
def subscribe (o : Outcome) : Option String := acknowledged o
def unsubscribe (o : Outcome) : Option String := acknowledged o

/-- `checkIfFirstTimeLogin`. -/
def checkIfFirstTimeLogin : Outcome → Bool
  | .response statusCode _ => if statusCode = 200 then false else statusCode = 404
  | .exception => false

/-- **A writing method says `"success"` exactly on a `200`.** -/
theorem acknowledged_eq_success {o : Outcome} :
    acknowledged o = some "success" ↔ o.Answered 200 := by
  cases o with
  | response statusCode body =>
    simp only [acknowledged, Outcome.Answered, Outcome.status, Option.some.injEq]
    split <;> simp_all
  | exception => simp [acknowledged, Outcome.Answered, Outcome.status]

/-- It says `"error"` exactly on an answer that is no `200`, so an exception is
neither. -/
theorem acknowledged_eq_error {o : Outcome} :
    acknowledged o = some "error" ↔ o ≠ .exception ∧ ¬ o.Answered 200 := by
  cases o with
  | response statusCode body =>
    simp only [acknowledged, Outcome.Answered, Outcome.status, Option.some.injEq]
    split <;> simp_all
  | exception => simp [acknowledged]

/-- A first login is a `404` and nothing else. -/
theorem checkIfFirstTimeLogin_eq_true {o : Outcome} :
    checkIfFirstTimeLogin o = true ↔ o.Answered 404 := by
  cases o with
  | response statusCode body =>
    simp only [checkIfFirstTimeLogin, Outcome.Answered, Outcome.status, Option.some.injEq]
    split <;> simp_all
  | exception => simp [checkIfFirstTimeLogin, Outcome.Answered, Outcome.status]

end UserService

end GoodOmens
