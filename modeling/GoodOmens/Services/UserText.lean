import GoodOmens.Services.Decoded
import GoodOmens.Services.User

/-!
# Users as text

`userToJson` and `userFromJson` of `models/user.dart`, and what `services/user.dart` reads.

A Dart `int` has 64 bits, a condition on the fields (`Fits`) that a user who was read from a
text always meets (`fits_of_userFromJson`).  So for such a user nothing is assumed:
writing and reading again gives the user back (`userFromJson_rewrite`).
-/

namespace GoodOmens

open JsonText

/-- `User.toJson`. -/
def User.toJson (user : User) : Json :=
  .obj [
    ("id", .str user.id),
    ("email", .str user.email),
    ("phone_number", .str user.phoneNumber),
    ("book", .str user.book),
    ("language", .str user.language),
    ("reminder", .str user.reminder),
    ("theme", .int user.theme),
    ("subscription", .int user.subscription),
    ("subscription_time", .str user.subscription_time)]

def userToJson (data : User) : String := jsonEncode data.toJson

/-- A map of strings. -/
def strings (entries : List (String × String)) : Json :=
  .obj (entries.map (fun e => (e.1, .str e.2)))

section

variable (printDouble : String → String)

def userFromJson (str : String) : Except DartError User := do
  User.fromJson (← jsonDecode printDouble str)

end

/-- The numbers of the user are `int`s. -/
structure User.Fits (user : User) : Prop where
  theme : InRange user.theme
  subscription : InRange user.subscription

variable {printDouble : String → String} {user : User}

/-! ### Written and read again -/

theorem User.fromJson_toJson (user : User) : User.fromJson user.toJson = .ok user := rfl

theorem User.plain_toJson (h : user.Fits) : Plain user.toJson := by
  refine ⟨by simp, ?_⟩
  simp [WellFormedEntries, WellFormed, h.theme, h.subscription]

/-- **A user is read back from its text.** -/
theorem userFromJson_userToJson (h : user.Fits) :
    userFromJson printDouble (userToJson user) = .ok user := by
  rw [userFromJson, userToJson, jsonDecode_jsonEncode printDouble (User.plain_toJson h)]
  exact User.fromJson_toJson user

/-! ### Read, written and read again -/

/-- A field of a map that was decoded. -/
theorem wellFormed_field {entries : List (String × Json)} {doubles : Prop}
    (h : WellFormedEntries doubles entries) (key : String) :
    WellFormed doubles (Json.field entries key) := by
  induction entries with
  | nil => exact trivial
  | cons e entries ih =>
    obtain ⟨k, j⟩ := e
    unfold Json.field
    rw [List.lookup_cons]
    cases key == k with
    | true => exact h.1
    | false => exact ih h.2

theorem inRange_of_asInt {j : Json} {n : Int} {doubles : Prop} (h : WellFormed doubles j)
    (hn : j.asInt = .ok n) : InRange n := by
  cases j with
  | int m =>
    obtain rfl := Except.ok.inj hn
    exact h
  | _ => cases hn

theorem ok_of_bind {α β : Type} {x : Except DartError α} {f : α → Except DartError β} {b : β}
    (h : x >>= f = .ok b) : ∃ a, x = .ok a ∧ f a = .ok b := by
  cases x with
  | error e => cases h
  | ok a => exact ⟨a, rfl, h⟩

theorem User.fits_fromJson {j : Json} {doubles : Prop} (h : WellFormed doubles j)
    (hu : User.fromJson j = .ok user) : user.Fits := by
  cases j with
  | obj entries =>
    have hfield := wellFormed_field h.2
    obtain ⟨_, -, hu⟩ := ok_of_bind hu
    obtain ⟨_, -, hu⟩ := ok_of_bind hu
    obtain ⟨_, -, hu⟩ := ok_of_bind hu
    obtain ⟨_, -, hu⟩ := ok_of_bind hu
    obtain ⟨_, -, hu⟩ := ok_of_bind hu
    obtain ⟨_, -, hu⟩ := ok_of_bind hu
    obtain ⟨theme, htheme, hu⟩ := ok_of_bind hu
    obtain ⟨subscription, hsubscription, hu⟩ := ok_of_bind hu
    obtain ⟨_, -, hu⟩ := ok_of_bind hu
    cases hu
    exact ⟨inRange_of_asInt (hfield _) htheme, inRange_of_asInt (hfield _) hsubscription⟩
  | _ => cases hu

theorem fits_of_userFromJson {str : String} (h : userFromJson printDouble str = .ok user) :
    user.Fits := by
  obtain ⟨json, hj, hu⟩ := ok_of_bind h
  exact User.fits_fromJson (wellFormed_jsonDecode hj) hu

/-- **A user that was read, from whatever text, is the same after it is written and read
again.** -/
theorem userFromJson_rewrite {str : String} (h : userFromJson printDouble str = .ok user) :
    userFromJson printDouble (userToJson user) = .ok user :=
  userFromJson_userToJson (fits_of_userFromJson h)

/-- **`getUserById` gives the user whose text the backend has put into the payload.** -/
theorem getUserById_payload {entries : List (String × Json)} (h : Plain (.obj entries))
    (hp : Json.field entries "Payload" = user.toJson) :
    UserService.getUserById (jsonDecode printDouble)
      (.response 200 (jsonEncode (.obj entries))) = .ok user := by
  rw [UserService.getUserById, if_pos rfl, jsonDecode_jsonEncode printDouble h]
  show User.fromJson (Json.field entries "Payload") = .ok user
  rw [hp, User.fromJson_toJson]

theorem fits_of_getUserById {o : Outcome}
    (h : UserService.getUserById (jsonDecode printDouble) o = .ok user) : user.Fits := by
  cases o with
  | exception => cases h
  | response statusCode body =>
    unfold UserService.getUserById at h
    dsimp only at h
    split at h
    · obtain ⟨json, hj, h⟩ := ok_of_bind h
      obtain ⟨payload, hp, hu⟩ := ok_of_bind h
      have hwell := wellFormed_jsonDecode hj
      cases json with
      | obj entries =>
        obtain rfl := Except.ok.inj hp
        exact User.fits_fromJson (wellFormed_field hwell.2 "Payload") hu
      | _ => cases hp
    · cases h

/-- **A user that came in, with whatever answer, comes in unchanged when the backend sends
it as the app writes it.** -/
theorem getUserById_rewrite {o : Outcome}
    (h : UserService.getUserById (jsonDecode printDouble) o = .ok user) :
    UserService.getUserById (jsonDecode printDouble)
        (.response 200 (jsonEncode (.obj [("Payload", user.toJson)]))) = .ok user ∧
      userFromJson printDouble (userToJson user) = .ok user := by
  have hfits := fits_of_getUserById h
  refine ⟨getUserById_payload ⟨by simp, User.plain_toJson hfits, trivial⟩ rfl, ?_⟩
  exact userFromJson_userToJson hfits

/-- A user who was sent by the backend. -/
theorem getUserById_rewrite_jane :
    let jane : User :=
      ⟨"u1", "jane@omens.org", "", "John", "en", "\"7:00\"", 12, 1, "2024-01-01 07:00"⟩
    UserService.getUserById (jsonDecode id)
        (.response 200 (jsonEncode (.obj [("Payload", jane.toJson)]))) = .ok jane ∧
      userFromJson id (userToJson jane) = .ok jane := by
  intro jane
  have hfits : jane.Fits := ⟨by decide, by decide⟩
  exact getUserById_rewrite (o := .response 200 (jsonEncode (.obj [("Status", .str "ok"),
    ("Payload", jane.toJson)])))
    (getUserById_payload ⟨by simp, trivial, User.plain_toJson hfits, trivial⟩ rfl)

/-! ### Maps of strings -/

theorem plain_strings {entries : List (String × String)} (h : (entries.map Prod.fst).Nodup) :
    Plain (strings entries) := by
  refine ⟨?_, ?_⟩
  · rw [List.map_map]
    exact h
  · clear h
    induction entries with
    | nil => exact trivial
    | cons e entries ih => exact ⟨trivial, ih⟩

variable (printDouble) in
/-- A map of strings is read back, whatever the strings are. -/
theorem jsonDecode_strings {entries : List (String × String)} (h : (entries.map Prod.fst).Nodup) :
    jsonDecode printDouble (jsonEncode (strings entries)) = .ok (strings entries) :=
  jsonDecode_jsonEncode printDouble (plain_strings h)

end GoodOmens
