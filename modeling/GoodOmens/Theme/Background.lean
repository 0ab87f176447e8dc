import GoodOmens.Services.Http

/-!
# Themes and their pictures

A theme is a number.  `get_background.dart` turns it into the name of a class and
looks that up in a table (`typeOf`), `background_swiper.dart` has a list of images
in which the user chooses (`images`).  The numbers are the places in the list and,
with `999` for the background before the user is known, the keys of the table:
`Listed` themes have an image, and all of them can be drawn (`typeOf_of_listed`).
-/

namespace GoodOmens.Theme

/-- The images of the carousel. -/
def images : List String :=
  ["assets/img/gradient1.png", "assets/img/palette.png", "assets/img/bubble.jpeg",
    "assets/img/astro.jpeg", "assets/img/sunset.jpeg", "assets/img/dune.jpeg",
    "assets/img/surfing.jpeg", "assets/img/4ab8f48b92ddc27a53ebdaae2b29aeb3.jpeg",
    "assets/img/04d1fd74cbf93eabbf41ee54a2c57ede.jpeg",
    "assets/img/8aa8e982ae4ecea96e86c6ca81abcbc3.jpeg",
    "assets/img/8d00e64a2543103d090ef99c8b11ac48.jpeg",
    "assets/img/57a9b08e531021ff5445a3c6f2353a4a.jpeg",
    "assets/img/86b33c997b2f285a3febc956877ac0aa.jpeg",
    "assets/img/115ca8ab2db08ee9b9ad1c6894b2abdc.jpeg",
    "assets/img/a6f1ad42e114ba5f86cb2e8bd1bdd62a.jpeg",
    "assets/img/aa1e6688600ce92bdcae36ac651460f5.jpeg",
    "assets/img/c2c14fa3e8f294a27f299c0867c5622a.jpeg",
    "assets/img/d244b755cda2c5ba5746c7e79ac3029d.jpeg",
    "assets/img/da2489de243ed126e8bc4b1ffd30f5dc.jpeg",
    "assets/img/ec6804e0c922a3ac35ddb68bc43bc8ad.jpeg",
    "assets/img/fff36dca5684b681b5631e795bdc83a6.jpeg"]

/-- The background widgets. -/
inductive Background
  | backgroundX
  | background0
  | background3
  | background4
  | background5
  | background6
  | background7
  | background8
  | background11
  | background12
  | background13
  | background14
  | background15
  | background16
  | background17
  | background18
  | background19
  | background20
  | background21
  | background22
  | background23
  | background24
deriving DecidableEq, Repr

/-- The table of `TypeUtils.typeOf`. -/
def backgrounds : List (String × Background) :=
  [("Background999", .backgroundX),
    ("Background0", .background0),
    ("Background1", .background3),
    ("Background2", .background4),
    ("Background3", .background5),
    ("Background4", .background6),
    ("Background5", .background7),
    ("Background6", .background8),
    ("Background7", .background11),
    ("Background8", .background12),
    ("Background9", .background13),
    ("Background10", .background14),
    ("Background11", .background15),
    ("Background12", .background16),
    ("Background13", .background17),
    ("Background14", .background18),
    ("Background15", .background19),
    ("Background16", .background20),
    ("Background17", .background21),
    ("Background18", .background22),
    ("Background19", .background23),
    ("Background20", .background24)]

/-- `TypeUtils.typeOf`: `none` is Dart's `null`. -/
def typeOf (name : String) : Option Background := backgrounds.lookup name

/-- `getBackground`, which calls what it found. -/
def getBackground (theme : Int) : Except DartError Background :=
  let className := "Background" ++ toString theme
  match typeOf className with
  | some backgroundType => .ok backgroundType
  | none => .error .noSuchMethod

/-- The theme has an image. -/
def Listed (theme : Int) : Prop := 0 ≤ theme ∧ theme < images.length

instance (theme : Int) : Decidable (Listed theme) := inferInstanceAs (Decidable (_ ∧ _))

theorem typeOf_ofNat : ∀ n : Nat, n < images.length →
    (typeOf ("Background" ++ toString (n : Int))).isSome = true := by
  decide +kernel

/-- **The two numberings are aligned.**  There is a background for every image. -/
theorem typeOf_of_listed {theme : Int} (h : Listed theme) :
    (typeOf ("Background" ++ toString theme)).isSome = true := by
  have heq : ((theme.toNat : Nat) : Int) = theme := Int.toNat_of_nonneg h.1
  have hlt : theme.toNat < images.length := by
    have := h.2
    omega
  rw [← heq]
  exact typeOf_ofNat _ hlt

/-- What is in the table can be drawn. -/
theorem getBackground_of_isSome {theme : Int}
    (h : (typeOf ("Background" ++ toString theme)).isSome = true) :
    ∃ background, getBackground theme = .ok background := by
  obtain ⟨background, hb⟩ := Option.isSome_iff_exists.mp h
  refine ⟨background, ?_⟩
  unfold getBackground
  simp only [hb]

/-- The border of an item of the carousel is drawn for the selected one. -/
def gradient (currentIndex : Int) (item : String) : Bool :=
  decide ((images.idxOf item : Int) = currentIndex)

/-- No image stands twice in the list. -/
theorem nodup_images : images.Nodup := by simp [images]

/-- So the item drawn as selected is the one with the index. -/
theorem gradient_getElem (currentIndex : Int) (n : Nat) (h : n < images.length) :
    gradient currentIndex images[n] = true ↔ (n : Int) = currentIndex := by
  have hidx : images.idxOf images[n] = n := nodup_images.idxOf_getElem n h
  unfold gradient
  rw [hidx]
  exact decide_eq_true_iff

end GoodOmens.Theme
