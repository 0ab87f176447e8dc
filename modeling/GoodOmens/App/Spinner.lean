import GoodOmens.App.Moves
import GoodOmens.App.Tasks

/-!
# What the cover page shows while it waits

The Bible on the cover page gives way to the simulation while `isLoading` is set, and cannot be
tapped then.  So a cover page should be loading exactly while its verse is on the way, and wait
for one verse at a time, whatever happens in between: other cover pages on the stack with a
verse of their own, pages that are put over it or taken off, sign-ins and sign-outs.

`along_loadsOneVerse_iff` says that this is so exactly in the runs in which no verse request
throws while its page is there.
-/

namespace GoodOmens.App

open Navigator

/-- A cover page that is loading waits for one verse, and any other for none. -/
def LoadsOneVerse (_ : AppState) (_ : Act) (s' : AppState) (_ : List Effect) : Prop :=
  ∀ i c, s'.coverState i = some c → s'.tasks.count (.fetchVerse i) = if c.isLoading then 1 else 0

/-- The verse request of a page that is there does not throw. -/
def VerseEnds (s : AppState) (a : Act) : Prop :=
  ∀ i, a = .fetchVerseAnswer i .threw → s.coverState i = none

/-- The cover pages and the verses they wait for.  A page before its first frame waits for none,
and neither does the next page. -/
structure Loads (s : AppState) : Prop where
  loading : ∀ i c, s.coverState i = some c →
    s.tasks.count (.fetchVerse i) = if c.isLoading then 1 else 0
  unbuilt : ∀ i, s.nav.find i = some (.cover none) → .fetchVerse i ∉ s.tasks
  fresh : ∀ i, .fetchVerse i ∈ s.tasks → i < s.nav.next

variable {s s' : AppState} {a : Act} {es : List Effect} {i : Nat} {n m : Navigator Page}
  {p : Page}

/-! ### The cover pages on the stack -/

theorem coverState_eq_some {c : Cover} :
    s.coverState i = some c ↔ s.nav.find i = some (.cover (some c)) := by
  constructor
  · exact fun h => find_eq_some.mpr (AppState.mem_of_coverState h)
  · intro h
    unfold AppState.coverState
    rw [h]

/-- Cover pages stay as they are, and come with a new identity and without a state. -/
def KeepsCovers (n m : Navigator Page) : Prop :=
  n.next ≤ m.next ∧ ∀ i c, m.find i = some (.cover c) →
    n.find i = some (.cover c) ∨ n.next ≤ i ∧ c = none

theorem keepsCovers_of_mem (hle : n.next ≤ m.next)
    (h : ∀ r ∈ m.history, r.page.isCover → r ∈ n.history) : KeepsCovers n m := by
  refine ⟨hle, fun i c hi => .inl ?_⟩
  exact find_eq_some.mpr (h ⟨i, .cover c⟩ (mem_of_find hi) rfl)

theorem keepsCovers_trans {k : Navigator Page} (h : KeepsCovers n m) (h' : KeepsCovers m k) :
    KeepsCovers n k := by
  refine ⟨Nat.le_trans h.1 h'.1, fun i c hi => ?_⟩
  rcases h'.2 i c hi with hi | ⟨hle, rfl⟩
  · exact h.2 i c hi
  · exact .inr ⟨Nat.le_trans h.1 hle, rfl⟩

theorem keepsCovers_pop : KeepsCovers n n.pop :=
  keepsCovers_of_mem (Nat.le_refl _) (fun _ hr _ => mem_of_mem_pop hr)

theorem keepsCovers_push (hp : p.isCover = false) : KeepsCovers n (n.push p) := by
  refine keepsCovers_of_mem (Nat.le_succ _) (fun r hr hc => ?_)
  rcases mem_push.mp hr with rfl | hr
  · rw [hp] at hc
    cases hc
  · exact hr

theorem keepsCovers_setPage (hp : p.isCover = false) : KeepsCovers n (n.setPage i p) := by
  refine keepsCovers_of_mem (Nat.le_refl _) (fun r hr hc => ?_)
  rcases mem_setPage hr with rfl | hr
  · rw [hp] at hc
    cases hc
  · exact hr

theorem keepsCovers_openCover : KeepsCovers n (n.pushReplacement (.cover none)) := by
  unfold pushReplacement
  split
  · exact keepsCovers_of_mem (Nat.le_refl _) (fun _ hr _ => hr)
  · refine keepsCovers_trans keepsCovers_pop ⟨Nat.le_succ _, fun i c hi => ?_⟩
    rcases mem_push.mp (mem_of_find hi) with he | hi
    · cases he
      exact .inr ⟨Nat.le_refl _, rfl⟩
    · exact .inl (find_eq_some.mpr hi)

theorem keepsCovers_moves (h : Moves n m) : KeepsCovers n m := by
  induction h with
  | refl => exact keepsCovers_of_mem (Nat.le_refl _) (fun _ hr _ => hr)
  | pop _ ih => exact keepsCovers_trans ih keepsCovers_pop
  | push hp _ ih => exact keepsCovers_trans ih (keepsCovers_push hp)
  | setPage hp _ ih => exact keepsCovers_trans ih (keepsCovers_setPage hp)

theorem keepsCovers_step (h : step s a = some (s', es)) (ha : a.writesCover = false) :
    KeepsCovers s.nav s'.nav := by
  rcases moves_step h ha with hm | ⟨-, m, hm, hn⟩
  · exact keepsCovers_moves hm
  · rw [hn]
    exact keepsCovers_trans (keepsCovers_moves hm) keepsCovers_openCover

/-! ### The verses on their way -/

/-- The calls of the step are for no verse. -/
theorem count_step (h : step s a = some (s', es)) (hs : s.starts a ≠ some (.fetchVerse i))
    (ha : a.answers ≠ some (.fetchVerse i)) :
    s'.tasks.count (.fetchVerse i) = s.tasks.count (.fetchVerse i) := by
  have hothers : (s.others a).count (.fetchVerse i) = s.tasks.count (.fetchVerse i) := by
    unfold AppState.others
    split
    · rename_i t ht
      refine List.count_erase_of_ne ?_
      rintro rfl
      exact ha ht
    · rfl
  rcases tasks_step h with ht | ⟨t, hst, ht⟩
  · rw [ht, hothers]
  · rw [ht, List.count_cons_of_ne, hothers]
    rintro rfl
    exact hs hst

/-- Only a tap starts a verse request. -/
theorem starts_ne_fetchVerse (ha : a ≠ .tapBible) : s.starts a ≠ some (.fetchVerse i) := by
  intro h
  have hmap {α : Type} {x : Option α} {task : α → Task} (hx : x.map task = some (.fetchVerse i))
      (hno : ∀ y, task y ≠ .fetchVerse i) : False := by
    obtain ⟨y, -, he⟩ := Option.map_eq_some_iff.mp hx
    exact hno y he
  cases a with
  | tapBible => exact ha rfl
  | signIn | signUp | resetPassword | signInWithGoogle | reload =>
    exact hmap h (fun _ he => by cases he)
  | fetchVerseAnswer j answer => cases answer <;> cases h
  | signUpAnswer j answer => cases answer <;> cases h
  | googleAnswer j user => cases user <;> cases h
  | checkAnswer j σ o m =>
    obtain ⟨-, he⟩ := Option.ite_none_right_eq_some.mp h
    cases he
  | _ => cases h

/-- The verse that comes is waited for no longer. -/
theorem count_fetchVerseAnswer {answer : Answer}
    (h : s.fetchVerseAnswer i answer = some (s', es)) :
    s'.tasks.count (.fetchVerse i) + 1 = s.tasks.count (.fetchVerse i) := by
  have hmem : .fetchVerse i ∈ s.tasks := (AppState.finish_bind h).1
  have herase : (s.tasks.erase (.fetchVerse i)).count (.fetchVerse i) + 1 =
      s.tasks.count (.fetchVerse i) := by
    rw [List.count_erase_self]
    exact Nat.sub_add_cancel (List.one_le_count_iff.mpr hmem)
  rcases tasks_step (a := .fetchVerseAnswer i answer) h with ht | ⟨t, hst, ht⟩
  · rw [ht]
    exact herase
  · rw [ht, List.count_cons_of_ne]
    · exact herase
    · rintro rfl
      exact starts_ne_fetchVerse (by rintro ⟨⟩) hst

/-! ### Steps -/

theorem loads_tapBible (hi : Loads s) (h : s.tapBible = some (s', es)) : Loads s' := by
  obtain ⟨j, c, hf, hl, rfl, -⟩ := AppState.tapBible_inv h
  have hmem := AppState.mem_of_front hf
  have hcount : s.tasks.count (.fetchVerse j) = 0 := by
    rw [hi.loading j c (coverState_eq_some.mpr (find_eq_some.mpr hmem)), hl]
    rfl
  refine ⟨?_, ?_, ?_⟩
  · intro i c' hc
    rcases find_setPage_inv (coverState_eq_some.mp hc) with ⟨rfl, he⟩ | ⟨hne, hfind⟩
    · cases he
      exact List.count_cons_self.trans (congrArg Nat.succ hcount)
    · have hne' : Task.fetchVerse j ≠ .fetchVerse i := by
        rintro ⟨⟩
        exact hne rfl
      exact (List.count_cons_of_ne hne').trans (hi.loading i c' (coverState_eq_some.mpr hfind))
  · intro i hfind ht
    rcases find_setPage_inv hfind with ⟨rfl, he⟩ | ⟨hne, hfind⟩
    · cases he
    · rcases List.mem_cons.mp ht with he | ht
      · cases he
        exact hne rfl
      · exact hi.unbuilt i hfind ht
  · intro i ht
    rcases List.mem_cons.mp ht with he | ht
    · cases he
      exact s.nav.lt_next _ hmem
    · exact hi.fresh i ht

theorem loads_fetchVerseAnswer {j : Nat} {answer : Answer} (hi : Loads s)
    (hg : VerseEnds s (.fetchVerseAnswer j answer))
    (h : s.fetchVerseAnswer j answer = some (s', es)) : Loads s' := by
  have hmem : ∀ i, .fetchVerse i ∈ s'.tasks → .fetchVerse i ∈ s.tasks := fun i ht =>
    (mem_tasks_step (a := .fetchVerseAnswer j answer) h ht).resolve_right
      (starts_ne_fetchVerse (by rintro ⟨⟩))
  have hother : ∀ i, i ≠ j →
      s'.tasks.count (.fetchVerse i) = s.tasks.count (.fetchVerse i) := fun i hne =>
    count_step (a := .fetchVerseAnswer j answer) h (starts_ne_fetchVerse (by rintro ⟨⟩))
      (by rintro ⟨⟩; exact hne rfl)
  obtain ⟨-, ⟨rfl, hno⟩ | ⟨c, p, hc, hp, hn, -, hanswer⟩⟩ := AppState.fetchVerseAnswer_inv h
  · -- the page is gone: a request that throws for a page that is there is excluded
    have hnone : s.coverState j = none := by
      rcases hno with hnone | rfl
      · exact hnone
      · exact hg j rfl
    refine ⟨?_, fun i hfind ht => hi.unbuilt i hfind (hmem i ht),
      fun i ht => hi.fresh i (hmem i ht)⟩
    intro i c hc
    have hne : i ≠ j := by
      rintro rfl
      rw [show s.coverState i = some c from hc] at hnone
      cases hnone
    rw [hother i hne]
    exact hi.loading i c hc
  · have hzero : s'.tasks.count (.fetchVerse j) = 0 := by
      have hone := count_fetchVerseAnswer h
      rw [hi.loading j c hc] at hone
      split at hone <;> omega
    have hload : (c.fetched answer).isLoading = false := by
      rcases hanswer with ⟨rfl, -⟩ | ⟨rfl, -⟩
      · rfl
      · rfl
    have hfind {i : Nat} {x : Option Cover} (hx : s'.nav.find i = some (.cover x)) :
        i = j ∧ x = some (c.fetched answer) ∨
          i ≠ j ∧ s.nav.find i = some (.cover x) := by
      rw [hn] at hx
      rcases mem_push.mp (mem_of_find hx) with he | hx
      · obtain rfl : .cover x = p := congrArg Route.page he
        cases hp
      · rcases find_setPage_inv (find_eq_some.mpr hx) with ⟨rfl, he⟩ | hold
        · cases he
          exact .inl ⟨rfl, rfl⟩
        · exact .inr hold
    refine ⟨?_, ?_, ?_⟩
    · intro i c' hc'
      rcases hfind (coverState_eq_some.mp hc') with ⟨rfl, he⟩ | ⟨hne, hold⟩
      · cases he
        rw [hload]
        exact hzero
      · rw [hother i hne]
        exact hi.loading i c' (coverState_eq_some.mpr hold)
    · intro i hi' ht
      rcases hfind hi' with ⟨-, he⟩ | ⟨-, hold⟩
      · cases he
      · exact hi.unbuilt i hold (hmem i ht)
    · intro i ht
      rw [hn]
      exact Nat.lt_succ_of_lt (hi.fresh i (hmem i ht))

/-- The first frame gives cover pages a state that waits for nothing. -/
theorem built_eq_cover {x : Option Cover} (h : s.built p = .cover x) :
    p = .cover none ∧ (∃ c, x = some c ∧ c.isLoading = false) ∨ p = .cover x ∧ x ≠ none := by
  unfold AppState.built at h
  split at h
  · rename_i hw
    cases h
    refine .inl ⟨?_, _, rfl, rfl⟩
    unfold Page.awaitsFrame at hw
    split at hw
    · rfl
    · cases hw
  · rename_i hw
    refine .inr ⟨h, ?_⟩
    rintro rfl
    exact hw (h ▸ rfl)

theorem loads_frame (hi : Loads s) (h : s.frame = some (s', es)) : Loads s' := by
  have htasks : s'.tasks = s.tasks := by
    rcases calls_frame h with ht | ⟨_, hst, -⟩
    · exact ht
    · cases hst
  obtain ⟨hnext, hcovers⟩ : s.nav.next ≤ s'.nav.next ∧ ∀ i x, s'.nav.find i = some (.cover x) →
      (s.nav.mapPages (fun _ => s.built)).find i = some (.cover x) := by
    obtain ⟨-, -, -, ⟨hn, -⟩ | ⟨q, ⟨hq, -⟩, hn, -⟩⟩ := AppState.frame_inv h
    · rw [hn]
      exact ⟨Nat.le_refl _, fun _ _ hx => hx⟩
    · have hq' := Page.isCover_of_not_isVerseFlow hq
      refine ⟨?_, ?_⟩
      · rw [hn]
        show (s.nav.mapPages (fun _ => s.built)).next ≤ _
        exact (keepsCovers_moves (.pushReplacement hq' .refl)).1
      · intro i x hx
        rw [hn] at hx
        rcases mem_pushReplacement (mem_of_find hx) with ⟨he, -⟩ | hx
        · rw [← he] at hq'
          cases hq'
        · exact find_eq_some.mpr (List.mem_of_mem_tail hx)
  have hfind {i : Nat} {x : Option Cover} (hx : s'.nav.find i = some (.cover x)) :
      s.nav.find i = some (.cover none) ∧ (∃ c, x = some c ∧ c.isLoading = false) ∨
        s.nav.find i = some (.cover x) ∧ x ≠ none := by
    obtain ⟨⟨j, q⟩, hq, he⟩ := mem_mapPages.mp (mem_of_find (hcovers i x hx))
    obtain ⟨rfl, he⟩ := Route.mk.inj he
    rcases built_eq_cover he.symm with ⟨rfl, hx⟩ | ⟨rfl, hx⟩
    · exact .inl ⟨find_eq_some.mpr hq, hx⟩
    · exact .inr ⟨find_eq_some.mpr hq, hx⟩
  refine ⟨?_, ?_, ?_⟩
  · intro i c hc
    rw [htasks]
    rcases hfind (coverState_eq_some.mp hc) with ⟨hnone, _, he, hl⟩ | ⟨hold, -⟩
    · cases he
      rw [hl, List.count_eq_zero.mpr (hi.unbuilt i hnone)]
      rfl
    · exact hi.loading i c (coverState_eq_some.mpr hold)
  · intro i hnone
    rcases hfind hnone with ⟨-, _, he, -⟩ | ⟨-, hne⟩
    · cases he
    · exact absurd rfl hne
  · intro i ht
    rw [htasks] at ht
    exact Nat.lt_of_lt_of_le (hi.fresh i ht) hnext

/-- **One step keeps what the pages wait for.** -/
theorem loads_step (hi : Loads s) (hg : VerseEnds s a) (h : step s a = some (s', es)) :
    Loads s' := by
  have hkeeps (hw : a.writesCover = false) (hs : ∀ i, s.starts a ≠ some (.fetchVerse i))
      (ha : ∀ i, a.answers ≠ some (.fetchVerse i)) : Loads s' := by
    obtain ⟨hnext, hcovers⟩ := keepsCovers_step h hw
    have hmem : ∀ i, .fetchVerse i ∈ s'.tasks → .fetchVerse i ∈ s.tasks := fun i ht =>
      (mem_tasks_step h ht).resolve_right (hs i)
    refine ⟨?_, ?_, fun i ht => Nat.lt_of_lt_of_le (hi.fresh i (hmem i ht)) hnext⟩
    · intro i c hc
      rw [count_step h (hs i) (ha i)]
      rcases hcovers i _ (coverState_eq_some.mp hc) with hold | ⟨-, he⟩
      · exact hi.loading i c (coverState_eq_some.mpr hold)
      · cases he
    · intro i hnone ht
      rcases hcovers i _ hnone with hold | ⟨hle, -⟩
      · exact hi.unbuilt i hold (hmem i ht)
      · exact Nat.not_le_of_lt (hi.fresh i (hmem i ht)) hle
  cases a with
  | tapBible => exact loads_tapBible hi h
  | fetchVerseAnswer j answer => exact loads_fetchVerseAnswer hi hg h
  | frame => exact loads_frame hi h
  | _ =>
    exact hkeeps rfl (fun _ => starts_ne_fetchVerse (by rintro ⟨⟩)) (fun _ => by rintro ⟨⟩)

theorem loads_start (h : Starts s) : Loads s := by
  obtain ⟨hnav, htasks, -⟩ := h
  have hno : ∀ i, .fetchVerse i ∉ s.tasks := by
    rw [htasks]
    exact fun _ => List.not_mem_nil
  refine ⟨?_, fun i _ => hno i, fun i ht => absurd ht (hno i)⟩
  intro i c hc
  have hmem := AppState.mem_of_coverState hc
  rw [hnav] at hmem
  cases List.mem_singleton.mp hmem

/-- A verse request that throws leaves its page loading. -/
theorem loadsOneVerse_iff (hi : Loads s) (h : step s a = some (s', es)) :
    LoadsOneVerse s a s' es ↔ VerseEnds s a := by
  refine ⟨?_, fun hg => (loads_step hi hg h).loading⟩
  rintro hl i rfl
  cases hc : s.coverState i with
  | none => rfl
  | some c =>
    obtain ⟨-, ⟨rfl, -⟩ | ⟨_, _, -, -, -, -, ⟨he, -⟩ | ⟨he, -⟩⟩⟩ :=
      AppState.fetchVerseAnswer_inv h
    · have hone := count_fetchVerseAnswer h
      rw [hl i c hc, hi.loading i c hc] at hone
      split at hone <;> omega
    · cases he
    · cases he

/-- **A cover page is loading exactly while it waits for one verse**, in exactly the runs in
which no verse request throws while its page is there. -/
theorem along_loadsOneVerse_iff (h : Starts s) (as : List Act) :
    app.Along LoadsOneVerse s as ↔ app.Along (Machine.before VerseEnds) s as := by
  refine Machine.along_iff Loads ?_ ?_ as s (loads_start h)
  · intro s a s' es hi hst
    exact loadsOneVerse_iff hi hst
  · intro s a s' es hi hg hst
    exact loads_step hi hg hst

/-- The phone is offline when the Bible is tapped. -/
theorem not_along_loadsOneVerse_offline :
    ¬ app.Along LoadsOneVerse (startedBy "a" ["a"])
      [.frame, .tapBible, .fetchVerseAnswer 0 .threw] := by
  rw [along_loadsOneVerse_iff (starts_startedBy _ _)]
  rintro ⟨-, -, hends, -⟩
  exact absurd (hends 0 rfl) (by decide)

end GoodOmens.App
