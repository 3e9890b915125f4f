import GlassTty.Proofs.Session.HandedOut

/-!
# Names that are made up

A session that is asked for without a name is given one, `tty` and a number. The number is looked
for behind the count of names, one after the other, until one is free. Two things are to be shown
of it.

* **The search comes to an end** (`GlassTty.Registry.search_makeName_iff`). As a rule of its own it
  has none (`GlassTty.Registry.Search`); there are only finitely many sessions, though, and numbers
  have different names, so that one number more than there are sessions is enough.
* **No name is made up twice** (`GlassTty.Service.made_names_run`). The count of names goes up with
  each name that is made up, whether a session comes of it or not, and nothing else changes it
  (`GlassTty.Service.count_step`).

The count does not run out either. Each number that is counted has been the name of a session that
was asked for (`GlassTty.Service.Covers`), so the count is no greater than the number of these.
-/

namespace GlassTty

variable {σ : Type}

/-! ### The search -/

namespace Registry

variable {taken : String → Bool} {count n n' : Nat}

/-- Different numbers have different names. -/
theorem numberedName_injective : Function.Injective numberedName := by
  intro m n h
  have hdigits : Nat.toDigits 10 m = Nat.toDigits 10 n := by
    have htext := congrArg String.toList ((String.append_right_inj _).mp h)
    simpa [Nat.toString_eq_ofList_toDigits] using htext
  calc
    m = Nat.ofDigitChars 10 (Nat.toDigits 10 m) 0 := Nat.ofDigitChars_ten_toDigits.symm
    _ = Nat.ofDigitChars 10 (Nat.toDigits 10 n) 0 := by rw [hdigits]
    _ = n := Nat.ofDigitChars_ten_toDigits

/-- As many numbers in a row have that many names. -/
theorem le_length_of_numbered (start : Nat) {length : Nat} {names : List String}
    (h : ∀ k, start < k → k ≤ start + length → numberedName k ∈ names) :
    length ≤ names.length := by
  let numbers := List.range' (start + 1) length
  have hdistinct : (numbers.map numberedName).Nodup :=
    List.Nodup.map numberedName_injective List.nodup_range'
  have hnames : numbers.map numberedName ⊆ names := by
    intro name hname
    obtain ⟨k, hk, rfl⟩ := List.mem_map.mp hname
    have hrange := List.mem_range'_1.mp hk
    exact h k (by omega) (by omega)
  have hlength := hdistinct.length_le_of_subset hnames
  rwa [List.length_map, List.length_range'] at hlength

/-- The greatest count of names, which has sixty-four bits. -/
def maxCount : Nat := 0xFFFFFFFFFFFFFFFF

/-- **The search for a name**, from a count to a number. It goes on until a name is free, however
many numbers that takes, but not beyond the greatest count. -/
inductive Search (taken : String → Bool) : Nat → Nat → Prop
  | found {count : Nat} (hroom : count < maxCount)
    (hfree : taken (numberedName (count + 1)) = false) : Search taken count (count + 1)
  | goOn {count n : Nat} (hroom : count < maxCount)
    (htaken : taken (numberedName (count + 1)) = true) (h : Search taken (count + 1) n) :
    Search taken count n

/-- **What the search is for**: the first number behind the count whose name is free. -/
structure IsNext (taken : String → Bool) (count n : Nat) : Prop where
  lt : count < n
  free : taken (numberedName n) = false
  passed : ∀ k, count < k → k < n → taken (numberedName k) = true

namespace IsNext

theorem le (h : IsNext taken count n) {k : Nat} (hk : count < k)
    (hfree : taken (numberedName k) = false) : n ≤ k := by
  by_contra hnot
  have htaken := h.passed k hk (Nat.lt_of_not_le hnot)
  rw [hfree] at htaken
  cases htaken

theorem unique (h : IsNext taken count n) (h' : IsNext taken count n') : n = n' :=
  Nat.le_antisymm (h.le h'.lt h'.free) (h'.le h.lt h.free)

theorem found (hfree : taken (numberedName (count + 1)) = false) :
    IsNext taken count (count + 1) where
  lt := Nat.lt_succ_self count
  free := hfree
  passed := fun k hk hk' => by omega

theorem goOn (htaken : taken (numberedName (count + 1)) = true)
    (h : IsNext taken (count + 1) n) : IsNext taken count n where
  lt := Nat.lt_of_succ_lt h.lt
  free := h.free
  passed := by
    intro k hk hk'
    rcases Nat.eq_or_lt_of_le (Nat.succ_le_of_lt hk) with rfl | hbehind
    · exact htaken
    · exact h.passed k hbehind hk'

end IsNext

/-- **The search ends at the first free number**, if the count goes so far. -/
theorem search_iff : Search taken count n ↔ IsNext taken count n ∧ n ≤ maxCount := by
  constructor
  · intro h
    induction h with
    | found hroom hfree => exact ⟨.found hfree, hroom⟩
    | goOn hroom htaken _ ih => exact ⟨ih.1.goOn htaken, ih.2⟩
  · rintro ⟨h, hn⟩
    -- the induction is on how many numbers are passed over
    obtain ⟨gap, rfl⟩ := Nat.exists_eq_add_of_lt h.lt
    induction gap generalizing count with
    | zero => exact .found hn h.free
    | succ gap ih =>
      have htaken := h.passed (count + 1) (by omega) (by omega)
      have hrest : IsNext taken (count + 1) (count + (gap + 1) + 1) :=
        ⟨by omega, h.free, fun k hk => h.passed k (by omega)⟩
      refine .goOn (by omega) htaken ?_
      rw [show count + (gap + 1) + 1 = count + 1 + gap + 1 by omega] at hrest hn ⊢
      exact ih hrest hn

/-- A search that looks at enough numbers finds the first free one. -/
theorem isNext_freeNumber {fuel k : Nat} (hk : count < k) (hfuel : k ≤ count + fuel + 1)
    (hfree : taken (numberedName k) = false) :
    IsNext taken count (freeNumber taken fuel count) := by
  induction fuel generalizing count with
  | zero =>
    obtain rfl : k = count + 1 := by omega
    exact .found hfree
  | succ fuel ih =>
    unfold freeNumber
    split
    · next htaken =>
      have hne : k ≠ count + 1 := by
        rintro rfl
        rw [hfree] at htaken
        cases htaken
      exact (ih (by omega) (by omega)).goOn htaken
    · next hnot => exact .found (by simpa using hnot)

/-- **Not all of the next numbers are taken** if they are one more than the sessions. -/
theorem exists_free (r : Registry) (count : Nat) :
    ∃ k, count < k ∧ k ≤ count + (r.sessions.length + 1) ∧ r.isLive (numberedName k) = false := by
  by_contra hnone
  have hnames : r.sessions.length + 1 ≤ r.names.length := by
    refine le_length_of_numbered count fun k hk hk' => ?_
    rw [← isLive_iff_mem_names]
    by_contra hfree
    exact hnone ⟨k, hk, hk', by simpa using hfree⟩
  rw [names, List.length_map] at hnames
  omega

theorem isNext_makeName (r : Registry) : IsNext r.isLive r.nameCount r.makeName.2.nameCount := by
  obtain ⟨k, hk, hlast, hfree⟩ := r.exists_free r.nameCount
  exact isNext_freeNumber hk hlast hfree

/-- **The search ends with the name that is made up** and nowhere else. -/
theorem search_makeName_iff (r : Registry) :
    Search r.isLive r.nameCount n ↔ n = r.makeName.2.nameCount ∧ n ≤ maxCount := by
  rw [search_iff]
  refine and_congr_left fun _ => ⟨fun h => h.unique r.isNext_makeName, ?_⟩
  rintro rfl
  exact r.isNext_makeName

theorem nameCount_makeName_le (r : Registry) :
    r.makeName.2.nameCount ≤ r.nameCount + (r.sessions.length + 1) := by
  obtain ⟨k, hk, hlast, hfree⟩ := r.exists_free r.nameCount
  exact (r.isNext_makeName.le hk hfree).trans hlast

end Registry

/-! ### What counts names -/

namespace Multiplexer

variable [SessionHost σ] {m m' : Multiplexer σ} {now : Nat}

theorem Tending.nameCount (h : Tending (some now) m m') :
    m'.registry.nameCount = m.registry.nameCount := by
  cases h with
  | count n howner => cases howner
  | condemn name =>
    change (m.registry.condemn name).nameCount = m.registry.nameCount
    unfold Registry.condemn
    split <;> rfl
  | _ => rfl

theorem Tends.nameCount (h : Tends (some now) m m') :
    m'.registry.nameCount = m.registry.nameCount := by
  induction h with
  | refl => rfl
  | tail _ hlast ih => exact hlast.nameCount.trans ih

/-- What may be done at any time counts no name. -/
theorem nameCount_of_tends (h : ∀ noted, Tends noted m m') :
    m'.registry.nameCount = m.registry.nameCount :=
  (h (some 0)).nameCount

theorem nameCount_openNew (m : Multiplexer σ) (name : String) (command : Option String)
    (height width : Nat) :
    (m.openNew name command height width).2.registry.nameCount = m.registry.nameCount := by
  unfold openNew
  dsimp only
  rcases spawnNext_cases { m with host := (SessionHost.secret m.host).2 }
      (spawnRequest { m with host := (SessionHost.secret m.host).2 } name
        (SessionHost.secret m.host).1 command height width) with
    ⟨error, m', -, hregistry, heq⟩ | ⟨host, -, heq⟩
  · rw [heq]
    exact congrArg (·.nameCount) hregistry
  · rw [heq]
    rfl

/-- **The count of names behind a session that was asked for**, be it granted or not. -/
theorem nameCount_openSized (halive : m.registry.alive = true) (asked command : Option String)
    (height width : UInt16) :
    (m.openSized asked command height width).2.registry.nameCount =
      m.registry.chosenCount asked := by
  rw [openSized_of_alive halive]
  dsimp only
  split
  · next s hs =>
    obtain ⟨height', hheight⟩ := exists_toNat_eq_max height
    obtain ⟨width', hwidth⟩ := exists_toNat_eq_max width
    rw [← hheight, ← hwidth]
    have hs' : (m.counted (m.registry.chosenCount asked)).registry.session?
        (m.registry.chosenName asked) = some s := hs
    exact nameCount_of_tends fun _ => tends_resizeSession hs' height' width'
  · exact nameCount_openNew _ _ _ _ _

/-- The name under which a session is granted. -/
theorem openSized_given {asked command : Option String} {height width : UInt16}
    {given cookie : String}
    (h : (m.openSized asked command height width).1 = .ok (given, cookie)) :
    given = m.registry.chosenName asked := by
  have halive : m.registry.alive = true := (openSized_ok h).1
  rw [openSized_of_alive halive] at h
  dsimp only at h
  split at h
  · cases h
    rfl
  · exact (openNew_ok h).1

/-- The name of the session that is asked for. -/
def sought? (m : Multiplexer σ) : SessionRequest → Option String
  | .openSession asked _ _ _ => some (m.registry.chosenName asked)
  | _ => none

/-- **The name that is made up for a request**, which is one for a session without a name while
sessions are still opened. -/
def made? (m : Multiplexer σ) : SessionRequest → Option String
  | .openSession asked _ _ _ =>
    if m.registry.alive && (asked.filter (!·.isEmpty)).isNone then some m.registry.makeName.1
    else none
  | _ => none

/-- A session is opened under the name that is asked for. -/
theorem sought?_of_opening? {request : SessionRequest} {name : String} {child : ChildId}
    (h : m.opening? request = some (name, child)) : m.sought? request = some name := by
  cases request with
  | openSession asked command height width =>
    unfold opening? at h
    dsimp only at h
    split at h
    · next given cookie after heq =>
      have hgiven := openSized_given (congrArg (·.1) heq)
      split at h
      · cases h
      · obtain ⟨child, -, hpair⟩ := Option.map_eq_some_iff.mp h
        cases hpair
        rw [sought?, hgiven]
    · cases h
  | _ => cases h

/-- **A request counts a name exactly if one is made up for it.** -/
theorem count_serve (m : Multiplexer σ) (request : SessionRequest) :
    (m.made? request = none ∧ (m.serve request).registry.nameCount = m.registry.nameCount) ∨
      (m.made? request = some m.registry.makeName.1 ∧
        m.sought? request = some m.registry.makeName.1 ∧
        (m.serve request).registry.nameCount = m.registry.makeName.2.nameCount) := by
  cases request with
  | openSession asked command height width =>
    change (_ ∧ (m.openSized asked command height width).2.registry.nameCount = _) ∨
      (_ ∧ _ ∧ (m.openSized asked command height width).2.registry.nameCount = _)
    cases halive : m.registry.alive with
    | false =>
      rw [openSized_of_stopped halive]
      exact .inl ⟨by simp [made?, halive], rfl⟩
    | true =>
      rw [nameCount_openSized halive, Registry.chosenCount]
      cases hasked : asked.filter (!·.isEmpty) with
      | some chosen => exact .inl ⟨by simp [made?, hasked], rfl⟩
      | none =>
        exact .inr ⟨by simp [made?, halive, hasked],
          by simp [sought?, Registry.chosenName, hasked], rfl⟩
  | _ => exact .inl ⟨rfl, nameCount_of_tends fun _ => m.tends_serve nofun⟩

/-- **The name that is made up for a session** is the one it is granted under. -/
theorem openSized_made {asked command : Option String} {height width : UInt16}
    {name given cookie : String}
    (hmade : m.made? (.openSession asked command height width) = some name)
    (hok : (m.openSized asked command height width).1 = .ok (given, cookie)) : given = name := by
  rcases m.count_serve (.openSession asked command height width) with
    ⟨hnone, -⟩ | ⟨hsome, hsought, -⟩
  · rw [hnone] at hmade
    cases hmade
  · calc
      given = m.registry.chosenName asked := openSized_given hok
      _ = m.registry.makeName.1 := Option.some.inj hsought
      _ = name := Option.some.inj (hsome.symm.trans hmade)

/-- **The loop counts no name.** -/
theorem nameCount_loopStep (loop : Loop) (m : Multiplexer σ) :
    (m.loopStep loop).2.registry.nameCount = m.registry.nameCount := by
  unfold loopStep
  cases loop.phase with
  | stopped => rfl
  | waiting =>
    dsimp only
    split
    · rfl
    · exact m.removes_stop.nameCount
  | reading names =>
    cases names with
    | nil => rfl
    | cons name rest => exact nameCount_of_tends fun _ => m.tends_readSession name
  | finishing now =>
    obtain ⟨names, hremoves, -⟩ := m.removes_finishPass now loop.lastSweep
    exact hremoves.nameCount.trans (m.tends_flush now).nameCount

end Multiplexer

namespace Service

open Registry (numberedName maxCount Search)

variable [SessionHost σ]

/-! ### The names of a run -/

/-- The name of the session that a move asks for. -/
def sought? (s : Service σ) : Move σ → Option String
  | .request request => s.multiplexer.sought? request
  | _ => none

/-- The name that is made up in a move. -/
def made? (s : Service σ) : Move σ → Option String
  | .request request => s.multiplexer.made? request
  | _ => none

/-- What is read off the moves of a run, each in the state it meets. -/
def gather {α : Type} (read? : Service σ → Move σ → Option α) (s : Service σ) :
    List (Move σ) → List α
  | [] => []
  | move :: rest => (read? s move).toList ++ gather read? (s.step move) rest

/-- The names of the sessions that are asked for in a run, in order. -/
def soughtNames (s : Service σ) (moves : List (Move σ)) : List String :=
  s.gather sought? moves

/-- **The names that are made up in a run**, in order. -/
def madeNames (s : Service σ) (moves : List (Move σ)) : List String :=
  s.gather made? moves

/-- **A move counts a name exactly if it makes one up.** -/
theorem count_step (s : Service σ) (move : Move σ) :
    let r := s.multiplexer.registry
    let r' := (s.step move).multiplexer.registry
    (s.made? move = none ∧ r'.nameCount = r.nameCount) ∨
      (s.made? move = some r.makeName.1 ∧ s.sought? move = some r.makeName.1 ∧
        r'.nameCount = r.makeName.2.nameCount) := by
  cases move with
  | request request => exact s.multiplexer.count_serve request
  | loop => exact .inl ⟨rfl, s.multiplexer.nameCount_loopStep s.loop⟩
  | elsewhere change => exact .inl ⟨rfl, rfl⟩

/-- **The numbers of the names that are made up go up**, from the count at the beginning of the run
to that at its end. -/
theorem exists_numbers (s : Service σ) (moves : List (Move σ)) :
    ∃ numbers : List Nat, s.madeNames moves = numbers.map numberedName ∧
      numbers.Pairwise (· < ·) ∧
      (∀ n ∈ numbers, s.multiplexer.registry.nameCount < n ∧
        n ≤ (s.run moves).multiplexer.registry.nameCount) ∧
      s.multiplexer.registry.nameCount ≤ (s.run moves).multiplexer.registry.nameCount := by
  induction moves generalizing s with
  | nil => exact ⟨[], rfl, .nil, by simp, le_rfl⟩
  | cons move rest ih =>
    obtain ⟨numbers, hmade, hsorted, hrange, hcount⟩ := ih (s.step move)
    have hnames : s.madeNames (move :: rest) =
        (s.made? move).toList ++ (s.step move).madeNames rest := rfl
    rw [hnames, hmade]
    rcases s.count_step move with ⟨hnone, hsame⟩ | ⟨hsome, -, hnext⟩
    · rw [hsame] at hrange hcount
      rw [hnone]
      exact ⟨numbers, rfl, hsorted, hrange, hcount⟩
    · -- the new number comes first, and all others are greater
      have hlt := s.multiplexer.registry.isNext_makeName.lt
      rw [hnext] at hrange hcount
      rw [hsome]
      refine ⟨s.multiplexer.registry.makeName.2.nameCount :: numbers, rfl, ?_, ?_, ?_⟩
      · exact List.pairwise_cons.mpr ⟨fun n hn => (hrange n hn).1, hsorted⟩
      · intro n hn
        rcases List.mem_cons.mp hn with rfl | hn
        · exact ⟨hlt, hcount⟩
        · exact ⟨hlt.trans (hrange n hn).1, (hrange n hn).2⟩
      · exact hlt.le.trans hcount

/-- **No name is made up twice**, and the next one is another again. -/
theorem nodup_madeNames (s : Service σ) (moves : List (Move σ)) :
    (s.madeNames moves ++ [(s.run moves).multiplexer.registry.makeName.1]).Nodup := by
  obtain ⟨numbers, hmade, hsorted, hrange, -⟩ := s.exists_numbers moves
  set r := (s.run moves).multiplexer.registry
  have hnext : (numbers ++ [r.makeName.2.nameCount]).Pairwise (· < ·) := by
    rw [List.pairwise_append]
    refine ⟨hsorted, List.pairwise_singleton _ _, fun n hn next hnext => ?_⟩
    obtain rfl := List.mem_singleton.mp hnext
    exact (hrange n hn).2.trans_lt r.isNext_makeName.lt
  have hdistinct : (numbers ++ [r.makeName.2.nameCount]).Nodup := hnext.imp Nat.ne_of_lt
  have hnames := List.Nodup.map Registry.numberedName_injective hdistinct
  rw [List.map_append, ← hmade] at hnames
  exact hnames

/-! ### The count of names -/

/-- A session that is live behind a move was so before, or it was asked for. -/
theorem Sound.isLive_step {s : Service σ} (h : s.Sound) (move : Move σ) {name : String}
    (hlive : (s.step move).multiplexer.registry.isLive name = true) :
    s.multiplexer.registry.isLive name = true ∨ s.sought? move = some name := by
  rw [Registry.isLive_eq_isSome_child?] at hlive ⊢
  obtain ⟨child, hchild⟩ := Option.isSome_iff_exists.mp hlive
  rcases h.child?_opened move hchild with hbefore | ⟨hopening, -⟩
  · exact .inl (Option.isSome_of_eq_some hbefore)
  · right
    cases move with
    | request request => exact Multiplexer.sought?_of_opening? hopening
    | _ => cases hopening

/-- **Names that cover the sessions**: those of all that are live, and those of all numbers that
were counted. -/
structure Covers (names : List String) (s : Service σ) : Prop extends s.Sound where
  live : ∀ name, s.multiplexer.registry.isLive name = true → name ∈ names
  counted : ∀ n, 0 < n → n ≤ s.multiplexer.registry.nameCount → numberedName n ∈ names

namespace Covers

variable {s : Service σ} {names : List String}

omit [SessionHost σ] in
theorem start (config : SessionConfig) (host : σ) (lastSweep : Nat) :
    Covers [] (start config host lastSweep) where
  toSound := sound_start config host lastSweep
  live := fun _ h => by cases h
  counted := fun n hpos hn => absurd hpos (Nat.not_lt.mpr hn)

omit [SessionHost σ] in
/-- The numbers up to the next are covered with the next name: those between are taken. -/
theorem next (h : Covers names s) {n : Nat} (hpos : 0 < n)
    (hn : n ≤ s.multiplexer.registry.makeName.2.nameCount) :
    numberedName n ∈ names ++ [s.multiplexer.registry.makeName.1] := by
  rw [List.mem_append]
  rcases Nat.lt_or_ge s.multiplexer.registry.nameCount n with hbehind | hcounted
  · rcases Nat.eq_or_lt_of_le hn with rfl | hbefore
    · exact .inr (List.mem_singleton_self _)
    · have htaken := s.multiplexer.registry.isNext_makeName.passed n hbehind hbefore
      exact .inl (h.live _ htaken)
  · exact .inl (h.counted n hpos hcounted)

theorem step (h : Covers names s) (move : Move σ) :
    Covers (names ++ (s.sought? move).toList) (s.step move) where
  toSound := h.toSound.step move
  live := by
    intro name hlive
    rw [List.mem_append, Option.mem_toList]
    exact (h.isLive_step move hlive).imp (h.live name) id
  counted := by
    intro n hpos hn
    rcases s.count_step move with ⟨-, hsame⟩ | ⟨-, hsought, hnext⟩
    · rw [hsame] at hn
      exact List.mem_append_left _ (h.counted n hpos hn)
    · rw [hnext] at hn
      rw [hsought]
      exact h.next hpos hn

theorem run (h : Covers names s) (moves : List (Move σ)) :
    Covers (names ++ s.soughtNames moves) (s.run moves) := by
  induction moves generalizing s names with
  | nil =>
    rw [soughtNames, gather, List.append_nil]
    exact h
  | cons move rest ih =>
    have hrest := ih (h.step move)
    rwa [List.append_assoc] at hrest

omit [SessionHost σ] in
/-- **The next number** is at most one more than the names. -/
theorem nameCount_makeName_le (h : Covers names s) :
    s.multiplexer.registry.makeName.2.nameCount ≤ names.length + 1 := by
  have hnames := Registry.le_length_of_numbered 0 fun n hpos hn =>
    h.next hpos (hn.trans_eq (Nat.zero_add _))
  rwa [List.length_append, List.length_singleton] at hnames

end Covers

/-- **Names that are made up are new.** In any registry, whatever names its sessions have, the
search for a name ends at one number unless that is beyond the greatest count. It is at most one
more than the count and the sessions together, it is what is counted then, and no live session has
its name. Whatever the owner asks for, whatever the loop does and whatever comes of it at the host:

* a move counts a name exactly if it makes one up, also if no session can be opened under it, and
  a session that is granted then has this name;
* the names that were made up are all different, and the next one is another again, also if the
  sessions have been removed since;
* the number of the next name is at most one more than the sessions that were asked for. -/
theorem made_names_run (config : SessionConfig) (host : σ) (lastSweep : Nat)
    (moves : List (Move σ)) :
    let s := (start config host lastSweep).run moves
    let made := (start config host lastSweep).madeNames moves
    let sought := (start config host lastSweep).soughtNames moves
    (∀ r : Registry, ∃ n,
      (∀ k, Search r.isLive r.nameCount k ↔ k = n ∧ n ≤ maxCount) ∧
      n ≤ r.nameCount + (r.sessions.length + 1) ∧
      r.makeName = (numberedName n, { r with nameCount := n }) ∧
      r.isLive (numberedName n) = false) ∧
    (∀ move, let r := s.multiplexer.registry
      let r' := (s.step move).multiplexer.registry
      (s.made? move = none ∧ r'.nameCount = r.nameCount) ∨
        (s.made? move = some r.makeName.1 ∧ r'.nameCount = r.makeName.2.nameCount)) ∧
    (∀ asked command height width name given cookie,
      s.made? (.request (.openSession asked command height width)) = some name →
      (s.multiplexer.openSized asked command height width).1 = .ok (given, cookie) →
      given = name) ∧
    (made ++ [s.multiplexer.registry.makeName.1]).Nodup ∧
    s.multiplexer.registry.makeName.2.nameCount ≤ sought.length + 1 := by
  intro s made sought
  refine ⟨fun r => ?_, fun move => ?_, ?_, nodup_madeNames _ moves, ?_⟩
  · refine ⟨r.makeName.2.nameCount, fun k => ?_, r.nameCount_makeName_le, rfl,
      r.isNext_makeName.free⟩
    rw [r.search_makeName_iff]
    exact and_congr_right fun hk => by rw [hk]
  · rcases s.count_step move with hnone | ⟨hmade, -, hcount⟩
    · exact .inl hnone
    · exact .inr ⟨hmade, hcount⟩
  · exact fun _ _ _ _ _ _ _ hmade hok => Multiplexer.openSized_made hmade hok
  · exact ((Covers.start config host lastSweep).run moves).nameCount_makeName_le

/-- The second name is taken by a session that was asked for under it, and no session could be
opened under the third. The session with the first has been removed, but its name is not made up
again. -/
theorem made_names_run_reaped :
    let host : Script := { spawns := [none, none, some "no"] }
    let opens (name : Option String) : Move Script := .request (.openSession name none 1 1)
    let moves : List (Move Script) :=
      [opens (some "tty2"), opens none, opens none, .request (.kill "tty1"), .loop, .loop, .loop,
        .loop, .loop]
    let s := (start {} host 0).run moves
    ((start {} host 0).madeNames moves = ["tty1", "tty3"] ∧
      s.multiplexer.registry.names = ["tty2"] ∧ s.made? (opens none) = some "tty4" ∧
      (s.multiplexer.openSized none none 1 1).1 = .ok ("tty4", "")) ∧
    Search s.multiplexer.registry.isLive s.multiplexer.registry.nameCount 4 ∧
    (s.step (opens none)).multiplexer.registry.nameCount = 4 ∧
    (∀ given cookie, (s.multiplexer.openSized none none 1 1).1 = .ok (given, cookie) →
      given = "tty4") ∧
    ((start {} host 0).madeNames moves ++ [s.multiplexer.registry.makeName.1]).Nodup ∧
    s.multiplexer.registry.makeName.2.nameCount ≤
      ((start {} host 0).soughtNames moves).length + 1 := by
  intro host opens moves s
  have hrun : ((start {} host 0).madeNames moves = ["tty1", "tty3"] ∧
      s.multiplexer.registry.names = ["tty2"] ∧ s.made? (opens none) = some "tty4" ∧
      (s.multiplexer.openSized none none 1 1).1 = .ok ("tty4", "")) ∧
      s.multiplexer.registry.makeName.2.nameCount = 4 := by
    decide +kernel
  obtain ⟨hasked, hcount⟩ := hrun
  have hall := made_names_run {} host 0 moves
  -- the run has been evaluated, and is not to be again
  rw [show (start {} host 0).run moves = s from rfl] at hall
  clear_value s
  obtain ⟨hsearch, hcounts, hgiven, hdistinct, hlength⟩ := hall
  obtain ⟨n, hends, -, hmakes, -⟩ := hsearch s.multiplexer.registry
  have hn : n = 4 := by rwa [hmakes] at hcount
  subst hn
  have hcounted : (s.step (opens none)).multiplexer.registry.nameCount = 4 := by
    rcases hcounts (opens none) with ⟨hnone, -⟩ | ⟨-, hnext⟩
    · rw [hasked.2.2.1] at hnone
      cases hnone
    · exact hnext.trans hcount
  exact ⟨hasked, (hends 4).mpr ⟨rfl, by decide⟩, hcounted,
    fun given cookie => hgiven none none 1 1 "tty4" given cookie hasked.2.2.1, hdistinct, hlength⟩

end Service

end GlassTty
