import GlassTty.Session.Transfer
import Mathlib.Algebra.Ring.Nat
import Mathlib.Data.Set.Finite.Lattice

/-!
# A text is written in order and once

Whatever comes of the attempts to write a text, the bytes that were taken are the first ones of the
text, as many as the attempts took together, and the text is reported as written just if they are
all of it (`GlassTty.Transfer.run_in_order`). Two more statements there are about giving up.

* **Patience.** The queue is given up as full only after more attempts than
  `GlassTty.Transfer.maxRetries` have found it full with no byte taken in between.
* **An end.** Each byte that is taken may be preceded by that many attempts in vain, and more than
  that are not made. So a text takes a bounded number of attempts, those not counted that a signal
  interrupts, and writing ends on every sequence of outcomes in which signals come finitely often.

An error of the operating system is told as it came from the attempt or from the wait for room that
had it (`GlassTty.Transfer.Ends.failed`).

The invariant is `GlassTty.Transfer.After`, with what a transfer owes to the outcomes behind it. It
is kept by one outcome (`GlassTty.Transfer.After.step`) and tells the three ways in which a run can
end (`GlassTty.Transfer.Ends`).
-/

namespace GlassTty

namespace WriteOutcome

/-- How many bytes the attempt took. -/
def taken : WriteOutcome → Nat
  | .took count => count
  | _ => 0

/-- Whether the attempt found the queue full. -/
def isFull : WriteOutcome → Bool
  | .full _ => true
  | _ => false

end WriteOutcome

namespace Transfer

/-- The bytes taken, whatever came of the outcomes. -/
def Result.accepted : Result → Bytes
  | .done accepted => accepted
  | .stopped _ accepted => accepted
  | .unfinished t => t.accepted

/-- Whether no more outcomes are needed. -/
def Result.isOver : Result → Bool
  | .unfinished _ => false
  | _ => true

/-! ### One outcome -/

variable {t t' : Transfer} {outcome : WriteOutcome} {error : TransferError}

/-- **The outcomes after which writing goes on.** -/
theorem step_eq_ok (h : t.step outcome = .ok t') :
    (∃ count, outcome = .took (count + 1) ∧
      t' = { accepted := t.accepted ++ t.rest.take (count + 1), rest := t.rest.drop (count + 1) }) ∨
    (outcome = .interrupted ∧ t' = t) ∨
    (outcome = .full none ∧ t.retries < maxRetries ∧ t' = { t with retries := t.retries + 1 }) := by
  unfold step at h
  split at h
  · cases h
  · next count hne =>
    obtain ⟨count, rfl⟩ := Nat.exists_eq_succ_of_ne_zero fun hzero => hne hzero
    exact .inl ⟨count, rfl, (Except.ok.inj h).symm⟩
  · exact .inr (.inl ⟨rfl, (Except.ok.inj h).symm⟩)
  · split at h
    · cases h
    · next hroom =>
      split at h
      · exact .inr (.inr ⟨rfl, by omega, (Except.ok.inj h).symm⟩)
      · cases h
  · cases h

/-- A full queue is given up only when all retries are used up. -/
theorem step_eq_stayedFull (h : t.step outcome = .error .stayedFull) :
    outcome.isFull = true ∧ maxRetries ≤ t.retries := by
  unfold step at h
  split at h
  · cases h
  · cases h
  · cases h
  · split at h
    · next hover => exact ⟨rfl, by omega⟩
    · split at h <;> cases h
  · cases h

/-- An error of the operating system comes from the attempt or from the wait behind it. -/
theorem step_eq_failed {cause : SystemError} (h : t.step outcome = .error (.failed cause)) :
    outcome = .failed cause ∨ outcome = .full (some cause) := by
  unfold step at h
  split at h
  · cases h
  · cases h
  · cases h
  · split at h
    · cases h
    · split at h
      · cases h
      · cases h
        exact .inr rfl
  · cases h
    exact .inl rfl

/-! ### The next outcomes -/

theorem run_of_isDone (h : t.rest = []) (outcomes : List WriteOutcome) :
    t.run outcomes = .done t.accepted := by
  cases outcomes <;> simp [run, isDone, h]

theorem run_of_step_error (hleft : t.rest ≠ []) (h : t.step outcome = .error error)
    (outcomes : List WriteOutcome) : t.run (outcome :: outcomes) = .stopped error t.accepted := by
  rw [run, if_neg (by simpa [isDone] using hleft), h]

theorem run_of_step_ok (hleft : t.rest ≠ []) (h : t.step outcome = .ok t')
    (outcomes : List WriteOutcome) : t.run (outcome :: outcomes) = t'.run outcomes := by
  rw [run, if_neg (by simpa [isDone] using hleft), h]

theorem run_nil (hleft : t.rest ≠ []) : t.run [] = .unfinished t := by
  rw [run, if_neg (by simpa [isDone] using hleft)]

/-- Where a run is over, nothing more is looked at. -/
theorem run_append_of_isOver {outcomes : List WriteOutcome} (h : (t.run outcomes).isOver = true)
    (more : List WriteOutcome) : t.run (outcomes ++ more) = t.run outcomes := by
  induction outcomes generalizing t with
  | nil =>
    by_cases hleft : t.rest = []
    · rw [run_of_isDone hleft, run_of_isDone hleft]
    · rw [run_nil hleft] at h
      cases h
  | cons outcome outcomes ih =>
    by_cases hleft : t.rest = []
    · rw [run_of_isDone hleft, run_of_isDone hleft]
    · rw [List.cons_append]
      cases hstep : t.step outcome with
      | error error => rw [run_of_step_error hleft hstep, run_of_step_error hleft hstep]
      | ok t' =>
        rw [run_of_step_ok hleft hstep] at h ⊢
        rw [run_of_step_ok hleft hstep, ih h]

/-! ### What a transfer owes to the outcomes behind it -/

/-- **A transfer of `data` behind some outcomes.** -/
structure After (data : Bytes) (used : List WriteOutcome) (t : Transfer) : Prop where
  /-- More outcomes are looked at from here. -/
  goesOn : ∀ more, (start data).run (used ++ more) = t.run more
  whole : t.accepted ++ t.rest = data
  taken : t.accepted = data.take (used.map (·.taken)).sum
  /-- The retries are the attempts in vain since bytes were taken last. -/
  inVain : ∃ before block, used = before ++ block ∧ (∀ outcome ∈ block, outcome.taken = 0) ∧
    block.countP (·.isFull) = t.retries
  patient : t.retries ≤ maxRetries
  /-- Each byte taken may have cost all the retries, and the attempt that took it. -/
  bounded : used.countP (· ≠ .interrupted) + (maxRetries + 1) * t.rest.length ≤
    (maxRetries + 1) * data.length + t.retries

variable {data : Bytes} {used : List WriteOutcome}

theorem After.start (data : Bytes) : After data [] (start data) where
  goesOn _ := rfl
  whole := rfl
  taken := rfl
  inVain := ⟨[], [], rfl, by simp, rfl⟩
  patient := Nat.zero_le _
  bounded := by simp [Transfer.start]

/-- An outcome that nothing comes of but perhaps a retry. -/
theorem After.inVain_append (h : After data used t) (htaken : outcome.taken = 0) {retries : Nat}
    (hretries : retries = t.retries + if outcome.isFull then 1 else 0) :
    ∃ before block, used ++ [outcome] = before ++ block ∧
      (∀ outcome ∈ block, outcome.taken = 0) ∧ block.countP (·.isFull) = retries := by
  obtain ⟨before, block, rfl, hblock, hcount⟩ := h.inVain
  refine ⟨before, block ++ [outcome], by simp, ?_, ?_⟩
  · rw [List.forall_mem_append, List.forall_mem_singleton]
    exact ⟨hblock, htaken⟩
  · rw [List.countP_append, hcount, hretries, List.countP_singleton]

/-- While there are bytes to be taken, as many are as the attempts say. -/
theorem After.sum_taken (h : After data used t) (hopen : t.rest ≠ []) :
    (used.map (·.taken)).sum = t.accepted.length := by
  have hrest : 0 < t.rest.length := List.length_pos_iff.mpr hopen
  have hwhole := congrArg List.length h.whole
  have htaken := congrArg List.length h.taken
  rw [List.length_append] at hwhole
  rw [List.length_take] at htaken
  omega

/-- **One outcome more.** -/
theorem After.step (h : After data used t) (hleft : t.rest ≠ [])
    (hstep : t.step outcome = .ok t') : After data (used ++ [outcome]) t' := by
  have hgoesOn : ∀ more, (Transfer.start data).run (used ++ [outcome] ++ more) = t'.run more := by
    intro more
    rw [List.append_assoc, h.goesOn, List.singleton_append, run_of_step_ok hleft hstep]
  have htotal : ((used ++ [outcome]).map (·.taken)).sum =
      t.accepted.length + outcome.taken := by
    simp [h.sum_taken hleft]
  have hcount : (used ++ [outcome]).countP (· ≠ .interrupted) =
      used.countP (· ≠ .interrupted) + if outcome ≠ .interrupted then 1 else 0 := by
    simp [List.countP_append, List.countP_singleton]
  have hpatient := h.patient
  have hbounded := h.bounded
  rcases step_eq_ok hstep with ⟨count, rfl, rfl⟩ | ⟨rfl, rfl⟩ | ⟨rfl, hroom, rfl⟩
  · have hpos : 0 < t.rest.length := List.length_pos_iff.mpr hleft
    refine ⟨hgoesOn, ?_, ?_, ⟨used ++ [.took (count + 1)], [], by simp, by simp, rfl⟩,
      Nat.zero_le _, ?_⟩
    · rw [List.append_assoc, List.take_append_drop, h.whole]
    · rw [htotal, ← h.whole]
      exact (List.take_length_add_append _).symm
    · -- the retries start again, but a byte less is to be taken
      have hless : (t.rest.drop (count + 1)).length + 1 ≤ t.rest.length := by
        rw [List.length_drop]
        omega
      have hcost := Nat.mul_le_mul_left (maxRetries + 1) hless
      rw [hcount, if_pos (by simp)]
      dsimp only
      rw [Nat.mul_add] at hcost
      omega
  · refine ⟨hgoesOn, h.whole, ?_, h.inVain_append rfl rfl, hpatient, ?_⟩
    · rw [htotal, ← h.whole]
      exact List.take_left.symm
    · rwa [hcount, if_neg (by simp), Nat.add_zero]
  · refine ⟨hgoesOn, h.whole, ?_, h.inVain_append rfl rfl, hroom, ?_⟩
    · rw [htotal, ← h.whole]
      exact List.take_left.symm
    · rw [hcount, if_pos (by simp)]
      dsimp only
      omega

/-! ### How a run ends -/

/-- **The ways in which writing `data` with some outcomes can end**: all bytes are taken, an
attempt puts an end to it, or there are no more outcomes. -/
inductive Ends (data : Bytes) : List WriteOutcome → Result → Prop where
  | done {used behind : List WriteOutcome} {t : Transfer} (h : After data used t)
    (all : t.rest = []) : Ends data (used ++ behind) (.done t.accepted)
  | stopped {used behind : List WriteOutcome} {t : Transfer} {outcome : WriteOutcome}
    {error : TransferError} (h : After data used t) (left : t.rest ≠ [])
    (stops : t.step outcome = .error error) :
    Ends data (used ++ outcome :: behind) (.stopped error t.accepted)
  | unfinished {used : List WriteOutcome} {t : Transfer} (h : After data used t)
    (left : t.rest ≠ []) : Ends data used (.unfinished t)

theorem After.ends (h : After data used t) (outcomes : List WriteOutcome) :
    Ends data (used ++ outcomes) (t.run outcomes) := by
  induction outcomes generalizing used t with
  | nil =>
    by_cases hleft : t.rest = []
    · rw [run_of_isDone hleft]
      exact .done h hleft
    · rw [run_nil hleft, List.append_nil]
      exact .unfinished h hleft
  | cons outcome outcomes ih =>
    by_cases hleft : t.rest = []
    · rw [run_of_isDone hleft]
      exact .done h hleft
    · cases hstep : t.step outcome with
      | error error =>
        rw [run_of_step_error hleft hstep]
        exact .stopped h hleft hstep
      | ok t' =>
        rw [run_of_step_ok hleft hstep, ← List.singleton_append, ← List.append_assoc]
        exact ih (h.step hleft hstep)

theorem ends_run (data : Bytes) (outcomes : List WriteOutcome) :
    Ends data outcomes ((start data).run outcomes) :=
  (After.start data).ends outcomes

/-! ### What comes of it -/

/-- An attempt that puts an end to writing takes nothing. -/
theorem taken_of_step_error (h : t.step outcome = .error error) : outcome.taken = 0 := by
  cases outcome with
  | took count =>
    cases count with
    | zero => rfl
    | succ count => cases h
  | interrupted => rfl
  | full waitError => rfl
  | failed error => rfl

/-- **The bytes taken are the first ones**, as many as the attempts took together. -/
theorem Ends.accepted {outcomes : List WriteOutcome} {result : Result}
    (h : Ends data outcomes result) :
    ∃ used behind, outcomes = used ++ behind ∧ (start data).run used = result ∧
      result.accepted = data.take (used.map (·.taken)).sum := by
  cases h with
  | @done used behind t h all =>
    have hrun := h.goesOn []
    rw [List.append_nil, run_of_isDone all] at hrun
    exact ⟨used, behind, rfl, hrun, h.taken⟩
  | @stopped used behind t outcome error h left stops =>
    refine ⟨used ++ [outcome], behind, by simp, ?_, ?_⟩
    · rw [h.goesOn, run_of_step_error left stops]
    · rw [List.map_append, List.sum_append, List.map_singleton, List.sum_singleton,
        taken_of_step_error stops]
      exact h.taken
  | @unfinished _ t h left =>
    have hrun := h.goesOn []
    rw [List.append_nil, run_nil left] at hrun
    exact ⟨outcomes, [], by simp, hrun, h.taken⟩

/-- **The text is written just if all of it was taken.** -/
theorem Ends.eq_done_iff {outcomes : List WriteOutcome} {result : Result}
    (h : Ends data outcomes result) (accepted : Bytes) :
    result = .done accepted ↔ accepted = data ∧ result.accepted = data := by
  have hpart : ∀ {t : Transfer}, t.accepted ++ t.rest = data → t.rest ≠ [] →
      t.accepted ≠ data := by
    rintro t rfl hleft heq
    exact hleft (List.append_right_eq_self.mp heq.symm)
  cases h with
  | done h all =>
    have hwhole := h.whole
    rw [all, List.append_nil] at hwhole
    simp only [Result.accepted, hwhole, and_true, Result.done.injEq]
    exact eq_comm
  | stopped h left stops => simp [Result.accepted, hpart h.whole left]
  | unfinished h left => simp [Result.accepted, hpart h.whole left]

/-- **Patience**: the queue was found full once more than the retries allow, and no byte was taken
in between. -/
theorem Ends.stayedFull {outcomes : List WriteOutcome} {accepted : Bytes}
    (h : Ends data outcomes (.stopped .stayedFull accepted)) :
    ∃ before block behind, outcomes = before ++ block ++ behind ∧
      (start data).run (before ++ block) = .stopped .stayedFull accepted ∧
      (∀ outcome ∈ block, outcome.taken = 0) ∧ maxRetries < block.countP (·.isFull) := by
  cases h with
  | @stopped used behind t outcome _ h left stops =>
    obtain ⟨hfull, hspent⟩ := step_eq_stayedFull stops
    obtain ⟨before, block, hblock, htaken, hcount⟩ :=
      h.inVain_append (taken_of_step_error stops) rfl
    rw [hfull, if_pos rfl] at hcount
    refine ⟨before, block, behind, ?_, ?_, htaken, by omega⟩
    · rw [← hblock, List.append_assoc, List.singleton_append]
    · rw [← hblock, h.goesOn, run_of_step_error left stops]

/-- **Other errors** are those of the operating system, told as they came. -/
theorem Ends.failed {outcomes : List WriteOutcome} {cause : SystemError} {accepted : Bytes}
    (h : Ends data outcomes (.stopped (.failed cause) accepted)) :
    ∃ used outcome behind, outcomes = used ++ outcome :: behind ∧
      (outcome = .failed cause ∨ outcome = .full (some cause)) ∧
      (start data).run (used ++ [outcome]) = .stopped (.failed cause) accepted := by
  cases h with
  | @stopped used behind t outcome _ h left stops =>
    refine ⟨used, outcome, behind, rfl, step_eq_failed stops, ?_⟩
    rw [h.goesOn, run_of_step_error left stops]

/-- **An end**: so many attempts that no signal interrupts are enough. -/
theorem Ends.isOver {outcomes : List WriteOutcome} {result : Result}
    (h : Ends data outcomes result)
    (hmany : (maxRetries + 1) * data.length ≤ outcomes.countP (· ≠ .interrupted)) :
    result.isOver = true := by
  cases h with
  | done => rfl
  | stopped => rfl
  | @unfinished used t h left =>
    have hpos : 0 < t.rest.length := List.length_pos_iff.mpr left
    have hcost : maxRetries + 1 ≤ (maxRetries + 1) * t.rest.length := Nat.le_mul_of_pos_right _ hpos
    have hpatient := h.patient
    have hbounded := h.bounded
    omega

/-! ### Sequences of outcomes -/

/-- **Signals that come finitely often** leave as many other outcomes as one likes. -/
theorem exists_le_countP {outcomes : Nat → WriteOutcome}
    (h : {n | outcomes n = .interrupted}.Finite) (count : Nat) :
    ∃ n, count ≤ ((List.range n).map outcomes).countP (· ≠ .interrupted) := by
  have hstart : ∃ first, ∀ n ≥ first, outcomes n ≠ .interrupted := by
    obtain ⟨last, hlast⟩ := h.bddAbove
    exact ⟨last + 1, fun n hn heq => absurd (hlast heq) (by omega)⟩
  obtain ⟨first, hfirst⟩ := hstart
  refine ⟨first + count, ?_⟩
  have hbehind : ((List.range count).map fun i => outcomes (first + i)).countP
      (· ≠ .interrupted) = count := by
    rw [List.countP_eq_length.mpr, List.length_map, List.length_range]
    simp [hfirst]
  rw [List.range_add, List.map_append, List.countP_append, List.map_map]
  exact hbehind.ge.trans (Nat.le_add_left _ _)

/-- **A text is written in order and once.** For all outcomes, as far as they are looked at:

* the bytes taken are the first ones of the text, as many as the attempts took together;
* the text is reported as written just if all of it was taken;
* the queue is given up as full only after more attempts in vain than the retries allow, with no
  byte taken in between;
* as many attempts as it takes for all bytes with all retries are enough, not counting those that a
  signal interrupts.

So writing ends on every sequence of outcomes that has finitely many interruptions. -/
theorem run_in_order (data : Bytes) :
    (∀ outcomes, let result := (start data).run outcomes
      (∃ used behind, outcomes = used ++ behind ∧ (start data).run used = result ∧
        result.accepted = data.take (used.map (·.taken)).sum) ∧
      (∀ accepted, result = .done accepted ↔ accepted = data ∧ result.accepted = data) ∧
      (∀ accepted, result = .stopped .stayedFull accepted →
        ∃ before block behind, outcomes = before ++ block ++ behind ∧
          (start data).run (before ++ block) = result ∧
          (∀ outcome ∈ block, outcome.taken = 0) ∧ maxRetries < block.countP (·.isFull)) ∧
      ((maxRetries + 1) * data.length ≤ outcomes.countP (· ≠ .interrupted) →
        result.isOver = true)) ∧
    ∀ outcomes : Nat → WriteOutcome, {n | outcomes n = .interrupted}.Finite →
      ∃ result : Result, result.isOver = true ∧
        ∃ n, ∀ m ≥ n, (start data).run ((List.range m).map outcomes) = result := by
  refine ⟨fun outcomes => ?_, fun outcomes hfinite => ?_⟩
  · have hends := ends_run data outcomes
    refine ⟨hends.accepted, hends.eq_done_iff, fun accepted hstopped => ?_, hends.isOver⟩
    rw [hstopped] at hends ⊢
    exact hends.stayedFull
  · obtain ⟨n, hn⟩ := exists_le_countP hfinite ((maxRetries + 1) * data.length)
    have hover := (ends_run data ((List.range n).map outcomes)).isOver hn
    refine ⟨_, hover, n, fun m hm => ?_⟩
    obtain ⟨more, rfl⟩ := Nat.exists_eq_add_of_le hm
    rw [List.range_add, List.map_append]
    exact run_append_of_isOver hover _

/-- A queue that is emptied late. After ten attempts in vain two bytes are taken, and then it stays
full; where it takes a byte each time but for one signal, writing ends. -/
theorem run_in_order_slow :
    let data : Bytes := [0x61, 0x62, 0x63]
    let outcomes := List.replicate 10 (.full none) ++ [.took 2, .interrupted] ++
      List.replicate 12 (.full none)
    let result := (start data).run outcomes
    let bytewise := fun n => if n = 1 then .interrupted else .took 1
    result = .stopped .stayedFull [0x61, 0x62] ∧
      (∃ before block behind, outcomes = before ++ block ++ behind ∧
        (start data).run (before ++ block) = result ∧
        (∀ outcome ∈ block, outcome.taken = 0) ∧ maxRetries < block.countP (·.isFull)) ∧
      {n : Nat | bytewise n = .interrupted}.Finite ∧
      ∃ result : Result, result.isOver = true ∧
        ∃ n, ∀ m ≥ n, (start data).run ((List.range m).map bytewise) = result := by
  intro data outcomes result bytewise
  have hstopped : result = .stopped .stayedFull [0x61, 0x62] := by decide
  have hfinite : {n : Nat | bytewise n = .interrupted}.Finite := by
    refine (Set.finite_singleton 1).subset fun n hn => ?_
    by_contra hne
    simp [bytewise, show n ≠ 1 from hne] at hn
  obtain ⟨hfirst, hsequences⟩ := run_in_order data
  obtain ⟨-, -, hfull, -⟩ := hfirst outcomes
  exact ⟨hstopped, hfull _ hstopped, hfinite, hsequences bytewise hfinite⟩

end Transfer

end GlassTty
