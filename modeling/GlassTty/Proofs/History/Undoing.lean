import GlassTty.Proofs.History.Ledger

/-!
# The last command can be undone

When a command is begun, lines come to its entry, and the entry is taken back, then nothing of it is
left: the lines are those of before, and so is the number of the newest entry. Reports may be made
in between. What they told of the entry cannot be called back, and what they told of the lines
before is told: the next report tells those of them that no report has
(`GlassTty.Scrollback.clearLast_undoes_entry`).

One thing is kept of an entry that was taken back: the directory in which the command was given, for
the command that comes in its place. If that one is taken back as well it is still the directory of
the first that counts, until a command comes which is not in the place of another. Which directories
those are is written down beside the run (`GlassTty.Scrollback.Retractions`).

The entry has to be there as a whole. If lines had to be evicted for it they do not come back, and
if it does not fit itself there is nothing of it to be taken back.
-/

namespace GlassTty.Scrollback

/-! ### An entry that is filled -/

namespace Operation

/-- The line that comes with an operation. -/
def line? : Operation → Option ScrollbackLine
  | .push line => some line
  | _ => none

/-- Whether the newest entry is left to be filled: a line comes to it, or lines are told. -/
def fills : Operation → Bool
  | .push _ => true
  | .takeUnreported => true
  | _ => false

end Operation

/-- The lines that come with operations. -/
def linesOf (operations : List Operation) : List ScrollbackLine :=
  operations.filterMap (·.line?)

theorem linesOf_cons (operation : Operation) (rest : List Operation) :
    linesOf (operation :: rest) = linesOf [operation] ++ linesOf rest :=
  List.filterMap_append (l := [operation])

/-- The capacity is settled for a run. -/
theorem capacity_run (s : Scrollback) (operations : List Operation) :
    (s.run operations).capacity = s.capacity :=
  run_induction (P := fun other => other.capacity = s.capacity)
    (fun other operation h => (other.capacity_operate operation).trans h) rfl operations

/-- **An entry is filled** from `s` on: the lines that came are at the end, and nothing else has
become of the lines or the newest entry. -/
structure Filled (s filled : Scrollback) (came : List ScrollbackLine) : Prop where
  lines : filled.lines = s.lines ++ came.map s.ofNewest
  entryIndex : filled.entryIndex = s.entryIndex
  clearedDirectory : filled.clearedDirectory = s.clearedDirectory

/-- A line that comes is put behind the others if there is room; a report changes no line. -/
theorem filled_operate {s : Scrollback} {operation : Operation} (hfills : operation.fills = true)
    (hroom : s.lines.length + (linesOf [operation]).length ≤ s.capacity) :
    Filled s (s.operate operation) (linesOf [operation]) := by
  cases operation with
  | push line =>
    refine ⟨lines_push_of_room hroom _, (s.frame_push _).2, ?_⟩
    change (s.push (s.ofNewest line)).clearedDirectory = _
    unfold push
    split <;> rfl
  | takeUnreported => exact ⟨(List.append_nil _).symm, rfl, rfl⟩
  | _ => cases hfills

/-- **As long as there is room** the lines that come to an entry are put behind the others. -/
theorem filled_run {s : Scrollback} {steps : List Operation}
    (hsteps : ∀ step ∈ steps, step.fills = true)
    (hroom : s.lines.length + (linesOf steps).length ≤ s.capacity) :
    Filled s (s.run steps) (linesOf steps) := by
  induction steps generalizing s with
  | nil => exact ⟨(List.append_nil _).symm, rfl, rfl⟩
  | cons step rest ih =>
    rw [linesOf_cons, List.length_append] at hroom
    have hstep : Filled s (s.operate step) (linesOf [step]) :=
      filled_operate (hsteps step List.mem_cons_self) (by omega)
    have hrest : Filled (s.operate step) ((s.operate step).run rest) (linesOf rest) := by
      refine ih (fun other hother => hsteps other (List.mem_cons_of_mem _ hother)) ?_
      rw [hstep.lines, s.capacity_operate, List.length_append, List.length_map]
      omega
    have hnewest : (s.operate step).ofNewest = s.ofNewest :=
      funext fun line => by rw [ofNewest, ofNewest, hstep.entryIndex]
    refine ⟨?_, hrest.entryIndex.trans hstep.entryIndex,
      hrest.clearedDirectory.trans hstep.clearedDirectory⟩
    calc ((s.operate step).run rest).lines
        = (s.lines ++ (linesOf [step]).map s.ofNewest) ++ (linesOf rest).map s.ofNewest := by
          rw [hrest.lines, hstep.lines, hnewest]
      _ = s.lines ++ (linesOf (step :: rest)).map s.ofNewest := by
          rw [List.append_assoc, ← List.map_append, ← linesOf_cons]

/-! ### The entry that is taken back -/

/-- **What is taken back** are the lines at the end that are of the newest entry. -/
theorem clearLast?_of_lines {s : Scrollback} {old rest : List ScrollbackLine}
    {first : ScrollbackLine} (hlines : s.lines = old ++ first :: rest) (hindex : s.entryIndex ≠ 0)
    (hnewest : ∀ line ∈ first :: rest, line.entryIndex = s.entryIndex)
    (hold : ∀ line ∈ old, line.entryIndex ≠ s.entryIndex) (guard : Option Nat) :
    if guard.all (· = s.entryIndex) then
      ∃ cleared, s.clearLast? guard = some cleared ∧ cleared.lines = old ∧
        cleared.entryIndex = s.entryIndex - 1 ∧
        cleared.clearedDirectory = some (s.clearedDirectory.getD first.directory)
    else s.clearLast? guard = none := by
  have hlast : s.lines.getLast?.any (·.entryIndex = s.entryIndex) = true := by
    rw [hlines, List.getLast?_append_cons, List.getLast?_eq_some_getLast (List.cons_ne_nil _ _)]
    simpa using hnewest _ (List.getLast_mem (List.cons_ne_nil first rest))
  have hkept : s.linesBeforeLast = old := by
    have hend : ∀ line ∈ (first :: rest).reverse, decide (line.entryIndex = s.entryIndex) = true :=
      fun line hline => decide_eq_true (hnewest line (List.mem_reverse.mp hline))
    rw [linesBeforeLast, hlines, List.reverse_append, List.dropWhile_append_of_pos hend]
    exact List.rdropWhile_eq_self_iff.mpr fun hne => by
      simpa using hold _ (List.getLast_mem hne)
  have hfirst : s.lines[s.linesBeforeLast.length]? = some first := by
    rw [hkept, hlines, List.getElem?_append_right le_rfl, Nat.sub_self]
    rfl
  split
  · next hguard =>
    rw [clearLast?, if_pos (by simp [mayClearLast, hindex, hlast, hguard])]
    refine ⟨_, rfl, hkept, rfl, ?_⟩
    dsimp only
    rw [hfirst]
    cases s.clearedDirectory <;> rfl
  · next hguard =>
    rw [clearLast?, if_neg (by simp [mayClearLast, hguard])]

/-- A guard lets an entry be taken back if there is none, or it names the entry. -/
theorem mem_guards_iff {guard : Option Nat} {index : Nat} :
    guard ∈ [none, some index] ↔ guard.all (· = index) = true := by
  cases guard <;> simp

/-- **Taking an entry back undoes it**, whatever has come to it, as long as all found room. -/
theorem Filled.clearLast? {s filled : Scrollback} {first : ScrollbackLine}
    {rest : List ScrollbackLine} (h : Filled s.beginEntry filled (first :: rest))
    (horder : s.InOrder) (guard : Option Nat) :
    if guard ∈ [none, some s.beginEntry.entryIndex] then
      ∃ cleared, filled.clearLast? guard = some cleared ∧ cleared.lines = s.lines ∧
        cleared.entryIndex = s.entryIndex ∧
        cleared.clearedDirectory = some (s.beginEntry.clearedDirectory.getD first.directory)
    else filled.clearLast? guard = none := by
  have hindex : filled.entryIndex = s.entryIndex + 1 := h.entryIndex
  have hnewest : ∀ line ∈ (first :: rest).map s.beginEntry.ofNewest,
      line.entryIndex = filled.entryIndex := by
    intro line hline
    obtain ⟨came, -, rfl⟩ := List.mem_map.mp hline
    exact h.entryIndex.symm
  have hold : ∀ line ∈ s.lines, line.entryIndex ≠ filled.entryIndex := by
    intro line hline
    have hle := horder.le_newest line hline
    omega
  have hclear := clearLast?_of_lines h.lines (by omega) hnewest hold guard
  rw [h.entryIndex, h.clearedDirectory] at hclear
  simp only [mem_guards_iff]
  exact hclear

/-! ### The directory that is kept -/

/-- **The directories of the entries that were taken back**, as far as they count: of those since
the last command that did not come in the place of such an entry. -/
structure Retractions where
  /-- Whether the newest entry was taken back and none has come in its place. -/
  pending : Bool := false
  /-- In the order in which they were taken back. -/
  directories : List String := []

namespace Retractions

/-- What is written down after an operation on the scrollback `s`. The directory of an entry is that
of its first line. -/
def after (h : Retractions) (s : Scrollback) : Operation → Retractions
  | .beginEntry => { directories := if h.pending then h.directories else [] }
  | .clearLast guard =>
    match s.clearLast? guard with
    | some cleared =>
      { pending := true
        directories :=
          h.directories ++ (s.lines[cleared.lines.length]?.map (·.directory)).toList }
    | none => h
  | .clear => {}
  | _ => h

/-- What is written down after a run that begins with the scrollback `s`. -/
def afterRun (h : Retractions) (s : Scrollback) : List Operation → Retractions
  | [] => h
  | operation :: rest => (h.after s operation).afterRun (s.operate operation) rest

/-- **The scrollback knows the first of them.** -/
structure KnownTo (h : Retractions) (s : Scrollback) : Prop where
  pending : s.clearedLast = h.pending
  first : s.clearedDirectory = h.directories.head?

theorem KnownTo.after {h : Retractions} {s : Scrollback} (hknown : h.KnownTo s)
    (operation : Operation) : (h.after s operation).KnownTo (s.operate operation) := by
  obtain ⟨hpending, hfirst⟩ := hknown
  cases operation with
  | beginEntry =>
    refine ⟨rfl, ?_⟩
    change (if s.clearedLast then s.clearedDirectory else none) =
      (if h.pending then h.directories else []).head?
    rw [hpending, hfirst]
    split <;> rfl
  | push line =>
    change h.KnownTo (s.push (s.ofNewest line))
    unfold push
    split <;> exact ⟨hpending, hfirst⟩
  | takeUnreported => exact ⟨hpending, hfirst⟩
  | rewind => exact ⟨hpending, hfirst⟩
  | clearLast guard =>
    by_cases hmay : s.mayClearLast guard
    · simp only [Retractions.after, operate, clearLast?, if_pos hmay, Option.getD_some]
      refine ⟨rfl, ?_⟩
      rw [hfirst]
      cases h.directories <;> cases s.lines[s.linesBeforeLast.length]? <;> rfl
    · simp only [Retractions.after, operate, clearLast?, if_neg hmay, Option.getD_none]
      exact ⟨hpending, hfirst⟩
  | clear => exact ⟨rfl, rfl⟩

theorem KnownTo.afterRun {h : Retractions} {s : Scrollback} (hknown : h.KnownTo s)
    (operations : List Operation) : (h.afterRun s operations).KnownTo (s.run operations) := by
  induction operations generalizing h s with
  | nil => exact hknown
  | cons operation rest ih => exact ih (hknown.after operation)

end Retractions

/-! ### What is told afterwards -/

namespace Ledger

/-- **As long as there is room** the lines that were there keep their places in the ledger. -/
theorem Tracks.kept_prefix_afterRun {l : Ledger} {s : Scrollback} (h : l.Tracks s)
    (hcounted : s.Counted) (horder : s.InOrder) {steps : List Operation}
    (hsteps : ∀ step ∈ steps, step.fills = true)
    (hroom : s.lines.length + (linesOf steps).length ≤ s.capacity) :
    l.kept <+: (l.afterRun s steps).kept := by
  induction steps generalizing l s with
  | nil => exact List.prefix_rfl
  | cons step rest ih =>
    rw [linesOf_cons, List.length_append] at hroom
    have hfills := hsteps step List.mem_cons_self
    have hstep : Filled s (s.operate step) (linesOf [step]) := filled_operate hfills (by omega)
    have hlength : (s.operate step).lines.length = s.lines.length + (linesOf [step]).length := by
      rw [hstep.lines, List.length_append, List.length_map]
    have hrest : (l.after s step).kept <+: (l.afterRun s (step :: rest)).kept := by
      refine ih (h.after hcounted horder step) (hcounted.operate step) (horder.operate step)
        (fun other hother => hsteps other (List.mem_cons_of_mem _ hother)) ?_
      rw [hlength, s.capacity_operate]
      omega
    refine List.IsPrefix.trans ?_ hrest
    cases step with
    | push line =>
      have hall : (l.after s (.push line)).kept = l.kept ++ [(l.came, s.ofNewest line)] := by
        change (l.kept ++ [_]).rtake (s.operate (.push line)).lines.length = _
        rw [hlength, ← h.length_kept, List.rtake, List.length_append]
        change List.drop (l.kept.length + 1 - (l.kept.length + 1)) _ = _
        rw [Nat.sub_self, List.drop_zero]
      exact hall ▸ List.prefix_append _ _
    | takeUnreported => exact List.prefix_rfl
    | _ => cases hfills

/-- With an entry that is taken back the lines at the end go, and nothing is told by that. -/
theorem Tracks.takeUnreported_clearLast {l : Ledger} {s cleared : Scrollback} (h : l.Tracks s)
    (hcounted : s.Counted) {guard : Option Nat} (hcleared : s.clearLast? guard = some cleared) :
    cleared.takeUnreported.1 =
      ((l.kept.take cleared.lines.length).filter (fun line => line.1 ∉ l.told)).map (·.2) := by
  have hoperate : s.operate (.clearLast guard) = cleared := by
    rw [operate, hcleared, Option.getD_some]
  obtain ⟨hlines, htell⟩ := (h.clearLast hcounted guard).toTell_eq
  rw [hoperate] at hlines htell
  rw [← hlines, htell, Ledger.after, hoperate]

end Ledger

/-- **Taking the last entry back undoes the last command.** Whatever was done with a new scrollback,
let an entry be begun and `first` and `rest` come to it, with reports in between, and let all lines
be there afterwards. Then the entry may be taken back, asked for by its number or as the newest one.
The lines and the newest entry are those of before; the directory that is kept is that of the entry,
or of the first one that it came in the place of; and the next report tells those lines of before
that were not told, neither before nor in between. Under another number nothing is taken back.

An entry that no line came to cannot be taken back, since it is by its lines that it is found.
Without capacity this is so of every entry. -/
theorem clearLast_undoes_entry (capacity : Nat) (operations steps : List Operation)
    (first : ScrollbackLine) (rest : List ScrollbackLine)
    (hsteps : ∀ step ∈ steps, step.fills = true) (hcame : linesOf steps = first :: rest) :
    let before := (empty capacity).run operations
    let entry := before.run (.beginEntry :: steps)
    let ledger := ({} : Ledger).afterRun (empty capacity) operations
    let later := ledger.afterRun before (.beginEntry :: steps)
    let earlier := ({} : Retractions).afterRun (empty capacity) operations
    entry.lines.length = before.lines.length + (linesOf steps).length →
      (∀ guard ∈ [none, some before.beginEntry.entryIndex],
        ∃ cleared, entry.clearLast? guard = some cleared ∧ cleared.lines = before.lines ∧
          cleared.entryIndex = before.entryIndex ∧
          cleared.clearedDirectory =
            some ((earlier.after before .beginEntry).directories.headD first.directory) ∧
          cleared.takeUnreported.1 =
            (ledger.kept.filter (fun line => line.1 ∉ later.told)).map (·.2)) ∧
      ∀ guard ∉ [none, some before.beginEntry.entryIndex],
        entry.clearLast? guard = none ∧ entry.operate (.clearLast guard) = entry := by
  intro before entry ledger later earlier hkept
  have horder : before.InOrder :=
    run_induction (fun _ operation h => h.operate operation) (inOrder_empty capacity) operations
  have hcounted : before.Counted :=
    run_induction (fun _ operation h => h.operate operation) ⟨le_rfl, le_rfl⟩ operations
  have htracks : ledger.Tracks before :=
    (Ledger.Tracks.empty capacity).afterRun ⟨le_rfl, le_rfl⟩ (inOrder_empty capacity) operations
  have hknown : (earlier.after before .beginEntry).KnownTo before.beginEntry :=
    (Retractions.KnownTo.afterRun ⟨rfl, rfl⟩ operations).after .beginEntry
  have hlater : later.Tracks entry :=
    htracks.afterRun hcounted horder (.beginEntry :: steps)
  have hentry : entry.Counted :=
    run_induction (fun _ operation h => h.operate operation) hcounted (.beginEntry :: steps)
  have hroom : before.beginEntry.lines.length + (linesOf steps).length ≤
      before.beginEntry.capacity := by
    have hfits : entry.lines.length ≤ entry.capacity :=
      (run_induction (fun _ operation h => h.operate operation) horder (.beginEntry :: steps)).fits
    rw [hkept, capacity_run] at hfits
    exact hfits
  have hfilled : Filled before.beginEntry entry (linesOf steps) := filled_run hsteps hroom
  have hprefix : ledger.kept <+: later.kept :=
    (htracks.after hcounted horder .beginEntry).kept_prefix_afterRun (hcounted.operate .beginEntry)
      (horder.operate .beginEntry) hsteps hroom
  rw [hcame] at hfilled
  constructor
  · intro guard hguard
    have hcleared := hfilled.clearLast? horder guard
    rw [if_pos hguard] at hcleared
    obtain ⟨cleared, heq, hback, hnumber, hdirectory⟩ := hcleared
    refine ⟨cleared, heq, hback, hnumber, ?_, ?_⟩
    · rw [hdirectory, hknown.first]
      cases (earlier.after before .beginEntry).directories <;> rfl
    · have hkeeps : later.kept.take cleared.lines.length = ledger.kept := by
        rw [hback, ← htracks.length_kept]
        exact (List.prefix_iff_eq_take.mp hprefix).symm
      rw [hlater.takeUnreported_clearLast hentry heq, hkeeps]
  · intro guard hguard
    have hrefused := hfilled.clearLast? horder guard
    rw [if_neg hguard] at hrefused
    exact ⟨hrefused, by rw [operate, hrefused, Option.getD_none]⟩

/-- A command that comes in the place of another is taken back too: the directory that is kept is
that of the first, and the line that was not told before is told now. -/
theorem clearLast_undoes_entry_twice :
    let line : String → String → ScrollbackLine := fun directory text =>
      { entryIndex := 0, promptOffset := 0, directory, markup := none, line := text }
    let operations : List Operation :=
      [.beginEntry, .push (line "/a" "a"), .takeUnreported, .push (line "" "b"),
        .beginEntry, .push (line "/c" "c"), .clearLast none]
    let steps : List Operation := [.push (line "/d" "d"), .push (line "" "e")]
    let before := (empty 4).run operations
    let entry := before.run (.beginEntry :: steps)
    (∀ step ∈ steps, step.fills = true) ∧ linesOf steps = [line "/d" "d", line "" "e"] ∧
      entry.lines.length = before.lines.length + (linesOf steps).length ∧
      (∃ cleared, entry.clearLast? (some 2) = some cleared ∧ cleared.lines = before.lines ∧
        cleared.entryIndex = 1 ∧ cleared.clearedDirectory = some "/c" ∧
        cleared.takeUnreported.1.map (·.line) = ["b"]) ∧
      entry.clearLast? (some 1) = none := by
  intro line operations steps before entry
  have hsteps : ∀ step ∈ steps, step.fills = true := by simp [steps, Operation.fills]
  have hkept : entry.lines.length = before.lines.length + (linesOf steps).length := by
    decide +kernel
  obtain ⟨hundone, hrefused⟩ := clearLast_undoes_entry 4 operations steps (line "/d" "d")
    [line "" "e"] hsteps rfl hkept
  obtain ⟨cleared, heq, hlines, hindex, hdirectory, htold⟩ := hundone (some 2) (by decide +kernel)
  refine ⟨hsteps, rfl, hkept, ⟨cleared, heq, hlines, hindex.trans (by decide +kernel),
    hdirectory.trans (by decide +kernel), ?_⟩, (hrefused (some 1) (by decide +kernel)).1⟩
  rw [htold]
  decide +kernel

end GlassTty.Scrollback
