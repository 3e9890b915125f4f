import GlassTty.Proofs.Escape.Feed
import Mathlib.Order.Lattice
import Mathlib.Tactic.SplitIfs

/-!
# Back to the text

A sequence may be broken off, be of no known kind or never end. Whatever it is, it takes only so
much of the text behind it: after `GlassTty.Parser.maxCommand` printable bytes the parser is between
sequences and prints what comes (`GlassTty.Parser.text_resumes`).

A bound on the length of a sequence is not enough for that, as sequences hand over to one another:
an escape inside an operating system command may begin another one, and controls behind an escape
go on with its sequence without an end. So each state is given the number of printable bytes that
it may still take (`GlassTty.Parser.patience`):

| state | printable bytes |
|---|---|
| between sequences | none, or the one that breaks a character off |
| after an intermediate byte | one |
| inside a control sequence, a command | until it is too long, and at least one |
| after an escape | one, and then a command that begins there |
| after an escape inside a command | one, and then a command that begins anew |

A printable byte takes one off (`GlassTty.Parser.patience_advance_lt`). Other bytes may put some on,
but never more than the bound (`GlassTty.Parser.patience_advance_le`).
-/

namespace GlassTty.Parser

/-! ### What each state may become -/

/-- **After an escape** a sequence of one of four kinds goes on, if it does; and a byte that is
printable never is an escape or a control. -/
theorem onEscape_cases (length : Nat) (byte : UInt8) :
    (onEscape length byte).2 = start ∨ (onEscape length byte).2 = intermediate ∨
      (onEscape length byte).2 = control { length } ∨ (onEscape length byte).2 = command length ∨
      (byte.toNat < 0x20 ∧
        ((onEscape length byte).2 = escape 1 ∨ (onEscape length byte).2 = escape length)) := by
  unfold onEscape
  split_ifs with hesc hcontrol
  · exact .inr (.inr (.inr (.inr ⟨hesc ▸ by decide, .inl rfl⟩)))
  · exact .inr (.inr (.inr (.inr ⟨hcontrol, .inr rfl⟩)))
  · split <;> simp

/-- **Inside a control sequence** each byte makes it longer, or ends it. -/
theorem onControl_cases (s : ControlSequence) (byte : UInt8) :
    (onControl s byte).2 = start ∨
      (∃ s', (onControl s byte).2 = control s' ∧ s'.length = s.length + 1 ∧
        s'.length ≤ maxSequence) ∨
      (byte = esc ∧ (onControl s byte).2 = escape 1) := by
  have hmark : ∀ (s : ControlSequence) c, (s.mark c).length = s.length := by
    intro s c
    unfold ControlSequence.mark
    split <;> rfl
  unfold onControl
  dsimp only
  split_ifs with hlong _ _ _ _ _ hesc
  · exact .inl rfl
  · exact .inr (.inl ⟨_, rfl, rfl, Nat.not_lt.mp hlong⟩)
  · exact .inr (.inl ⟨_, rfl, rfl, Nat.not_lt.mp hlong⟩)
  · exact .inr (.inl ⟨_, rfl, hmark _ _, (hmark _ _).trans_le (Nat.not_lt.mp hlong)⟩)
  · exact .inr (.inl ⟨_, rfl, rfl, Nat.not_lt.mp hlong⟩)
  · exact .inl rfl
  · exact .inr (.inr ⟨hesc, rfl⟩)
  · exact .inr (.inl ⟨_, rfl, rfl, Nat.not_lt.mp hlong⟩)
  · exact .inl rfl

/-- **Inside a command** each byte makes it longer, or ends it. -/
theorem onCommand_cases (length : Nat) (byte : UInt8) :
    (onCommand length byte).2 = start ∨
      (length ≤ maxCommand ∧ ((onCommand length byte).2 = command length ∨
        (byte = esc ∧ (onCommand length byte).2 = commandEscape length))) := by
  unfold onCommand
  split_ifs with hlong _ hesc
  · exact .inl rfl
  · exact .inl rfl
  · exact .inr ⟨Nat.not_lt.mp hlong, .inr ⟨hesc, rfl⟩⟩
  · exact .inr ⟨Nat.not_lt.mp hlong, .inl rfl⟩

/-- After an escape inside a command, the command ends, or the escape begins another sequence. -/
theorem onCommandEscape_cases (length : Nat) (byte : UInt8) :
    (onCommandEscape length byte).2 = start ∨
      (onCommandEscape length byte).2 = (onEscape 2 byte).2 := by
  unfold onCommandEscape
  split_ifs
  · exact .inl rfl
  · exact .inl rfl
  · exact .inl rfl
  · exact .inr rfl

/-! ### Printable bytes -/

/-- **A printable byte**: from the space to the tilde. -/
def IsPrintable (byte : UInt8) : Prop :=
  0x20 ≤ byte.toNat ∧ byte.toNat ≤ 0x7E

instance (byte : UInt8) : Decidable (IsPrintable byte) :=
  inferInstanceAs (Decidable (_ ∧ _))

theorem IsPrintable.ne_esc {byte : UInt8} (h : IsPrintable byte) : byte ≠ esc := by
  rintro rfl
  revert h
  decide

/-- Between sequences a printable byte is printed, also if it breaks a character off. -/
theorem advance_ground_of_printable {byte : UInt8} (h : IsPrintable byte)
    (decoder : Utf8.Decoder) :
    (ground decoder).advance byte = (some (.print (Char.ofNat byte.toNat)), start) := by
  obtain ⟨hlow, hhigh⟩ := h
  have hnat : (Char.ofNat byte.toNat).toNat = byte.toNat := Utf8.toNat_char (Or.inl (by omega))
  have hprint := @advance_start_of_lt (Char.ofNat byte.toNat) (by omega) (by omega)
  rw [hnat, UInt8.ofNat_toNat] at hprint
  -- what has come of a character is not looked at
  have hascii : ¬0x80 ≤ byte.toNat := by omega
  have hsame : (ground decoder).advance byte = start.advance byte := by
    simp only [start, advance, onGround, if_neg hascii]
  rw [hsame, hprint]

/-- So is all text of them. -/
theorem feed_start_of_printable {bytes : Bytes} (h : ∀ byte ∈ bytes, IsPrintable byte) :
    start.feed bytes = (bytes.map fun byte => .print (Char.ofNat byte.toNat), start) := by
  induction bytes with
  | nil => rfl
  | cons byte rest ih =>
    obtain ⟨hbyte, hrest⟩ := List.forall_mem_cons.mp h
    have hprint : start.advance byte = _ := advance_ground_of_printable hbyte {}
    rw [feed, hprint]
    dsimp only
    rw [ih hrest]
    rfl

/-! ### How much text a state may take -/

/-- **The number of printable bytes that a state may take** until the parser prints again. -/
def patience : Parser → Nat
  | .ground decoder => if decoder.isPending then 1 else 0
  | .escape length => 1 + max (maxCommand - length) 1
  | .intermediate => 1
  | .control s => max (maxSequence + 1 - s.length) 1
  | .command length => max (maxCommand + 1 - length) 1
  | .commandEscape _ => maxCommand

theorem patience_start : patience start = 0 := rfl

/-- A state that takes nothing is that between sequences. -/
theorem eq_start_of_patience {p : Parser} (h : patience p = 0) : p = start := by
  cases p with
  | ground decoder =>
    obtain ⟨pending⟩ := decoder
    cases pending with
    | nil => rfl
    | cons byte rest => cases h
  | intermediate => cases h
  | commandEscape => cases h
  | _ =>
    simp only [patience] at h
    omega

/-- Behind an escape a printable byte takes as much as it may. -/
theorem patience_onEscape {byte : UInt8} (h : IsPrintable byte) (length : Nat) :
    patience (onEscape length byte).2 ≤ max (maxCommand + 1 - length) 1 := by
  obtain ⟨hlow, -⟩ := h
  rcases onEscape_cases length byte with hnext | hnext | hnext | hnext | ⟨hcontrol, -⟩
  · rw [hnext, patience_start]
    omega
  · rw [hnext, patience]
    omega
  · rw [hnext, patience, maxSequence, maxCommand]
    dsimp only
    omega
  · rw [hnext, patience]
  · omega

/-- **A printable byte is taken**: the parser takes one less behind it. -/
theorem patience_advance_lt (p : Parser) {byte : UInt8} (h : IsPrintable byte) :
    patience (p.advance byte).2 ≤ patience p - 1 := by
  cases p with
  | ground decoder =>
    rw [advance_ground_of_printable h, patience_start]
    exact Nat.zero_le _
  | escape length =>
    have hnext := patience_onEscape h (length + 1)
    rw [advance, patience]
    omega
  | intermediate =>
    rw [advance, if_neg h.ne_esc, patience_start]
    exact Nat.zero_le _
  | control s =>
    rw [advance]
    rcases onControl_cases s byte with hnext | ⟨s', hnext, hlength, hfits⟩ | ⟨hesc, -⟩
    · rw [hnext, patience_start]
      exact Nat.zero_le _
    · rw [hnext, patience, patience]
      omega
    · exact absurd hesc h.ne_esc
  | command length =>
    rw [advance]
    rcases onCommand_cases (length + 1) byte with hnext | ⟨hfits, hnext | ⟨hesc, -⟩⟩
    · rw [hnext, patience_start]
      exact Nat.zero_le _
    · rw [hnext, patience, patience]
      omega
    · exact absurd hesc h.ne_esc
  | commandEscape length =>
    rw [advance, patience]
    rcases onCommandEscape_cases (length + 1) byte with hnext | hnext
    · rw [hnext, patience_start]
      exact Nat.zero_le _
    · have hescape := patience_onEscape h 2
      rw [hnext]
      rw [maxCommand] at hescape ⊢
      omega

/-- Printable bytes are taken, one after the other. -/
theorem patience_feed_le {bytes : Bytes} (h : ∀ byte ∈ bytes, IsPrintable byte) (p : Parser) :
    patience (p.feed bytes).2 ≤ patience p - bytes.length := by
  induction bytes generalizing p with
  | nil => exact Nat.le_refl _
  | cons byte rest ih =>
    obtain ⟨hbyte, hrest⟩ := List.forall_mem_cons.mp h
    have hstep := patience_advance_lt p hbyte
    have hmore := ih hrest (p.advance byte).2
    rw [feed, List.length_cons]
    dsimp only
    omega

/-! ### No state takes more than the longest command -/

theorem patience_ground_le (decoder : Utf8.Decoder) : patience (ground decoder) ≤ 1 := by
  rw [patience]
  split <;> omega

/-- **No byte makes the parser take more** than the longest command has bytes. -/
theorem patience_advance_le {p : Parser} (h : patience p ≤ maxCommand) (byte : UInt8) :
    patience (p.advance byte).2 ≤ maxCommand := by
  have hescape : patience (escape 1) ≤ maxCommand := by decide
  have hbegun : ∀ length, 2 ≤ length → patience (onEscape length byte).2 ≤ maxCommand := by
    intro length hlength
    rcases onEscape_cases length byte with hnext | hnext | hnext | hnext | ⟨-, hnext | hnext⟩
    all_goals rw [hnext]
    · exact Nat.zero_le _
    · decide
    · rw [patience, maxSequence, maxCommand]
      dsimp only
      omega
    · rw [patience, maxCommand]
      omega
    · exact hescape
    · rw [patience, maxCommand]
      omega
  cases p with
  | ground decoder =>
    have hground := fun decoder => (patience_ground_le decoder).trans (by decide : 1 ≤ maxCommand)
    rw [advance, onGround]
    split
    · exact hground _
    · split
      · exact hescape
      · split <;> exact hground {}
  | escape length =>
    rw [patience, maxCommand] at h
    exact hbegun (length + 1) (by omega)
  | intermediate =>
    rw [advance]
    split
    · exact hescape
    · exact Nat.zero_le _
  | control s =>
    rw [advance]
    rcases onControl_cases s byte with hnext | ⟨s', hnext, -, -⟩ | ⟨-, hnext⟩
    all_goals rw [hnext]
    · exact Nat.zero_le _
    · rw [patience, maxSequence, maxCommand]
      omega
    · exact hescape
  | command length =>
    rw [advance]
    rcases onCommand_cases (length + 1) byte with hnext | ⟨-, hnext | ⟨-, hnext⟩⟩
    all_goals rw [hnext]
    · exact Nat.zero_le _
    · rw [patience, maxCommand]
      omega
    · exact Nat.le_refl _
  | commandEscape length =>
    rw [advance]
    rcases onCommandEscape_cases (length + 1) byte with hnext | hnext
    all_goals rw [hnext]
    · exact Nat.zero_le _
    · exact hbegun 2 (Nat.le_refl 2)

/-- So it is for every state that the parser comes to. -/
theorem patience_feed_start_le (bytes : Bytes) : patience (start.feed bytes).2 ≤ maxCommand := by
  have hfeed : ∀ p, patience p ≤ maxCommand → patience (p.feed bytes).2 ≤ maxCommand := by
    induction bytes with
    | nil => exact fun p h => h
    | cons byte rest ih => exact fun p h => ih _ (patience_advance_le h byte)
  exact hfeed start (Nat.zero_le _)

/-- **The text goes on.** Let the parser have read any bytes. Behind as many printable bytes as the
longest command has, or more, it is between sequences, and from then on each printable byte is
printed, and nothing else is done. -/
theorem text_resumes (before taken : Bytes) (htaken : ∀ byte ∈ taken, IsPrintable byte)
    (hlength : maxCommand ≤ taken.length) :
    let p := ((start.feed before).2.feed taken).2
    p.isGround = true ∧ ∀ rest : Bytes, (∀ byte ∈ rest, IsPrintable byte) →
      p.feed rest = (rest.map fun byte => .print (Char.ofNat byte.toNat), start) := by
  intro p
  have hbound := patience_feed_start_le before
  have hleft := patience_feed_le htaken (start.feed before).2
  have hnothing : patience ((start.feed before).2.feed taken).2 = 0 := by omega
  have hstart : p = start := eq_start_of_patience hnothing
  rw [hstart]
  exact ⟨rfl, fun rest hrest => feed_start_of_printable hrest⟩

/-- A command that begins behind an escape and does not end takes all that it may: with one byte
less the parser would still be inside. -/
theorem text_resumes_behind_command :
    let taken : Bytes := 0x5D :: List.replicate 1023 0x78
    let p := ((start.feed [esc]).2.feed taken).2
    ((∀ byte ∈ taken, IsPrintable byte) ∧ maxCommand ≤ taken.length) ∧
      ((start.feed [esc]).2.feed (taken.take 1023)).2.isGround = false ∧
      p.isGround = true ∧ p.feed (utf8Bytes "ok") = ([.print 'o', .print 'k'], start) := by
  intro taken p
  have htaken : ∀ byte ∈ taken, IsPrintable byte := by
    refine List.forall_mem_cons.mpr ⟨by decide, fun byte h => ?_⟩
    rw [List.eq_of_mem_replicate h]
    decide
  have hlength : maxCommand ≤ taken.length := by
    rw [List.length_cons, List.length_replicate]
    decide
  have hinside : ((start.feed [esc]).2.feed (taken.take 1023)).2.isGround = false := by
    decide +kernel
  obtain ⟨hground, hprints⟩ := text_resumes [esc] taken htaken hlength
  exact ⟨⟨htaken, hlength⟩, hinside, hground, hprints (utf8Bytes "ok") (by decide +kernel)⟩

end GlassTty.Parser
