import GlassTty.Screen.Screen

/-!
# The size of a screen

A screen of a given size has so many rows, each with so many cells and one place for a mark
(`GlassTty.Screen.HasSize`). Every change that a terminal makes to a screen keeps its size
(`GlassTty.Screen.KeepsSize`), whatever rows and columns it is asked for.
-/

namespace GlassTty.Screen

/-- **The screen is `width` cells wide and `height` rows high.** -/
structure HasSize (s : Screen) (width height : Nat) : Prop where
  /-- As many rows, each with its place for a mark. -/
  rows : s.rows.size = height
  /-- Each of them with as many cells. -/
  cells : ∀ row ∈ s.rows, row.cells.size = width

/-- All rows being of one width, the size is known from two numbers. -/
theorem hasSize_iff {s : Screen} {width height : Nat} :
    s.HasSize width height ↔ s.width = width ∧ s.height = height := by
  constructor
  · intro h
    have hpos := s.rows_pos
    have hmem : s.rows[0] ∈ s.rows := Array.getElem_mem hpos
    exact ⟨(s.cells_size _ hmem).symm.trans (h.cells _ hmem), h.rows⟩
  · rintro ⟨rfl, rfl⟩
    exact ⟨rfl, s.cells_size⟩

theorem hasSize_blank {width height : Nat} (hw : 1 ≤ width) (hh : 1 ≤ height) :
    (blank width height).HasSize width height := by
  refine hasSize_iff.mpr ⟨Nat.max_eq_left hw, ?_⟩
  simp only [Screen.height, blank, Array.size_replicate]
  omega

/-- A change that leaves screens as wide and as high as they were. -/
def KeepsSize (change : Screen → Screen) : Prop :=
  ∀ s, (change s).width = s.width ∧ (change s).height = s.height

theorem HasSize.change {s : Screen} {width height : Nat} (h : s.HasSize width height)
    {change : Screen → Screen} (hc : KeepsSize change) : (change s).HasSize width height := by
  obtain ⟨hw, hh⟩ := hasSize_iff.mp h
  exact hasSize_iff.mpr ⟨(hc s).1.trans hw, (hc s).2.trans hh⟩

namespace KeepsSize

theorem comp {f g : Screen → Screen} (hf : KeepsSize f) (hg : KeepsSize g) :
    KeepsSize fun s => f (g s) :=
  fun s => ⟨(hf (g s)).1.trans (hg s).1, (hf (g s)).2.trans (hg s).2⟩

theorem repeated {change : Screen → Screen} (h : KeepsSize change) (count : Nat) :
    KeepsSize (Nat.repeat change count) := by
  induction count with
  | zero => exact fun s => ⟨rfl, rfl⟩
  | succ count ih => exact h.comp ih

theorem foldl {α : Type} {change : Screen → α → Screen} (h : ∀ a, KeepsSize (change · a))
    (as : List α) : KeepsSize fun s => as.foldl change s := by
  induction as with
  | nil => exact fun s => ⟨rfl, rfl⟩
  | cons a as ih => exact ih.comp (h a)

theorem modifyRow (row : Nat) (change : Row → Row) (keeps) :
    KeepsSize (·.modifyRow row change keeps) :=
  fun s => ⟨rfl, height_modifyRow s row change keeps⟩

theorem setCell (row col : Nat) (cell : Cell) : KeepsSize (·.setCell row col cell) :=
  modifyRow row _ _

theorem setMark (row : Nat) (mark : Option PromptMark) : KeepsSize (·.setMark row mark) :=
  modifyRow row _ _

theorem eraseChars (row col count : Nat) : KeepsSize (·.eraseChars row col count) :=
  modifyRow row _ _

theorem insertBlank (row col : Nat) : KeepsSize (·.insertBlank row col) :=
  modifyRow row _ _

theorem deleteChars (row col count : Nat) : KeepsSize (·.deleteChars row col count) :=
  modifyRow row _ _

theorem eraseRange (row₁ col₁ row₂ col₂ : Nat) :
    KeepsSize (·.eraseRange row₁ col₁ row₂ col₂) :=
  fun _ => ⟨rfl, height_modifyRows _ _ (by intro i r; split <;> simp)⟩

theorem eraseLines (top bottom : Nat) : KeepsSize (·.eraseLines top bottom) :=
  fun s => ⟨rfl, height_rearrange s _⟩

theorem clear : KeepsSize Screen.clear :=
  fun s => ⟨rfl, height_rearrange s _⟩

theorem copyRows (src dst count : Nat) : KeepsSize (·.copyRows src dst count) :=
  fun s => ⟨rfl, height_rearrange s _⟩

theorem scrollUp (top bottom : Nat) : KeepsSize (·.scrollUp top bottom) := by
  intro s
  simp only [Screen.scrollUp]
  split
  · exact ⟨rfl, height_rearrange s _⟩
  · exact ⟨rfl, rfl⟩

theorem scrollDown (top bottom : Nat) : KeepsSize (·.scrollDown top bottom) := by
  intro s
  simp only [Screen.scrollDown]
  split
  · exact ⟨rfl, height_rearrange s _⟩
  · exact ⟨rfl, rfl⟩

end KeepsSize

end GlassTty.Screen
