/-!
# Character styles

A character has a colour of its own, a background colour and may be bold
(`GlassTty.Style`). The seven bits of a style fit one byte: the colour in bits 0 to 2, bold in bit 3
and the background in bits 4 to 6 (`GlassTty.Style.bits`).

A viewer is told less: whether the text is bold, and whether it has a background at all
(`GlassTty.Tags`, `GlassTty.Style.tags`).
-/

namespace GlassTty

/-- The style of a character. Background zero is the default background. -/
structure Style where
  fg : Fin 8
  bold : Bool
  bg : Fin 8
  deriving DecidableEq, Repr, Inhabited

/-- What a viewer is told of a style. -/
structure Tags where
  bold : Bool := false
  inverse : Bool := false
  deriving DecidableEq, Repr, Inhabited

namespace Tags

/-- No tag at all. -/
def plain : Tags := {}

/-- The names of the tags that are set, in the order they are told. -/
def names (t : Tags) : List String :=
  (if t.bold then ["bold"] else []) ++ (if t.inverse then ["inverse"] else [])

end Tags

namespace Style

/-- The style of freshly reset text: white on the default background. -/
def normal : Style := ⟨7, false, 0⟩

/-- Black on white. -/
def inverse : Style := ⟨0, false, 7⟩

/-- The style of a cell that was never written. -/
def none : Style := ⟨0, false, 0⟩

/-- The style with the given bits; higher bits are ignored. -/
def ofBits (n : Nat) : Style :=
  ⟨Fin.ofNat 8 n, n / 8 % 2 = 1, Fin.ofNat 8 (n / 16)⟩

/-- The bits of a style. -/
def bits (s : Style) : Nat :=
  s.fg.val + (if s.bold then 8 else 0) + 16 * s.bg.val

/-- The style with another colour, its three low bits counting. -/
def withFg (s : Style) (color : Nat) : Style :=
  { s with fg := Fin.ofNat 8 color }

/-- The style with another background, its three low bits counting. -/
def withBg (s : Style) (color : Nat) : Style :=
  { s with bg := Fin.ofNat 8 color }

/-- The style made bold. -/
def withBold (s : Style) : Style :=
  { s with bold := true }

/-- What a viewer is told of a style: any background but the default one counts as inverse. -/
def tags (s : Style) : Tags :=
  ⟨s.bold, s.bg ≠ 0⟩

end Style

end GlassTty
