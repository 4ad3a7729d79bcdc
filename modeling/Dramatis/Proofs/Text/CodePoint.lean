/-!
# Dramatis.Proofs.Text.CodePoint

What holds of the characters below some code point is decided one code point at a time.
-/

namespace Dramatis.Text

/-- What holds of all code points below a bound holds of all characters below it. -/
@[elab_as_elim] theorem forall_char_lt {bound : Nat} {motive : Char → Prop} (c : Char)
    (hc : c.toNat < bound) (h : ∀ n < bound, motive (Char.ofNat n)) : motive c := by
  have hchar := h c.toNat hc
  rwa [Char.ofNat_toNat] at hchar

end Dramatis.Text
