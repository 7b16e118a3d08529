import Mathlib.Data.List.Basic
import SelectBuilder.Number.Shortest

/-! The characters that numbers are written with. -/
namespace SelectBuilder

/-- A letter, a digit, a dash or a point. -/
def Text.isBare (c : Char) : Bool :=
  c.isAlphanum || c == '-' || c == '.'

def Text.bare (s : List Char) : Bool :=
  s.all isBare

namespace Numeral

open Text (isBare bare)

theorem isBare_of_isDigit {c : Char} (h : c.isDigit = true) : isBare c = true := by
  simp [isBare, Char.isAlphanum, h]

theorem bare_toDigits (n : Nat) : bare (Nat.toDigits 10 n) = true :=
  List.all_eq_true.mpr fun _ hc =>
    isBare_of_isDigit (Nat.isDigit_of_mem_toDigits (by decide) (by decide) hc)

theorem bare_nat (n : Nat) : bare (toString n).toList = true := by
  rw [Nat.toString_eq_ofList_toDigits, String.toList_ofList]
  exact bare_toDigits n

theorem bare_int (n : Int) : bare (toString n).toList = true := by
  cases n with
  | ofNat n => exact bare_nat n
  | negSucc n =>
    have htext : (toString (Int.negSucc n)).toList = '-' :: (toString (n + 1)).toList :=
      String.toList_append
    rw [htext]
    exact bare_nat (n + 1)

end Numeral

open Text (isBare bare)

theorem Dyadic.bare_shortest (x : Dyadic) : bare x.shortest.digits = true := by
  unfold shortest
  split
  · rfl
  · refine List.all_eq_true.mpr fun c hc => ?_
    have hdigit := List.mem_reverse.mp ((List.dropWhile_sublist _).mem (List.mem_reverse.mp hc))
    exact List.all_eq_true.mp (Numeral.bare_toDigits _) c hdigit

theorem PointedDigits.bare_positional {d : PointedDigits} (h : bare d.digits = true) :
    bare (d.positional false) = true := by
  simp only [bare, List.all_eq_true] at h ⊢
  have hzeros : ∀ k, ∀ c ∈ List.replicate k '0', isBare c = true := by
    intro k c hc
    rw [List.eq_of_mem_replicate hc]
    rfl
  unfold positional
  split
  · simp only [List.forall_mem_cons, List.forall_mem_append]
    exact ⟨rfl, rfl, hzeros _, h⟩
  · dsimp only
    split
    · simp only [List.forall_mem_append]
      exact ⟨⟨h, hzeros _⟩, fun c hc => absurd hc List.not_mem_nil⟩
    · simp only [List.forall_mem_append, List.forall_mem_cons]
      exact ⟨fun c hc => h c (List.mem_of_mem_take hc), rfl,
        fun c hc => h c (List.mem_of_mem_drop hc)⟩

theorem FloatStyle.bare_literal (x : Float) : bare (literal.render x).toList = true := by
  have hsign : ∀ negative : Bool, bare (if negative then "-" else "").toList = true := by
    intro negative
    cases negative <;> rfl
  have happend : ∀ {s t : String}, bare s.toList = true → bare t.toList = true →
      bare (s ++ t).toList = true := by
    intro s t hs ht
    rw [String.toList_append, bare, List.all_append, Bool.and_eq_true]
    exact ⟨hs, ht⟩
  unfold render
  dsimp only
  split
  next => rfl
  next => exact happend (hsign _) rfl
  next d _ =>
    refine happend (hsign _) ?_
    rw [String.toList_ofList]
    exact PointedDigits.bare_positional d.bare_shortest

end SelectBuilder
