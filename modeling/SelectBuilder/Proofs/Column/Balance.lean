import SelectBuilder.Proofs.Column.Forms
import SelectBuilder.Proofs.Text.Balance

/-! Literals leave no parenthesis or quote open behind them, whatever their value. -/
namespace SelectBuilder

open Text (Balanced)

theorem Text.plain_of_bare {s : List Char} (h : bare s = true) : plain s = true := by
  refine List.all_eq_true.mpr fun c hc => isPlain_iff.mpr ?_
  have hbare := List.all_eq_true.mp h c hc
  refine ⟨?_, ?_, ?_⟩ <;> rintro rfl <;> exact absurd hbare (by decide)

theorem Text.Balanced.bracketed {items : List String} (h : ∀ s ∈ items, Balanced s.toList) :
    Balanced ("[" ++ Text.commaJoin items ++ "]").toList := by
  rw [String.toList_append, String.toList_append]
  exact ((Balanced.of_plain rfl).append (.commaJoin h)).append (.of_plain rfl)

theorem Text.Balanced.literalProperty : LiteralProperty fun _ s => Balanced s.toList where
  null := .of_plain rfl
  bare _ _ _ h := .of_plain (plain_of_bare h)
  quoted _ s _ := .quote s
  list _ _ h := .bracketed (List.forall_mem_map.mpr h)

namespace ColumnType

theorem balanced_literal (type : ColumnType) (v : Value) : Balanced (type.literal true v).toList :=
  Balanced.literalProperty.column type v

end ColumnType

end SelectBuilder
