import FuboxApi.DecimalText
import FuboxApi.PostgresTables

/-!
# Amounts as Postgres prints them

The text of a money column or of a sum has eight digits behind the point; an empty sum is `0`.
-/

namespace FuboxApi

def moneyText (value : ℚ) : String :=
  String.ofList (DecimalText.text moneyColumn.scale (value * 10 ^ moneyColumn.scale).num)

/-- The text of `coalesce(sum(amount), 0)`. -/
def moneySumText (amounts : List ℚ) : String :=
  if amounts.isEmpty then "0" else moneyText amounts.sum

variable {value : ℚ}

theorem exists_units_of_stores (stored : moneyColumn.Stores value) :
    ∃ units : Int, value = units / 10 ^ moneyColumn.scale ∧ units.natAbs < 10 ^ 20 := by
  unfold NumericColumn.Stores NumericColumn.assign at stored
  dsimp only at stored
  split at stored
  · next inRange => exact ⟨_, (Option.some.inj stored).symm, inRange⟩
  · cases stored

theorem moneyText_units (units : Int) : moneyText (units / 10 ^ moneyColumn.scale) =
    String.ofList (DecimalText.text moneyColumn.scale units) := by
  have scaled : (units / 10 ^ moneyColumn.scale * 10 ^ moneyColumn.scale : ℚ) = units := by
    field_simp
  rw [moneyText, scaled, Rat.num_intCast]

theorem number_moneyText (onGrid : value ∈ moneyColumn.grid) :
    DecimalText.number (moneyText value).toList = some value := by
  obtain ⟨units, rfl⟩ := NumericColumn.mem_grid_iff.mp onGrid
  rw [moneyText_units, String.toList_ofList, DecimalText.number_text]

theorem number_moneySumText {amounts : List ℚ}
    (onGrid : ∀ amount ∈ amounts, amount ∈ moneyColumn.grid) :
    DecimalText.number (moneySumText amounts).toList = some amounts.sum := by
  unfold moneySumText
  split
  · next empty =>
    rw [List.isEmpty_iff.mp empty]
    decide +kernel
  · exact number_moneyText (list_sum_mem onGrid)

end FuboxApi
