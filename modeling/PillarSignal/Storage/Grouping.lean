import PillarSignal.Storage.Table

namespace Storage

variable {ι κ α : Type} [DecidableEq κ]

/-- A table that is updated item by item, each time in the row of the item's key. -/
def grouped (key : ι → κ) (step : ι → Option α → α) (items : List ι) (rows : List (κ × α)) : List (κ × α) :=
  items.foldl (fun rows item => put (key item) (step item (rows.lookup (key item))) rows) rows

variable {key : ι → κ} {step : ι → Option α → α}

theorem lookup_grouped (items : List ι) (rows : List (κ × α)) (name : κ) :
    (grouped key step items rows).lookup name =
      (items.filter fun item => key item = name).foldl (fun held item => some (step item held)) (rows.lookup name) := by
  induction items generalizing rows with
  | nil => rfl
  | cons item items ih =>
    rw [grouped, List.foldl_cons, ← grouped, ih, lookup_put, List.filter_cons]
    by_cases own : key item = name
    · rw [if_pos own, if_pos (decide_eq_true own), List.foldl_cons, own]
    · rw [if_neg own, if_neg (by simpa using own)]

theorem nodup_keys_grouped (items : List ι) {rows : List (κ × α)} (distinct : (rows.map Prod.fst).Nodup) :
    ((grouped key step items rows).map Prod.fst).Nodup := by
  induction items generalizing rows with
  | nil => exact distinct
  | cons item items ih =>
    rw [grouped, List.foldl_cons, ← grouped]
    exact ih (nodup_keys_put distinct _ _)

end Storage
