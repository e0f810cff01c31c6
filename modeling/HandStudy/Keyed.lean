/-!
# Keyed lists

A table is kept as the list of its rows in increasing order of their keys, one row
for each key. Writing a row (`Keyed.put`) replaces the one with the same key, if
there is one, and otherwise takes its place in the order.
-/

namespace HandStudy.Keyed

variable {α κ : Type} [LT κ] [DecidableLT κ] [DecidableEq κ]

/-- The rows with one more, which replaces the row with the same key. -/
def put (key : α → κ) (a : α) : List α → List α
  | [] => [a]
  | b :: l =>
    if key a < key b then a :: b :: l
    else if key a = key b then a :: l
    else b :: put key a l

/-- The row with the given key. -/
def get? (key : α → κ) (l : List α) (k : κ) : Option α :=
  l.find? (key · = k)

/-- Is there a row with the given key? -/
def has (key : α → κ) (l : List α) (k : κ) : Bool :=
  l.any (key · = k)

/-- After a write the rows are the one written and those with other keys. -/
theorem mem_put_of_ne {key : α → κ} {a b : α} {l : List α} (h : key b ≠ key a) :
    b ∈ put key a l ↔ b ∈ l := by
  have hba : b ≠ a := fun e => h (e ▸ rfl)
  induction l with
  | nil => simp [put, hba]
  | cons c l ih =>
    unfold put
    split
    · simp [hba]
    · split
      · rename_i hc
        have hbc : b ≠ c := fun e => h (e ▸ hc.symm)
        simp [hba, hbc]
      · simp [ih]

/-- The row that was written is there. -/
theorem mem_put_self {key : α → κ} {a : α} {l : List α} : a ∈ put key a l := by
  induction l with
  | nil => simp [put]
  | cons c l ih =>
    unfold put
    split
    · simp
    · split
      · simp
      · simp [ih]

end HandStudy.Keyed
