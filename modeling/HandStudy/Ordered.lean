/-!
# Ordered lists

A finite set is kept as the list of its members in strictly increasing order:
two sets are then equal when their lists are, and every listing of a set comes
out in the one order. Grouping by a key (`groupBy`) lists the groups in the order
of their keys and keeps, within a group, the order of the given list.
-/

namespace HandStudy.Ordered

variable {α : Type} [LT α] [DecidableLT α] [DecidableEq α]

/-- The set with one more member. -/
def insert (a : α) : List α → List α
  | [] => [a]
  | b :: l => if a < b then a :: b :: l else if a = b then b :: l else b :: insert a l

/-- The set of the members of a list. -/
def ofList (l : List α) : List α :=
  l.foldr insert []

/-- Two sets together. -/
def union (l m : List α) : List α :=
  l.foldr insert m

/-- The members of a list by the value of a key, in the order of the keys. -/
def groupBy {β : Type} (key : β → α) (l : List β) : List (α × List β) :=
  (ofList (l.map key)).map fun k => (k, l.filter (key · = k))

theorem mem_insert {a b : α} {l : List α} : b ∈ insert a l ↔ b = a ∨ b ∈ l := by
  induction l with
  | nil => simp [insert]
  | cons c l ih =>
    unfold insert
    split
    · simp
    · split
      · rename_i h
        simp [h]
      · simp only [List.mem_cons, ih]
        constructor <;> rintro (h | h | h) <;> simp [h]

theorem mem_union {a : α} {l m : List α} : a ∈ union l m ↔ a ∈ l ∨ a ∈ m := by
  induction l with
  | nil => simp [union]
  | cons c l ih =>
    rw [show union (c :: l) m = insert c (union l m) from rfl, mem_insert, ih]
    simp [or_assoc]

/-- A set has exactly the members of the list it is made of. -/
@[simp] theorem mem_ofList {a : α} {l : List α} : a ∈ ofList l ↔ a ∈ l := by
  rw [show ofList l = union l [] from rfl, mem_union]
  simp

end HandStudy.Ordered
