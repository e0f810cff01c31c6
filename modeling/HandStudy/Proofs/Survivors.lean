import HandStudy.Proofs.ActionSequence
import Mathlib.Data.List.Induction
import Mathlib.Data.List.Lattice
import Mathlib.Data.List.Sort

/-!
# Survivors

The seats that are left at the end of a sequence are those of the table that fold nowhere in it
(`ActionSequence.mem_withoutFolds`), which is what is left when the seats leave one by one, each at
its fold (`foldl_leave`). As such a set is given by its members (`withoutFolds_ext`), it depends on
the seats that fold and on nothing else: not on the order of the actions, nor on the folds of seats
that the table does not have. Of two sequences one after the other the survivors are those that
survive both (`withoutFolds_append`).
-/

namespace HandStudy

namespace Step

/-- A fold of the given seat. -/
def IsFoldOf (seat : Nat) (s : Step) : Prop :=
  s.action = .fold ∧ s.seat.val = seat

instance (seat : Nat) (s : Step) : Decidable (s.IsFoldOf seat) :=
  inferInstanceAs (Decidable (_ ∧ _))

/-- A fold of a seat that a table with so many seats does not have. -/
def IsStrayFold (seats : Nat) (s : Step) : Prop :=
  s.action = .fold ∧ (s.seat.val = 0 ∨ seats < s.seat.val)

instance (seats : Nat) (s : Step) : Decidable (s.IsStrayFold seats) :=
  inferInstanceAs (Decidable (_ ∧ _))

end Step

namespace ActionSequence

/-- The seat folds somewhere in the steps. -/
def Folds (steps : List Step) (seat : Nat) : Prop :=
  ∃ step ∈ steps, step.IsFoldOf seat

/-- The seats that are left after one more action. -/
def leave (alive : List Nat) (step : Step) : List Nat :=
  if step.action = .fold then alive.erase step.seat.val else alive

variable {steps more : List Step} {seats p : Nat}

theorem folds_append : Folds (steps ++ more) p ↔ Folds steps p ∨ Folds more p := by
  simp only [Folds, List.mem_append, or_and_right, exists_or]

theorem folds_singleton {step : Step} : Folds [step] p ↔ step.IsFoldOf p := by
  simp only [Folds, List.mem_singleton, exists_eq_left]

/-! ## The set of survivors -/

theorem mem_withoutFolds :
    p ∈ withoutFolds steps seats ↔ (1 ≤ p ∧ p ≤ seats) ∧ ¬ Folds steps p := by
  rw [withoutFolds, List.mem_filter, List.mem_range'_1, Nat.lt_one_add_iff]
  refine and_congr_right fun _ => ?_
  simp [Folds, Step.IsFoldOf]

theorem pairwise_withoutFolds (steps : List Step) (seats : Nat) :
    (withoutFolds steps seats).Pairwise (· < ·) :=
  (List.pairwise_lt_range' 1).filter _

/-- Seats in order are the survivors if they have the right members. -/
theorem withoutFolds_ext {alive : List Nat} (halive : alive.Pairwise (· < ·))
    (h : ∀ p, p ∈ alive ↔ (1 ≤ p ∧ p ≤ seats) ∧ ¬ Folds steps p) :
    alive = withoutFolds steps seats :=
  halive.eq_of_mem_iff (pairwise_withoutFolds steps seats) fun p =>
    (h p).trans mem_withoutFolds.symm

/-- Only the folds of seats at the table count. -/
theorem withoutFolds_congr (h : ∀ p, 1 ≤ p → p ≤ seats → (Folds steps p ↔ Folds more p)) :
    withoutFolds steps seats = withoutFolds more seats := by
  refine withoutFolds_ext (pairwise_withoutFolds steps seats) fun p => ?_
  rw [mem_withoutFolds]
  exact and_congr_right fun hp => not_congr (h p hp.1 hp.2)

/-- Whoever survives two sequences one after the other survives both. -/
theorem withoutFolds_append (steps more : List Step) (seats : Nat) :
    withoutFolds (steps ++ more) seats = withoutFolds steps seats ∩ withoutFolds more seats := by
  refine (withoutFolds_ext ?_ fun p => ?_).symm
  · rw [List.inter_def]
    exact (pairwise_withoutFolds steps seats).filter _
  · rw [List.mem_inter_iff, mem_withoutFolds, mem_withoutFolds, folds_append, not_or,
      and_and_and_comm, and_self]

theorem withoutFolds_perm (h : steps.Perm more) :
    withoutFolds steps seats = withoutFolds more seats :=
  withoutFolds_congr fun p _ _ => by simp only [Folds, h.mem_iff]

/-- Of a smaller table those survive that survive of a larger one. -/
theorem withoutFolds_of_le {fewer : Nat} (h : fewer ≤ seats) :
    withoutFolds steps fewer = (withoutFolds steps seats).filter (· ≤ fewer) := by
  refine (withoutFolds_ext ((pairwise_withoutFolds steps seats).filter _) fun p => ?_).symm
  rw [List.mem_filter, mem_withoutFolds, decide_eq_true_iff]
  constructor
  · rintro ⟨⟨⟨hone, -⟩, hfolds⟩, hp⟩
    exact ⟨⟨hone, hp⟩, hfolds⟩
  · rintro ⟨⟨hone, hp⟩, hfolds⟩
    exact ⟨⟨⟨hone, hp.trans h⟩, hfolds⟩, hp⟩

theorem withoutFolds_filter_stray (steps : List Step) (seats : Nat) :
    withoutFolds (steps.filter fun s => ¬ s.IsStrayFold seats) seats =
      withoutFolds steps seats := by
  refine withoutFolds_congr fun p hone hp => ?_
  simp only [Folds, List.mem_filter, decide_eq_true_iff]
  constructor
  · rintro ⟨step, ⟨hstep, -⟩, hfold⟩
    exact ⟨step, hstep, hfold⟩
  · rintro ⟨step, hstep, hfold⟩
    refine ⟨step, ⟨hstep, fun hstray => ?_⟩, hfold⟩
    have hseat := hfold.2
    have hout := hstray.2
    omega

/-! ## Leaving one by one -/

/-- One more action takes away its seat, if it is a fold. -/
theorem withoutFolds_concat (steps : List Step) (step : Step) (seats : Nat) :
    withoutFolds (steps ++ [step]) seats = leave (withoutFolds steps seats) step := by
  have hordered := pairwise_withoutFolds steps seats
  have hnodup : (withoutFolds steps seats).Nodup := hordered.imp Nat.ne_of_lt
  refine (withoutFolds_ext ?_ fun p => ?_).symm
  · rw [leave]
    split
    · exact hordered.sublist List.erase_sublist
    · exact hordered
  · rw [leave, folds_append, folds_singleton, Step.IsFoldOf, not_or]
    split
    · rename_i hfold
      rw [hnodup.mem_erase_iff, mem_withoutFolds, and_comm, and_assoc]
      simp [hfold, eq_comm]
    · rename_i hfold
      rw [mem_withoutFolds]
      simp [hfold]

/-- The seats that are left are those of the table less each that leaves at its fold. -/
theorem foldl_leave (steps : List Step) (seats : Nat) :
    steps.foldl leave (List.range' 1 seats) = withoutFolds steps seats := by
  induction steps using List.reverseRecOn with
  | nil => exact (List.filter_true _).symm
  | append_singleton steps step ih => rw [List.foldl_concat, ih, withoutFolds_concat]

/-! ## Texts -/

theorem survivors_of_parse {s : String} (h : parse s = .ok steps) (seats : Nat) :
    survivors s seats = .ok (withoutFolds steps seats) := by
  rw [survivors, h]
  rfl

theorem survivors_eq_error_iff {s : String} {e : SequenceError} :
    survivors s seats = .error e ↔ parse s = .error e := by
  rw [survivors]
  cases parse s <;> simp [Except.map]

/-- Two sequences one after the other are read as the steps of both. -/
theorem parse_append {s t : String} (hs : parse s = .ok steps) (ht : parse t = .ok more) :
    parse (s ++ t) = .ok (steps ++ more) := by
  rw [parse_eq_ok_iff] at hs ht ⊢
  rw [← hs, ← ht, Step.textOf, List.flatMap_append, String.ofList_append]
  rfl

/-- Reading the survivors fails if and only if the text is no sequence, with the same error.
    Otherwise they are, in order, the seats of the table that do not fold, and also what is left
    when each seat leaves at its fold. Of two sequences written one after the other they are those
    of both, so that they never become more; in whatever order the same actions are written they
    are the same; of a smaller table they are those that it has; and the folds of seats that the
    table does not have can be left out. -/
theorem survivors_compose (s : String) (seats : Nat) :
    (∀ e, survivors s seats = .error e ↔ parse s = .error e) ∧
    ∀ steps, parse s = .ok steps → ∃ alive, survivors s seats = .ok alive ∧
      alive.Pairwise (· < ·) ∧
      (∀ p, p ∈ alive ↔ (1 ≤ p ∧ p ≤ seats) ∧ ¬ Folds steps p) ∧
      steps.foldl leave (List.range' 1 seats) = alive ∧
      (∀ t more, parse t = .ok more →
        (∃ others, survivors t seats = .ok others ∧
          survivors (s ++ t) seats = .ok (alive ∩ others)) ∧
        (∃ later, survivors (s ++ t) seats = .ok later ∧ later ⊆ alive) ∧
        (steps.Perm more → survivors t seats = .ok alive)) ∧
      (∀ fewer ≤ seats, survivors s fewer = .ok (alive.filter (· ≤ fewer))) ∧
      survivors (Step.textOf (steps.filter fun step => ¬ step.IsStrayFold seats)) seats =
        .ok alive := by
  refine ⟨fun _ => survivors_eq_error_iff, fun steps hs => ?_⟩
  refine ⟨_, survivors_of_parse hs seats, pairwise_withoutFolds steps seats,
    fun _ => mem_withoutFolds, foldl_leave steps seats, fun t more ht => ?_,
    fun fewer hfewer => ?_, ?_⟩
  · have happend : survivors (s ++ t) seats =
        .ok (withoutFolds steps seats ∩ withoutFolds more seats) := by
      rw [survivors_of_parse (parse_append hs ht), withoutFolds_append]
    refine ⟨⟨_, survivors_of_parse ht seats, happend⟩, ⟨_, happend, List.inter_subset_left⟩,
      fun h => ?_⟩
    rw [survivors_of_parse ht, withoutFolds_perm h]
  · rw [survivors_of_parse hs, withoutFolds_of_le hfewer]
  · rw [survivors_of_parse (parse_eq_ok_iff.2 rfl), withoutFolds_filter_stray]

/-- The second and the fourth seat are left, of which only the second survives what comes next.
    There a seat folds that has folded before, and so do the ninth and the one with the digit 0. -/
theorem survivors_compose_repeated :
    survivors "1f2r3f4c5f6f2c" 6 = .ok [2, 4] ∧ survivors "9f1k0f4f3f1f" 6 = .ok [2, 5, 6] ∧
      survivors "1f2r3f4c5f6f2c9f1k0f4f3f1f" 6 = .ok [2] ∧
      survivors "1f2r3f4c5f6f2c" 3 = .ok [2] := by
  have hfirst : parse "1f2r3f4c5f6f2c" = .ok [⟨1, .fold⟩, ⟨2, .raise⟩, ⟨3, .fold⟩, ⟨4, .call⟩,
      ⟨5, .fold⟩, ⟨6, .fold⟩, ⟨2, .call⟩] := by decide +kernel
  have hsecond : parse "9f1k0f4f3f1f" = .ok [⟨9, .fold⟩, ⟨1, .check⟩, ⟨0, .fold⟩, ⟨4, .fold⟩,
      ⟨3, .fold⟩, ⟨1, .fold⟩] := by decide +kernel
  obtain ⟨alive, halive, -, -, hleave, hcompose, hfewer, -⟩ :=
    (survivors_compose "1f2r3f4c5f6f2c" 6).2 _ hfirst
  obtain rfl : [2, 4] = alive := hleave
  obtain ⟨others, hothers, hboth⟩ := (hcompose _ _ hsecond).1
  obtain ⟨_, hagain, -, -, hothersLeave, -⟩ := (survivors_compose "9f1k0f4f3f1f" 6).2 _ hsecond
  obtain rfl : [2, 5, 6] = others := hothersLeave.trans (Except.ok.inj (hagain.symm.trans hothers))
  exact ⟨halive, hothers, hboth, hfewer 3 (by decide)⟩

end ActionSequence

end HandStudy
