import HandStudy.ActionSequence
import Mathlib.Data.String.Basic

/-!
# Reading and writing sequences

A text is a sequence if it is made of pairs, each a digit and the letter of an action
(`ActionSequence.IsSequence`). The texts that are read are just these, each as the steps that it
is the text of (`ActionSequence.parse_eq_ok_iff`). Of any other text the fault that is told is
the first one: it is what comes after the longest sequence that the text begins with
(`ActionSequence.FaultAfter`).
-/

namespace HandStudy

/-! ## Characters -/

/-- The letters of the actions. -/
def Action.letters : List Char := ['f', 'c', 'r', 'k', 'b']

namespace Action

theorem ofChar?_eq_some_iff {c : Char} {a : Action} : ofChar? c = some a ↔ a.letter = c := by
  constructor
  · intro h
    simpa using List.find?_some h
  · rintro rfl
    cases a <;> rfl

theorem mem_letters_iff {c : Char} : c ∈ letters ↔ ∃ a : Action, a.letter = c := by
  constructor
  · intro h
    simp only [letters, List.mem_cons, List.not_mem_nil, or_false] at h
    rcases h with rfl | rfl | rfl | rfl | rfl
    exacts [⟨fold, rfl⟩, ⟨call, rfl⟩, ⟨raise, rfl⟩, ⟨check, rfl⟩, ⟨bet, rfl⟩]
  · rintro ⟨a, rfl⟩
    cases a <;> decide

theorem ofChar?_eq_none_iff {c : Char} : ofChar? c = none ↔ c ∉ letters := by
  rw [mem_letters_iff, Option.eq_none_iff_forall_ne_some]
  simp [ofChar?_eq_some_iff]

end Action

namespace ActionSequence

theorem digitChar_injective :
    ∀ i j : Fin 10, Nat.digitChar i.val = Nat.digitChar j.val → i = j := by
  decide

theorem seatOf?_eq_some_iff {c : Char} {seat : Fin 10} :
    seatOf? c = some seat ↔ Nat.digitChar seat.val = c := by
  constructor
  · intro h
    simpa using List.find?_some h
  · rintro rfl
    have hfound : (seatOf? (Nat.digitChar seat.val)).isSome :=
      List.find?_isSome.2 ⟨seat, List.mem_finRange seat, by simp⟩
    obtain ⟨i, hi⟩ := Option.isSome_iff_exists.1 hfound
    obtain rfl := digitChar_injective i seat (by simpa using List.find?_some hi)
    exact hi

theorem isDigit_iff {c : Char} :
    c.isDigit = true ↔ ∃ seat : Fin 10, Nat.digitChar seat.val = c := by
  constructor
  · intro h
    obtain ⟨hlow, hhigh⟩ := Char.isDigit_iff_toNat.1 h
    have hzero : '0'.toNat = 48 := rfl
    have hnine : '9'.toNat = 57 := rfl
    refine ⟨⟨c.toNat - 48, by omega⟩, Char.toNat_inj.1 ?_⟩
    have hvalue : ∀ i : Fin 10, (Nat.digitChar i.val).toNat = i.val + 48 := by decide
    rw [hvalue]
    exact Nat.sub_add_cancel hlow
  · rintro ⟨seat, rfl⟩
    rw [Nat.isDigit_digitChar]
    exact decide_eq_true seat.isLt

theorem seatOf?_eq_none_iff {c : Char} : seatOf? c = none ↔ c.isDigit = false := by
  rw [← Bool.not_eq_true, isDigit_iff, Option.eq_none_iff_forall_ne_some]
  simp [seatOf?_eq_some_iff]

/-! ## Sequences -/

/-- The characters are pairs of a digit and the letter of an action. -/
inductive IsSequence : List Char → Prop
  | nil : IsSequence []
  | pair {d a : Char} {rest : List Char} :
      d.isDigit = true → a ∈ Action.letters → IsSequence rest → IsSequence (d :: a :: rest)

/-- The number of bytes of some characters. -/
def byteSize (cs : List Char) : Nat :=
  (String.ofList cs).utf8ByteSize

/-- What is wrong with the characters that come after those that were read: a digit is the last
    of them, or the first is no digit, or one that is no letter of an action follows a digit. The
    offset of a character is the number of bytes before it. -/
inductive FaultAfter (read : List Char) : List Char → SequenceFault → Prop
  | trailingSeat (seat : Fin 10) : FaultAfter read [Nat.digitChar seat.val] (.trailingSeat seat)
  | noSeat {c : Char} {rest : List Char} :
      c.isDigit = false → FaultAfter read (c :: rest) (.noSeat c (byteSize read))
  | unknownAction {d a : Char} {rest : List Char} :
      d.isDigit = true → a ∉ Action.letters →
        FaultAfter read (d :: a :: rest) (.unknownAction a (byteSize (read ++ [d])))

theorem isSequence_iff {cs : List Char} :
    IsSequence cs ↔ ∃ steps : List Step, steps.flatMap Step.chars = cs := by
  constructor
  · intro h
    induction h with
    | nil => exact ⟨[], rfl⟩
    | pair hd ha _ ih =>
      obtain ⟨seat, rfl⟩ := isDigit_iff.1 hd
      obtain ⟨action, rfl⟩ := Action.mem_letters_iff.1 ha
      obtain ⟨steps, rfl⟩ := ih
      exact ⟨⟨seat, action⟩ :: steps, rfl⟩
  · rintro ⟨steps, rfl⟩
    induction steps with
    | nil => exact .nil
    | cons s steps ih =>
      exact .pair (isDigit_iff.2 ⟨s.seat, rfl⟩) (Action.mem_letters_iff.2 ⟨s.action, rfl⟩) ih

@[simp] theorem byteSize_append (cs ds : List Char) :
    byteSize (cs ++ ds) = byteSize cs + byteSize ds := by
  rw [byteSize, String.ofList_append, String.utf8ByteSize_append]
  rfl

@[simp] theorem byteSize_singleton (c : Char) : byteSize [c] = c.utf8Size := by
  rw [byteSize, ← String.singleton_eq_ofList, String.utf8ByteSize_singleton]

/-! ## Reading -/

/-- What was written is read, wherever it starts. -/
theorem readSteps_chars (offset : Nat) (steps : List Step) :
    readSteps offset (steps.flatMap Step.chars) = .ok steps := by
  induction steps generalizing offset with
  | nil => rfl
  | cons s steps ih =>
    rw [List.flatMap_cons, Step.chars, List.cons_append, List.cons_append, List.nil_append,
      readSteps, seatOf?_eq_some_iff.2 rfl, Action.ofChar?_eq_some_iff.2 rfl, ih]
    rfl

/-- What is read was written so. -/
theorem chars_of_readSteps {offset : Nat} {cs : List Char} {steps : List Step}
    (h : readSteps offset cs = .ok steps) : steps.flatMap Step.chars = cs := by
  fun_induction readSteps offset cs generalizing steps with
  | case1 offset =>
    obtain rfl := Except.ok.inj h
    rfl
  | case6 offset c a rest seat hseat action haction ih =>
    cases hrest : readSteps (offset + c.utf8Size + a.utf8Size) rest with
    | error f =>
      rw [hrest] at h
      cases h
    | ok others =>
      rw [hrest] at h
      obtain rfl := Except.ok.inj h
      obtain rfl := seatOf?_eq_some_iff.1 hseat
      obtain rfl := Action.ofChar?_eq_some_iff.1 haction
      rw [List.flatMap_cons, ih hrest]
      rfl
  | _ => cases h

theorem readSteps_eq_ok_iff (offset : Nat) {cs : List Char} {steps : List Step} :
    readSteps offset cs = .ok steps ↔ steps.flatMap Step.chars = cs := by
  refine ⟨chars_of_readSteps, ?_⟩
  rintro rfl
  exact readSteps_chars offset steps

/-- Reading stops at a fault, and what is before it is a sequence. -/
theorem faultAfter_of_readSteps (read : List Char) {cs : List Char} {f : SequenceFault}
    (h : readSteps (byteSize read) cs = .error f) :
    ∃ more rest, cs = more ++ rest ∧ IsSequence more ∧ FaultAfter (read ++ more) rest f := by
  generalize hoffset : byteSize read = offset at h
  fun_induction readSteps offset cs generalizing read with
  | case1 offset => cases h
  | case2 offset c hseat | case4 offset c a rest hseat =>
    obtain rfl := Except.error.inj h
    refine ⟨[], _, rfl, .nil, ?_⟩
    rw [List.append_nil, ← hoffset]
    exact .noSeat (seatOf?_eq_none_iff.1 hseat)
  | case3 offset c seat hseat =>
    obtain rfl := Except.error.inj h
    obtain rfl := seatOf?_eq_some_iff.1 hseat
    exact ⟨[], _, rfl, .nil, .trailingSeat seat⟩
  | case5 offset c a rest seat hseat haction =>
    obtain rfl := Except.error.inj h
    refine ⟨[], _, rfl, .nil, ?_⟩
    rw [List.append_nil, ← hoffset, ← byteSize_singleton, ← byteSize_append]
    exact .unknownAction (isDigit_iff.2 ⟨seat, seatOf?_eq_some_iff.1 hseat⟩)
      (Action.ofChar?_eq_none_iff.1 haction)
  | case6 offset c a rest seat hseat action haction ih =>
    cases hrest : readSteps (offset + c.utf8Size + a.utf8Size) rest with
    | ok steps =>
      rw [hrest] at h
      cases h
    | error g =>
      rw [hrest] at h
      obtain rfl := Except.error.inj h
      -- The pair belongs to what was read before the fault.
      have hread : byteSize (read ++ [c, a]) = offset + c.utf8Size + a.utf8Size := by
        rw [List.append_cons, byteSize_append, byteSize_append, byteSize_singleton,
          byteSize_singleton, hoffset]
      obtain ⟨more, rest, rfl, hmore, hfault⟩ := ih _ hread hrest
      have hpair : IsSequence (c :: a :: more) :=
        .pair (isDigit_iff.2 ⟨seat, seatOf?_eq_some_iff.1 hseat⟩)
          (Action.mem_letters_iff.2 ⟨action, Action.ofChar?_eq_some_iff.1 haction⟩) hmore
      refine ⟨c :: a :: more, rest, rfl, hpair, ?_⟩
      rw [List.append_assoc] at hfault
      exact hfault

/-- A fault is not the beginning of a sequence. -/
theorem FaultAfter.eq_nil_of_prefix {read rest : List Char} {f : SequenceFault}
    (h : FaultAfter read rest f) {cs : List Char} (hcs : IsSequence cs) (hbegins : cs <+: rest) :
    cs = [] := by
  cases hcs with
  | nil => rfl
  | pair hd ha _ =>
    obtain ⟨more, rfl⟩ := hbegins
    cases h with
    | noSeat hc => rw [hd] at hc; cases hc
    | unknownAction _ hnot => exact absurd ha hnot

/-- No longer sequence begins the text than the one before the fault. -/
theorem FaultAfter.prefix_of_isSequence {before read rest : List Char} {f : SequenceFault}
    (h : FaultAfter before rest f) (hread : IsSequence read) {cs : List Char}
    (hcs : IsSequence cs) (hbegins : cs <+: read ++ rest) : cs <+: read := by
  induction hread generalizing cs with
  | nil =>
    obtain rfl : cs = [] := h.eq_nil_of_prefix hcs hbegins
    exact List.nil_prefix
  | pair _ _ _ ih =>
    cases hcs with
    | nil => exact List.nil_prefix
    | pair _ _ hrest =>
      obtain ⟨hdigit, hbegins⟩ := List.cons_prefix_cons.1 hbegins
      obtain ⟨hletter, hbegins⟩ := List.cons_prefix_cons.1 hbegins
      exact List.cons_prefix_cons.2
        ⟨hdigit, List.cons_prefix_cons.2 ⟨hletter, ih hrest hbegins⟩⟩

/-! ## Texts -/

theorem textOf_eq_iff {s : String} {steps : List Step} :
    Step.textOf steps = s ↔ steps.flatMap Step.chars = s.toList := by
  constructor
  · rintro rfl
    exact String.toList_ofList.symm
  · intro h
    rw [Step.textOf, h, String.ofList_toList]

theorem parse_eq_ok_iff {s : String} {steps : List Step} :
    parse s = .ok steps ↔ Step.textOf steps = s := by
  rw [textOf_eq_iff, ← readSteps_eq_ok_iff 0, parse]
  cases readSteps 0 s.toList <;> simp [Except.mapError]

theorem parse_eq_error_iff {s : String} {f : SequenceFault} :
    parse s = .error ⟨s, f⟩ ↔ readSteps 0 s.toList = .error f := by
  rw [parse]
  cases readSteps 0 s.toList <;> simp [Except.mapError]

theorem exists_parse_iff {s : String} :
    (∃ steps, parse s = .ok steps) ↔ IsSequence s.toList := by
  simp only [parse_eq_ok_iff, isSequence_iff, textOf_eq_iff]

/-- Reading and writing are inverse to each other: a text is read as some steps exactly if it is
    their text, and the texts of steps are those that are made of a digit and the letter of an
    action again and again. In any other text there is a longest sequence that it begins with,
    and the fault that is told is the one that comes after it. -/
theorem parse_exact (s : String) :
    (∀ steps, parse s = .ok steps ↔ Step.textOf steps = s) ∧
    ((∃ steps, parse s = .ok steps) ↔ IsSequence s.toList) ∧
    (¬ IsSequence s.toList → ∃ read rest fault,
      parse s = .error ⟨s, fault⟩ ∧ s.toList = read ++ rest ∧ IsSequence read ∧
        (∀ cs, IsSequence cs → cs <+: s.toList → cs <+: read) ∧ FaultAfter read rest fault) := by
  refine ⟨fun _ => parse_eq_ok_iff, exists_parse_iff, fun hnot => ?_⟩
  cases hread : readSteps 0 s.toList with
  | ok steps =>
    have hsteps := (readSteps_eq_ok_iff 0).1 hread
    exact absurd (isSequence_iff.2 ⟨steps, hsteps⟩) hnot
  | error fault =>
    obtain ⟨read, rest, hs, hsequence, hfault⟩ := faultAfter_of_readSteps [] hread
    refine ⟨read, rest, fault, parse_eq_error_iff.2 hread, hs, hsequence,
      fun cs hcs hbegins => ?_, hfault⟩
    rw [hs] at hbegins
    exact hfault.prefix_of_isSequence hsequence hcs hbegins

/-- After two actions the third has a letter of two bytes, the sixth byte of the text. -/
theorem parse_exact_accented :
    parse "1f2r3é" = .error ⟨"1f2r3é", .unknownAction 'é' 5⟩ ∧
      ¬ IsSequence "1f2r3é".toList ∧
      ∃ read rest, "1f2r3é".toList = read ++ rest ∧ IsSequence read ∧
        (∀ cs, IsSequence cs → cs <+: "1f2r3é".toList → cs <+: read) ∧
        FaultAfter read rest (.unknownAction 'é' 5) := by
  have hparse : parse "1f2r3é" = .error ⟨"1f2r3é", .unknownAction 'é' 5⟩ := by decide +kernel
  have hnot : ¬ IsSequence "1f2r3é".toList := by
    intro h
    obtain ⟨steps, hsteps⟩ := (parse_exact _).2.1.2 h
    rw [hparse] at hsteps
    cases hsteps
  obtain ⟨read, rest, fault, hfault, hsplit⟩ := (parse_exact _).2.2 hnot
  obtain rfl : SequenceFault.unknownAction 'é' 5 = fault :=
    congrArg SequenceError.fault (Except.error.inj (hparse.symm.trans hfault))
  exact ⟨hparse, hnot, read, rest, hsplit⟩

end ActionSequence

end HandStudy
