import HandStudy.RuleFault

/-!
# Events

An evaluation notes what is worth knowing beside its result. `Logged α` is a
result together with the events on the way to it, in order. An evaluation can also
break off (`Logged.abortIf`): what comes after is not done, and there is no result.
-/

namespace HandStudy

/-- What an evaluation notes. -/
inductive Event where
  /-- A rule is broken and counts as one that does not match. -/
  | ruleSkipped (e : RuleError)
  /-- A condition of a spot is broken and counts as one that does not hold. -/
  | conditionSkipped (e : RuleError)
  /-- A rule about the flop meets a hand without one. -/
  | noFlop (rule : Int64)
  /-- A rule about the format meets a hand whose format is guessed. -/
  | formatGuessed (rule : Int64)
  /-- A hand has been classified: the rules of the library, the hand's active tags
      and its documents are counted. -/
  | classified (rules active documents : Nat)
  /-- A hand is in the spot of this name. -/
  | resolved (spot : String)
deriving DecidableEq, Inhabited

namespace Event

/-- Does the event tell of a fault in the library? -/
def isWarning : Event → Bool
  | ruleSkipped _ | conditionSkipped _ => true
  | _ => false

/-- The rule that the event is about. -/
def rule? : Event → Option Int64
  | ruleSkipped e | conditionSkipped e => some e.rule
  | noFlop rule | formatGuessed rule => some rule
  | classified .. | resolved _ => none

/-- The event in words. -/
def message : Event → String
  | ruleSkipped _ => "skipping rule that cannot be evaluated"
  | conditionSkipped _ => "skipping spot condition that cannot be evaluated"
  | noFlop _ => "texture rule skipped: no flop for hand"
  | formatGuessed _ => "format predicate using legacy game type"
  | classified .. => "classified hand"
  | resolved _ => "resolved spot"

/-- The details of the event, by name. -/
def fields : Event → List (String × String)
  | ruleSkipped e | conditionSkipped e =>
    [("rule_id", toString e.rule), ("error", e.message)]
  | noFlop rule | formatGuessed rule => [("rule_id", toString rule)]
  | classified rules active documents =>
    [("rules", toString rules), ("active", toString active), ("documents", toString documents)]
  | resolved spot => [("spot", spot)]

end Event

/-- A result and the events on the way to it. Of an evaluation that has broken off nobody gets to
    see the value (`Logged.result?`); it is what would come out if the evaluation went on. -/
@[ext]
structure Logged (α : Type) where
  value : α
  events : List Event := []
  aborted : Bool := false
deriving Inhabited

namespace Logged

variable {α β : Type}

/-- A result that came without events. -/
protected def pure (a : α) : Logged α := { value := a }

/-- One evaluation after another, unless the first breaks off. -/
protected def bind (x : Logged α) (f : α → Logged β) : Logged β where
  value := (f x.value).value
  events := x.events ++ if x.aborted then [] else (f x.value).events
  aborted := x.aborted || (f x.value).aborted

instance : Monad Logged where
  pure := Logged.pure
  bind := Logged.bind

/-- Notes an event. -/
def note (e : Event) : Logged Unit := { value := (), events := [e] }

/-- Breaks off, if it has to. -/
def abortIf (b : Bool) : Logged Unit := { value := (), aborted := b }

@[simp] theorem value_pure (a : α) : (pure a : Logged α).value = a := rfl

@[simp] theorem events_pure (a : α) : (pure a : Logged α).events = [] := rfl

@[simp] theorem aborted_pure (a : α) : (pure a : Logged α).aborted = false := rfl

@[simp] theorem value_bind (x : Logged α) (f : α → Logged β) :
    (x >>= f).value = (f x.value).value := rfl

@[simp] theorem events_bind (x : Logged α) (f : α → Logged β) :
    (x >>= f).events = x.events ++ if x.aborted then [] else (f x.value).events := rfl

@[simp] theorem aborted_bind (x : Logged α) (f : α → Logged β) :
    (x >>= f).aborted = (x.aborted || (f x.value).aborted) := rfl

@[simp] theorem value_note (e : Event) : (note e).value = () := rfl

@[simp] theorem events_note (e : Event) : (note e).events = [e] := rfl

@[simp] theorem aborted_note (e : Event) : (note e).aborted = false := rfl

@[simp] theorem value_map (f : α → β) (x : Logged α) : (f <$> x).value = f x.value := rfl

@[simp] theorem events_map (f : α → β) (x : Logged α) : (f <$> x).events = x.events := by
  have hmap : (f <$> x).events = x.events ++ if x.aborted then [] else [] := rfl
  rw [hmap, ite_self, List.append_nil]

@[simp] theorem aborted_map (f : α → β) (x : Logged α) : (f <$> x).aborted = x.aborted :=
  Bool.or_false _

theorem bind_assoc {γ : Type} (x : Logged α) (f : α → Logged β) (g : β → Logged γ) :
    x >>= f >>= g = x >>= fun a => f a >>= g := by
  refine Logged.ext rfl ?_ (Bool.or_assoc ..)
  cases hx : x.aborted <;> simp [hx, List.append_assoc]

instance : LawfulMonad Logged :=
  LawfulMonad.mk' Logged (fun x => Logged.ext rfl (events_map id x) (aborted_map id x))
    (fun _ _ => rfl) bind_assoc

/-- The result, unless the evaluation has broken off. -/
def result? (x : Logged α) : Option α :=
  if x.aborted then none else some x.value

theorem result?_eq_some_iff {x : Logged α} {a : α} :
    x.result? = some a ↔ x.aborted = false ∧ x.value = a := by
  rw [result?]
  cases x.aborted <;> simp

theorem result?_eq_none_iff {x : Logged α} : x.result? = none ↔ x.aborted = true := by
  rw [result?]
  cases x.aborted <;> simp

/-- The results of one evaluation after another are those of each alone. -/
theorem value_mapM (f : α → Logged β) (l : List α) :
    (l.mapM f).value = l.map fun a => (f a).value := by
  induction l with
  | nil => rfl
  | cons a l ih => simp [ih]

/-- Evaluations that do not break off do not do so one after another. -/
theorem aborted_mapM {f : α → Logged β} (hf : ∀ a, (f a).aborted = false) (l : List α) :
    (l.mapM f).aborted = false := by
  induction l with
  | nil => rfl
  | cons a l ih => simp [hf, ih]

end Logged

end HandStudy
