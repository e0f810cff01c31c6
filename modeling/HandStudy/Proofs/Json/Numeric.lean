import HandStudy.Proofs.Floats

/-!
# Floats that are read

JSON has a text for numbers only, and reading scales them only by powers of ten that are finite
and not zero (`Json.isNaN_scale`). So all floats in a value that is read are numbers
(`Json.numeric_of_read`): a word stands for such a value, and the scanner and the builder pass
it on.
-/

namespace HandStudy.Json

/-! ## Numbers -/

/-- A number is scaled to a number. -/
theorem isNaN_scale {fuel : Nat} {x y : Float} {e : Int} (hx : x.isNaN = false)
    (hy : scale fuel x e = some y) : y.isNaN = false := by
  induction fuel generalizing x e with
  | zero => exact Option.some.inj hy ▸ hx
  | succ fuel ih =>
    rw [scale] at hy
    split at hy
    · rename_i hsmall
      obtain ⟨hmul, hdiv⟩ := Floats.isNaN_mul_div hx (Floats.isProper_power hsmall)
      split at hy
      · dsimp only at hy
        split at hy
        · cases hy
        · exact Option.some.inj hy ▸ hmul
      · exact Option.some.inj hy ▸ hdiv
    split at hy
    · exact Option.some.inj hy ▸ hx
    split at hy
    · cases hy
    · obtain ⟨-, hdiv⟩ := Floats.isNaN_mul_div hx (Floats.isProper_power (Nat.le_refl 308))
      exact ih hdiv hy

theorem isNaN_float? {t : NumberText} {x : Float} (h : t.float? = some x) : x.isNaN = false := by
  obtain ⟨y, hy, rfl⟩ := Option.map_eq_some_iff.1 h
  have hscaled := isNaN_scale (Floats.isNaN_toFloat _) hy
  split
  · exact Floats.isNaN_neg hscaled
  · exact hscaled

/-- All floats in the value are numbers. -/
inductive Numeric : Json → Prop
  | null : Numeric .null
  | bool (b : Bool) : Numeric (.bool b)
  | int (n : Int) : Numeric (.int n)
  | float {x : Float} (h : x.isNaN = false) : Numeric (.float x)
  | str (s : String) : Numeric (.str s)
  | arr {items : List Json} (h : ∀ v ∈ items, Numeric v) : Numeric (.arr items)
  | obj {fields : List (String × Json)} (h : ∀ f ∈ fields, Numeric f.2) : Numeric (.obj fields)
  | void : Numeric .void

theorem NumberText.numeric_value (t : NumberText) : t.value.Numeric := by
  rw [value]
  split
  · exact .int _
  split
  · exact .int _
  cases hx : t.float? with
  | none => exact .void
  | some x => exact .float (isNaN_float? hx)

theorem numeric_bareValue {chars : List Char} {v : Json} (h : bareValue chars = some v) :
    v.Numeric := by
  rw [bareValue] at h
  split at h
  · exact Option.some.inj h ▸ .null
  split at h
  · exact Option.some.inj h ▸ .bool true
  split at h
  · exact Option.some.inj h ▸ .bool false
  · obtain ⟨t, -, rfl⟩ := Option.map_eq_some_iff.1 h
    exact t.numeric_value

/-! ## Tokens -/

/-- All floats in the token are numbers. -/
def Token.Numeric : Token → Prop
  | .value v => v.Numeric
  | .mark _ | .spoilt => True

namespace Scanner

/-- All floats in the tokens that were found are numbers. -/
def Numeric (s : Scanner) : Prop :=
  ∀ t ∈ s.tokens, t.Numeric

variable {s s' : Scanner} {ts : List Token} {c : Char}

theorem numeric_stepBetween (hts : ∀ t ∈ ts, t.Numeric) (h : stepBetween ts c = some s) :
    s.Numeric := by
  rw [stepBetween] at h
  split at h
  · exact Option.some.inj h ▸ hts
  split at h
  · exact Option.some.inj h ▸ hts
  split at h
  · exact Option.some.inj h ▸ List.forall_mem_cons.2 ⟨trivial, hts⟩
  split at h
  · exact Option.some.inj h ▸ hts
  · cases h

theorem Numeric.step (hs : s.Numeric) (h : s.step c = some s') : s'.Numeric := by
  obtain ⟨place, ts⟩ := s
  cases place with
  | between => exact numeric_stepBetween hs h
  | bare chars =>
    rw [Scanner.step] at h
    dsimp only at h
    split at h
    · exact Option.some.inj h ▸ hs
    · obtain ⟨v, hv, h⟩ := Option.bind_eq_some_iff.1 h
      have hv : Token.Numeric (.value v) := numeric_bareValue hv
      exact numeric_stepBetween (List.forall_mem_cons.2 ⟨hv, hs⟩) h
  | quoted chars high spoilt =>
    rw [Scanner.step] at h
    dsimp only at h
    split at h
    · exact Option.some.inj h ▸ hs
    split at h
    · refine Option.some.inj h ▸ List.forall_mem_cons.2 ⟨?_, hs⟩
      split
      · exact trivial
      · exact .str _
    split at h
    · cases h
    · exact Option.some.inj h ▸ hs
  | escape chars high spoilt =>
    rw [Scanner.step] at h
    dsimp only at h
    split at h
    · exact Option.some.inj h ▸ hs
    · obtain ⟨d, -, h⟩ := Option.bind_eq_some_iff.1 h
      exact Option.some.inj h ▸ hs
  | hex chars high spoilt left value =>
    rw [Scanner.step] at h
    obtain ⟨d, -, h⟩ := Option.bind_eq_some_iff.1 h
    dsimp only at h
    split at h <;> exact Option.some.inj h ▸ hs

theorem Numeric.finish (hs : s.Numeric) (h : s.finish = some ts) : ∀ t ∈ ts, t.Numeric := by
  obtain ⟨place, tokens⟩ := s
  cases place with
  | between =>
    obtain rfl := Option.some.inj h
    exact fun t ht => hs t (List.mem_reverse.1 ht)
  | bare chars =>
    obtain ⟨v, hv, h⟩ := Option.bind_eq_some_iff.1 h
    obtain rfl := Option.some.inj h
    have hv : Token.Numeric (.value v) := numeric_bareValue hv
    have hall : ∀ t ∈ Token.value v :: tokens, t.Numeric := List.forall_mem_cons.2 ⟨hv, hs⟩
    exact fun t ht => hall t (List.mem_reverse.1 ht)
  | quoted | escape | hex => cases h

end Scanner

/-! ## Values -/

/-- All floats in the frame are numbers. -/
def Frame.Numeric : Frame → Prop
  | .inArray items => ∀ v ∈ items, v.Numeric
  | .inObject fields _ => ∀ f ∈ fields, f.2.Numeric
  | .inVoid => True

/-- All floats in what the next token goes on with are numbers. -/
def Expect.Numeric : Expect → Prop
  | .keyOrEnd fields => ∀ f ∈ fields, f.2.Numeric
  | .key fields => ∀ f ∈ fields, f.2.Numeric
  | .separator v => v.Numeric
  | _ => True

namespace Builder

/-- All floats in what was built so far are numbers. -/
structure Numeric (b : Builder) : Prop where
  frames : ∀ f ∈ b.frames, f.Numeric
  expect : b.expect.Numeric

variable {b : Builder} {frames : List Frame}

theorem numeric_close {v : Json} (hframes : ∀ f ∈ frames, f.Numeric) (hv : v.Numeric) :
    (close frames v).Numeric := by
  refine ⟨hframes, ?_⟩
  rw [close, Expect.Numeric]
  split
  · exact hv
  · exact .void

theorem numeric_closeArray {items : List Json} (hframes : ∀ f ∈ frames, f.Numeric)
    (hitems : ∀ v ∈ items, v.Numeric) : (close frames (.arr items.reverse)).Numeric :=
  numeric_close hframes (.arr fun v hv => hitems v (List.mem_reverse.1 hv))

theorem numeric_closeObject {fields : List (String × Json)} (hframes : ∀ f ∈ frames, f.Numeric)
    (hfields : ∀ f ∈ fields, f.2.Numeric) : (close frames (.obj fields.reverse)).Numeric :=
  numeric_close hframes (.obj fun f hf => hfields f (List.mem_reverse.1 hf))

theorem Numeric.step (hb : b.Numeric) {t : Token} (ht : t.Numeric) :
    ∀ b', b.step t = some b' → b'.Numeric := by
  obtain ⟨hframes, hexpect⟩ := hb
  fun_cases Builder.step b t with
  -- The token is a value of its own, or opens a list or an object.
  | case1 v he | case2 v he => exact fun _ h => Option.some.inj h ▸ ⟨hframes, ht⟩
  | case3 he | case4 he => exact fun _ h => Option.some.inj h ▸ ⟨hframes, .void⟩
  | case5 he | case6 he =>
    exact fun _ h => Option.some.inj h ▸
      ⟨List.forall_mem_cons.2 ⟨List.forall_mem_nil _, hframes⟩, trivial⟩
  | case7 he | case8 he => exact fun _ h => Option.some.inj h ▸ ⟨hframes, List.forall_mem_nil _⟩
  | case9 he items frames hopen =>
    rw [hopen, List.forall_mem_cons] at hframes
    exact fun _ h => Option.some.inj h ▸ numeric_closeArray hframes.2 hframes.1
  -- There are no floats in keys and colons.
  | case11 fields key he | case12 fields key he =>
    rw [he] at hexpect
    exact fun _ h => Option.some.inj h ▸ ⟨List.forall_mem_cons.2 ⟨hexpect, hframes⟩, trivial⟩
  | case13 | case14 | case15 | case16 =>
    exact fun _ h => Option.some.inj h ▸ ⟨List.forall_mem_cons.2 ⟨trivial, hframes⟩, trivial⟩
  | case17 fields he =>
    rw [he] at hexpect
    exact fun _ h => Option.some.inj h ▸ numeric_closeObject hframes hexpect
  | case18 he => exact fun _ h => Option.some.inj h ▸ ⟨hframes, trivial⟩
  -- A comma or a bracket puts the last value into the innermost frame.
  | case19 v he items frames hopen =>
    rw [he] at hexpect
    rw [hopen, List.forall_mem_cons] at hframes
    have hitems : Frame.Numeric (.inArray (v :: items)) :=
      List.forall_mem_cons.2 ⟨hexpect, hframes.1⟩
    exact fun _ h => Option.some.inj h ▸ ⟨List.forall_mem_cons.2 ⟨hitems, hframes.2⟩, trivial⟩
  | case20 v he fields key frames hopen =>
    rw [he] at hexpect
    rw [hopen, List.forall_mem_cons] at hframes
    exact fun _ h => Option.some.inj h ▸
      ⟨hframes.2, List.forall_mem_cons.2 ⟨hexpect, hframes.1⟩⟩
  | case21 v he frames hopen =>
    rw [hopen, List.forall_mem_cons] at hframes
    exact fun _ h => Option.some.inj h ▸ ⟨hframes.2, trivial⟩
  | case23 v he items frames hopen =>
    rw [he] at hexpect
    rw [hopen, List.forall_mem_cons] at hframes
    exact fun _ h => Option.some.inj h ▸
      numeric_closeArray hframes.2 (List.forall_mem_cons.2 ⟨hexpect, hframes.1⟩)
  | case25 v he fields key frames hopen =>
    rw [he] at hexpect
    rw [hopen, List.forall_mem_cons] at hframes
    exact fun _ h => Option.some.inj h ▸
      numeric_closeObject hframes.2 (List.forall_mem_cons.2 ⟨hexpect, hframes.1⟩)
  | case26 v he frames hopen =>
    rw [hopen, List.forall_mem_cons] at hframes
    exact fun _ h => Option.some.inj h ▸ numeric_close hframes.2 .void
  | case10 | case22 | case24 | case27 | case28 => exact nofun

theorem Numeric.finish (hb : b.Numeric) {v : Json} (h : b.finish = some v) : v.Numeric := by
  obtain ⟨frames, expect⟩ := b
  cases frames with
  | nil =>
    cases expect with
    | separator w => exact Option.some.inj h ▸ hb.expect
    | value | valueOrEnd | keyOrEnd | key | voidKey | colon => cases h
  | cons f frames => cases expect <;> cases h

end Builder

/-- What each step keeps is kept by several steps. -/
theorem foldlM_induction {α β : Type} {P : β → Prop} {Q : α → Prop} {f : β → α → Option β}
    (hstep : ∀ b a b', P b → Q a → f b a = some b' → P b') {l : List α} (hl : ∀ a ∈ l, Q a)
    {b b' : β} (hb : P b) (h : l.foldlM f b = some b') : P b' := by
  induction l generalizing b with
  | nil => exact Option.some.inj h ▸ hb
  | cons a l ih =>
    obtain ⟨ha, hl⟩ := List.forall_mem_cons.1 hl
    rw [List.foldlM_cons] at h
    obtain ⟨c, hc, h⟩ := Option.bind_eq_some_iff.1 h
    exact ih hl (hstep b a c hb ha hc) h

/-- All floats in a value that is read are numbers. -/
theorem numeric_of_read {text : String} {v : Json} (h : read text = some v) : v.Numeric := by
  obtain ⟨tokens, htokens, h⟩ := Option.bind_eq_some_iff.1 h
  obtain ⟨s, hs, htokens⟩ := Option.bind_eq_some_iff.1 htokens
  obtain ⟨b, hb, h⟩ := Option.bind_eq_some_iff.1 h
  have hblank : Scanner.Numeric {} := List.forall_mem_nil _
  have hscanned : s.Numeric :=
    foldlM_induction (Q := fun _ => True) (fun _ _ _ hs _ h => hs.step h) (fun _ _ => trivial)
      hblank hs
  have hempty : Builder.Numeric {} := ⟨List.forall_mem_nil _, trivial⟩
  have hbuilt : b.Numeric :=
    foldlM_induction (fun _ _ b' hb ht => hb.step ht b') (hscanned.finish htokens) hempty hb
  exact hbuilt.finish h

end HandStudy.Json
