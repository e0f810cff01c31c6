import HandStudy.Proofs.Json.Scanner

/-!
# Reading what was written

The builder assembles the tokens of a value to the value again, but for lists and objects
that are nested too deep (`Json.clip`). So a value that lasts (`Json.Lasts`) is read from its
own text if it is not nested too deep, and else it is not read (`Json.readWhole_print`).
-/

namespace HandStudy.Json

/-! ## Nesting -/

mutual

/-- How deep lists and objects are nested in a value. -/
def depth : Json → Nat
  | .arr items => itemsDepth items + 1
  | .obj fields => fieldsDepth fields + 1
  | _ => 0

/-- How deep lists and objects are nested in the items of a list. -/
def itemsDepth : List Json → Nat
  | [] => 0
  | v :: items => max (depth v) (itemsDepth items)

/-- How deep lists and objects are nested in the fields of an object. -/
def fieldsDepth : List (String × Json) → Nat
  | [] => 0
  | (_, v) :: fields => max (depth v) (fieldsDepth fields)

end

mutual

/-- A value inside of `n` lists and objects, without the parts that are nested too deep. -/
def clip (n : Nat) : Json → Json
  | .arr items => if n < Builder.maxDepth then .arr (clipItems (n + 1) items) else .void
  | .obj fields => if n < Builder.maxDepth then .obj (clipFields (n + 1) fields) else .void
  | v => v

/-- Items inside of `n` lists and objects, without the parts that are nested too deep. -/
def clipItems (n : Nat) : List Json → List Json
  | [] => []
  | v :: items => clip n v :: clipItems n items

/-- Fields inside of `n` lists and objects, without the parts that are nested too deep. -/
def clipFields (n : Nat) : List (String × Json) → List (String × Json)
  | [] => []
  | (key, v) :: fields => (key, clip n v) :: clipFields n fields

end

mutual

/-- If nothing is nested too deep, all of the value is left. -/
theorem clip_eq_self : ∀ {n : Nat} (v : Json), n + depth v ≤ Builder.maxDepth → clip n v = v
  | _, .null, _ | _, .bool _, _ | _, .int _, _ | _, .float _, _ | _, .str _, _ | _, .void, _ => rfl
  | n, .arr items, h => by
    rw [depth] at h
    rw [clip, if_pos (by omega), clipItems_eq_self items (by omega)]
  | n, .obj fields, h => by
    rw [depth] at h
    rw [clip, if_pos (by omega), clipFields_eq_self fields (by omega)]

theorem clipItems_eq_self : ∀ {n : Nat} (items : List Json),
    n + itemsDepth items ≤ Builder.maxDepth → clipItems n items = items
  | _, [], _ => rfl
  | n, v :: items, h => by
    rw [itemsDepth] at h
    rw [clipItems, clip_eq_self v (by omega), clipItems_eq_self items (by omega)]

theorem clipFields_eq_self : ∀ {n : Nat} (fields : List (String × Json)),
    n + fieldsDepth fields ≤ Builder.maxDepth → clipFields n fields = fields
  | _, [], _ => rfl
  | n, (key, v) :: fields, h => by
    rw [fieldsDepth] at h
    rw [clipFields, clip_eq_self v (by omega), clipFields_eq_self fields (by omega)]

end

mutual

/-- What is left of a value that lasts has a value in every part, if nothing was nested too
    deep. -/
theorem isWhole_clip : ∀ {n : Nat} {v : Json}, Lasts v → n ≤ Builder.maxDepth →
    (clip n v).isWhole = decide (n + depth v ≤ Builder.maxDepth)
  | _, .null, _, hn | _, .bool _, _, hn | _, .int _, _, hn | _, .float _, _, hn
  | _, .str _, _, hn => (decide_eq_true hn).symm
  | n, .arr items, h, hn => by
    rw [clip, depth]
    split
    · rw [isWhole, itemsWhole_clipItems h (by omega), decide_eq_decide]
      omega
    · rw [isWhole, eq_comm, decide_eq_false_iff_not]
      omega
  | n, .obj fields, h, hn => by
    rw [clip, depth]
    split
    · rw [isWhole, fieldsWhole_clipFields h (by omega), decide_eq_decide]
      omega
    · rw [isWhole, eq_comm, decide_eq_false_iff_not]
      omega

theorem itemsWhole_clipItems : ∀ {n : Nat} {items : List Json}, ItemsLast items →
    n ≤ Builder.maxDepth →
      itemsWhole (clipItems n items) = decide (n + itemsDepth items ≤ Builder.maxDepth)
  | _, [], _, hn => (decide_eq_true hn).symm
  | n, v :: items, h, hn => by
    rw [clipItems, itemsDepth, itemsWhole, isWhole_clip h.1 hn, itemsWhole_clipItems h.2 hn,
      ← Bool.decide_and, decide_eq_decide]
    omega

theorem fieldsWhole_clipFields : ∀ {n : Nat} {fields : List (String × Json)}, FieldsLast fields →
    n ≤ Builder.maxDepth →
      fieldsWhole (clipFields n fields) = decide (n + fieldsDepth fields ≤ Builder.maxDepth)
  | _, [], _, hn => (decide_eq_true hn).symm
  | n, (key, v) :: fields, h, hn => by
    rw [clipFields, fieldsDepth, fieldsWhole, isWhole_clip h.1 hn, fieldsWhole_clipFields h.2 hn,
      ← Bool.decide_and, decide_eq_decide]
    omega

end

/-! ## Building -/

namespace Builder

/-- The builder after several tokens. -/
def run (b : Builder) (tokens : List Token) : Option Builder :=
  tokens.foldlM step b

theorem run_cons {b : Builder} {t : Token} {tokens : List Token} :
    b.run (t :: tokens) = (b.step t).bind (run · tokens) :=
  List.foldlM_cons

theorem run_append {b : Builder} {tokens tokens' : List Token} :
    b.run (tokens ++ tokens') = (b.run tokens).bind (run · tokens') :=
  List.foldlM_append

/-- After a key and a colon a field is open. -/
theorem run_key {frames : List Frame} {acc : List (String × Json)} {e : Expect}
    (he : e = .key acc ∨ e = .keyOrEnd acc) {key : String} {tokens : List Token} :
    run ⟨frames, e⟩ (.value (.str key) :: .mark ':' :: tokens) =
      run ⟨.inObject acc key :: frames, .value⟩ tokens := by
  rcases he with rfl | rfl <;> rfl

mutual

/-- From its tokens a value is built, where a value may stand. -/
theorem run_tokensOf : ∀ (v : Json) (frames : List Frame) (e : Expect),
    (e = .value ∨ e = .valueOrEnd) →
      run ⟨frames, e⟩ (tokensOf v) = some ⟨frames, .separator (clip frames.length v)⟩
  | .null, _, _, he | .bool _, _, _, he | .int _, _, _, he | .float _, _, _, he
  | .str _, _, _, he | .void, _, _, he => by
    rcases he with rfl | rfl <;> rfl
  | .arr items, frames, e, he => by
    -- An empty list closes at once, and one with items after the last of them.
    have hopen : step ⟨frames, e⟩ (.mark '[') = some ⟨.inArray [] :: frames, .valueOrEnd⟩ := by
      rcases he with rfl | rfl <;> rfl
    have hitems : run ⟨.inArray [] :: frames, .valueOrEnd⟩
        (separated (tokensOfItems items) ++ [.mark ']']) =
          some (close frames (.arr (clipItems (frames.length + 1) items))) := by
      rcases eq_or_ne items [] with rfl | hne
      · rfl
      · exact run_tokensOfItems items frames [] .valueOrEnd hne (.inr rfl)
    rw [tokensOf, List.cons_append, run_cons, hopen, Option.bind_some, hitems, close, clip]
  | .obj fields, frames, e, he => by
    have hopen : step ⟨frames, e⟩ (.mark '{') = some ⟨frames, .keyOrEnd []⟩ := by
      rcases he with rfl | rfl <;> rfl
    have hfields : run ⟨frames, .keyOrEnd []⟩
        (separated (tokensOfFields fields) ++ [.mark '}']) =
          some (close frames (.obj (clipFields (frames.length + 1) fields))) := by
      rcases eq_or_ne fields [] with rfl | hne
      · rfl
      · exact run_tokensOfFields fields frames [] (.keyOrEnd []) hne (.inr rfl)
    rw [tokensOf, List.cons_append, run_cons, hopen, Option.bind_some, hfields, close, clip]

/-- From the tokens of items and a closing bracket a list is built. -/
theorem run_tokensOfItems : ∀ (items : List Json) (frames : List Frame) (acc : List Json)
    (e : Expect), items ≠ [] → (e = .value ∨ e = .valueOrEnd) →
      run ⟨.inArray acc :: frames, e⟩ (separated (tokensOfItems items) ++ [.mark ']']) =
        some (close frames (.arr (acc.reverse ++ clipItems (frames.length + 1) items)))
  | [], _, _, _, hne, _ => absurd rfl hne
  | [v], frames, acc, e, _, he => by
    simp only [tokensOfItems, separated, clipItems]
    rw [run_append, run_tokensOf v _ e he, Option.bind_some]
    simp [run, step]
  | v :: w :: items, frames, acc, e, _, he => by
    have hrest := run_tokensOfItems (w :: items) frames
      (clip (frames.length + 1) v :: acc) .value nofun (.inl rfl)
    have hcomma : step ⟨.inArray acc :: frames, .separator (clip (frames.length + 1) v)⟩
        (.mark ',') = some ⟨.inArray (clip (frames.length + 1) v :: acc) :: frames, .value⟩ := rfl
    simp only [tokensOfItems, separated, List.append_assoc, List.cons_append] at hrest ⊢
    rw [run_append, run_tokensOf v _ e he, Option.bind_some, run_cons, List.length_cons, hcomma,
      Option.bind_some, hrest]
    simp [clipItems]

/-- From the tokens of fields and a closing bracket an object is built. -/
theorem run_tokensOfFields : ∀ (fields : List (String × Json)) (frames : List Frame)
    (acc : List (String × Json)) (e : Expect), fields ≠ [] →
      (e = .key acc ∨ e = .keyOrEnd acc) →
        run ⟨frames, e⟩ (separated (tokensOfFields fields) ++ [.mark '}']) =
          some (close frames (.obj (acc.reverse ++ clipFields (frames.length + 1) fields)))
  | [], _, _, _, hne, _ => absurd rfl hne
  | [(key, v)], frames, acc, e, _, he => by
    simp only [tokensOfFields, separated, List.cons_append, clipFields]
    rw [run_key he, run_append, run_tokensOf v _ .value (.inl rfl), Option.bind_some]
    simp [run, step]
  | (key, v) :: g :: fields, frames, acc, e, _, he => by
    have hrest := run_tokensOfFields (g :: fields) frames
      ((key, clip (frames.length + 1) v) :: acc)
      (.key ((key, clip (frames.length + 1) v) :: acc)) nofun (.inl rfl)
    have hcomma : step ⟨.inObject acc key :: frames, .separator (clip (frames.length + 1) v)⟩
        (.mark ',') = some ⟨frames, .key ((key, clip (frames.length + 1) v) :: acc)⟩ := rfl
    simp only [tokensOfFields, separated, List.append_assoc, List.cons_append] at hrest ⊢
    rw [run_key he, run_append, run_tokensOf v _ .value (.inl rfl), Option.bind_some, run_cons,
      List.length_cons, hcomma, Option.bind_some, hrest]
    simp [clipFields]

end

end Builder

/-! ## Whole texts -/

/-- A value that lasts is read from its own text, unless it is nested too deep. -/
theorem readWhole_print {v : Json} (h : Lasts v) :
    readWhole (print v) = if depth v ≤ Builder.maxDepth then some v else none := by
  obtain ⟨s, hrun, hsettled⟩ := scans_print v h []
  have htokens : tokens (print v) = some (tokensOf v) := by
    have hrun : (print v).toList.foldlM Scanner.step {} = some s := hrun
    rw [List.append_nil] at hsettled
    simp [tokens, hrun, hsettled.finish]
  have hbuilder : (tokensOf v).foldlM Builder.step {} = some ⟨[], .separator (clip 0 v)⟩ :=
    Builder.run_tokensOf v [] .value (.inl rfl)
  have hread : read (print v) = some (clip 0 v) := by
    simp [read, htokens, hbuilder, Builder.finish]
  -- What was clipped has no value, and then the whole text has none.
  have hwhole := isWhole_clip (n := 0) h (Nat.zero_le _)
  rw [Nat.zero_add] at hwhole
  rw [readWhole, hread, Option.filter_some, hwhole]
  by_cases hdepth : depth v ≤ Builder.maxDepth
  · rw [clip_eq_self v (by omega), decide_eq_true hdepth, if_pos hdepth]
    rfl
  · rw [decide_eq_false hdepth, if_neg hdepth]
    rfl

end HandStudy.Json
