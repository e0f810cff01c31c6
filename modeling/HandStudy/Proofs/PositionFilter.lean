import HandStudy.PositionFilter
import Mathlib.Data.List.Basic
import Mathlib.Data.String.Basic

/-!
# Reading filters back

A filter in SQL is read by the rules of its grammar (`PositionFilter.read?`): an opening
parenthesis, clauses with ` OR ` between them, a closing parenthesis and nothing more. In a clause
the player is a literal, where two quotes stand for one and the first quote that is not doubled is
the end (`readLiteral?`). Every filter that has clauses is read as just these (`read?_sql`),
whatever quotes, parentheses or clauses the players' names are made of, so that filters with the
same text are the same.
-/

namespace HandStudy.PositionFilter

/-! ## The grammar -/

/-- Reads a literal from behind the quote that it starts with: its text, and what comes after the
    quote that ends it. -/
def readLiteral? : List Char → Option (List Char × List Char)
  | [] => none
  | '\'' :: '\'' :: cs => (readLiteral? cs).map fun (text, rest) => ('\'' :: text, rest)
  | '\'' :: cs => some ([], cs)
  | c :: cs => (readLiteral? cs).map fun (text, rest) => (c :: text, rest)

/-- Reads a clause, and gives what comes after it. -/
def readClause? (cs : List Char) : Option (PositionClause × List Char) := do
  let cs ← "positions->>'".toList.isPrefixOf? cs
  let digits := cs.takeWhile Char.isDigit
  let cs ← "' = '".toList.isPrefixOf? (cs.dropWhile Char.isDigit)
  let (player, rest) ← readLiteral? cs
  if digits = [] then none
  else some (⟨Nat.ofDigitChars 10 digits 0, String.ofList player⟩, rest)

theorem suffix_of_readLiteral? {cs text rest : List Char}
    (h : readLiteral? cs = some (text, rest)) : rest <:+ cs := by
  fun_induction readLiteral? cs generalizing text with
  | case1 => cases h
  | case2 cs ih =>
    obtain ⟨⟨inner, _⟩, hinner, heq⟩ := Option.map_eq_some_iff.1 h
    obtain ⟨-, rfl⟩ := Prod.mk.inj heq
    exact ((ih hinner).trans (List.suffix_cons _ _)).trans (List.suffix_cons _ _)
  | case3 cs =>
    obtain ⟨-, rfl⟩ := Prod.mk.inj (Option.some.inj h)
    exact List.suffix_cons _ _
  | case4 c cs _ _ ih =>
    obtain ⟨⟨inner, _⟩, hinner, heq⟩ := Option.map_eq_some_iff.1 h
    obtain ⟨-, rfl⟩ := Prod.mk.inj heq
    exact (ih hinner).trans (List.suffix_cons _ _)

theorem suffix_of_readClause? {cs rest : List Char} {clause : PositionClause}
    (h : readClause? cs = some (clause, rest)) : rest <:+ cs := by
  simp only [readClause?, Option.bind_eq_bind, Option.bind_eq_some_iff] at h
  obtain ⟨more, hmore, literal, hliteral, ⟨player, _⟩, hplayer, h⟩ := h
  split at h
  · cases h
  · rw [Option.some.injEq, Prod.mk.injEq] at h
    rw [← h.2]
    have hliteral' : literal <:+ more.dropWhile Char.isDigit :=
      ⟨_, List.isPrefixOf?_eq_some_iff_append_eq.1 hliteral⟩
    have hmore' : more <:+ cs := ⟨_, List.isPrefixOf?_eq_some_iff_append_eq.1 hmore⟩
    exact (suffix_of_readLiteral? hplayer).trans
      ((hliteral'.trans (List.dropWhile_suffix _)).trans hmore')

/-- Reads a clause and those that follow it, each after ` OR `. -/
def readClauses? (cs : List Char) : Option (List PositionClause × List Char) :=
  match _ : readClause? cs with
  | none => none
  | some (clause, rest) =>
    match _ : " OR ".toList.isPrefixOf? rest with
    | none => some ([clause], rest)
    | some more => (readClauses? more).map fun (clauses, rest) => (clause :: clauses, rest)
termination_by cs.length
decreasing_by
  have hlength : rest.length ≤ cs.length := (suffix_of_readClause? ‹_›).length_le
  have happend : (" OR ".toList ++ more).length = rest.length :=
    congrArg List.length (List.isPrefixOf?_eq_some_iff_append_eq.1 ‹_›)
  rw [List.length_append] at happend
  have hor : " OR ".toList.length = 4 := rfl
  omega

/-- Reads a filter that has clauses. Nothing may come after it. -/
def read? (sql : String) : Option (List PositionClause) := do
  let cs ← ['('].isPrefixOf? sql.toList
  let (clauses, rest) ← readClauses? cs
  if rest = [')'] then some clauses else none

/-! ## What was written is read -/

/-- The inside of a literal. -/
def doubled (cs : List Char) : List Char :=
  cs.flatMap fun c => if c = '\'' then ['\'', '\''] else [c]

theorem toList_literal (s : String) :
    (PositionClause.literal s).toList = '\'' :: (doubled s.toList ++ ['\'']) := by
  rw [PositionClause.literal, String.toList_ofList]
  rfl

/-- A literal ends where it was ended, unless another quote comes next. -/
theorem readLiteral?_doubled (cs : List Char) {rest : List Char} (h : rest.head? ≠ some '\'') :
    readLiteral? (doubled cs ++ '\'' :: rest) = some (cs, rest) := by
  induction cs with
  | nil =>
    cases rest with
    | nil => rfl
    | cons c rest =>
      have hc : c ≠ '\'' := fun hc => h (congrArg some hc)
      simp [doubled, readLiteral?, hc]
  | cons c cs ih =>
    rw [doubled, List.flatMap_cons, ← doubled]
    by_cases hc : c = '\''
    · subst hc
      rw [if_pos rfl, List.append_assoc]
      simp [readLiteral?, ih]
    · rw [if_neg hc, List.append_assoc]
      simp [readLiteral?, ih, hc]

/-- The text of a clause, in its parts. -/
theorem toList_clause_sql (c : PositionClause) :
    c.sql.toList = "positions->>'".toList ++ (Nat.toDigits 10 c.seat ++
      ("' = '".toList ++ (doubled c.player.toList ++ ['\'']))) := by
  have hsql : c.sql = "positions->>'" ++ c.seat.repr ++ "' = " ++ PositionClause.literal c.player :=
    rfl
  rw [hsql, String.toList_append, String.toList_append, String.toList_append, Nat.toList_repr,
    toList_literal, List.append_assoc, List.append_assoc]
  rfl

theorem isPrefixOf?_append (cs ds : List Char) : cs.isPrefixOf? (cs ++ ds) = some ds :=
  List.isPrefixOf?_eq_some_iff_append_eq.2 rfl

/-- A clause is read, unless another quote comes next. -/
theorem readClause?_sql (c : PositionClause) {rest : List Char} (h : rest.head? ≠ some '\'') :
    readClause? (c.sql.toList ++ rest) = some (c, rest) := by
  have hdigits : ∀ d ∈ Nat.toDigits 10 c.seat, d.isDigit := fun d hd =>
    Nat.isDigit_of_mem_toDigits (by decide) (by decide) hd
  -- The digits end at the quote behind the seat.
  have htake (cs : List Char) : ("' = '".toList ++ cs).takeWhile Char.isDigit = [] := rfl
  have hdrop (cs : List Char) :
      ("' = '".toList ++ cs).dropWhile Char.isDigit = "' = '".toList ++ cs := rfl
  rw [toList_clause_sql, readClause?, List.append_assoc, isPrefixOf?_append]
  simp only [Option.bind_eq_bind, Option.bind_some, List.append_assoc]
  rw [List.takeWhile_append_of_pos hdigits, List.dropWhile_append_of_pos hdigits, htake, hdrop,
    isPrefixOf?_append, List.append_nil, Nat.ofDigitChars_ten_toDigits, Option.bind_some,
    List.singleton_append, readLiteral?_doubled _ h, Option.bind_some, if_neg Nat.toDigits_ne_nil,
    String.ofList_toList]

/-- What follows a clause that was read is read next, if it is another one. -/
theorem readClauses?_of_readClause? {cs rest : List Char} {clause : PositionClause}
    (h : readClause? cs = some (clause, rest)) :
    readClauses? cs = match " OR ".toList.isPrefixOf? rest with
      | none => some ([clause], rest)
      | some more => (readClauses? more).map fun (clauses, rest) => (clause :: clauses, rest) := by
  rw [readClauses?]
  split
  · rename_i hnone
    rw [h] at hnone
    cases hnone
  · rename_i hsome
    obtain ⟨rfl, rfl⟩ := Prod.mk.inj (Option.some.inj (h.symm.trans hsome))
    split <;> rename_i hor <;> rw [hor]

/-- Clauses are read up to the parenthesis behind them. -/
theorem readClauses?_intercalate (c : PositionClause) (cs : List PositionClause) :
    readClauses? ((" OR ".intercalate ((c :: cs).map PositionClause.sql)).toList ++ [')']) =
      some (c :: cs, [')']) := by
  induction cs generalizing c with
  | nil =>
    have hend : ([')'] : List Char).head? ≠ some '\'' := by decide
    rw [List.map_singleton, String.intercalate_singleton,
      readClauses?_of_readClause? (readClause?_sql c hend)]
    rfl
  | cons d cs ih =>
    let more := (" OR ".intercalate ((d :: cs).map PositionClause.sql)).toList ++ [')']
    have hend : (" OR ".toList ++ more).head? ≠ some '\'' := by simp
    have htext : (" OR ".intercalate ((c :: d :: cs).map PositionClause.sql)).toList ++ [')'] =
        c.sql.toList ++ (" OR ".toList ++ more) := by
      rw [List.map_cons, List.map_cons, String.intercalate_cons_cons, ← List.map_cons,
        String.toList_append, String.toList_append, List.append_assoc, List.append_assoc]
    rw [htext, readClauses?_of_readClause? (readClause?_sql c hend), isPrefixOf?_append]
    simp only [more, ih, Option.map_some]

/-- Every filter that has clauses is read as these. -/
theorem read?_sql {f : PositionFilter} (hf : f.clauses ≠ []) : read? f.sql = some f.clauses := by
  obtain ⟨c, cs, hclauses⟩ := List.exists_cons_of_ne_nil hf
  have hsql : f.sql.toList = ['('] ++
      ((" OR ".intercalate ((c :: cs).map PositionClause.sql)).toList ++ [')']) := by
    rw [sql, isEmpty, hclauses]
    simp
  rw [read?, hsql, isPrefixOf?_append, Option.bind_eq_bind, Option.bind_some,
    readClauses?_intercalate, hclauses]
  rfl

/-- Filters with the same text are the same. -/
theorem sql_injective {f g : PositionFilter} (h : f.sql = g.sql) : f = g := by
  obtain ⟨clauses⟩ := f
  obtain ⟨others⟩ := g
  have hnone : read? (sql ⟨[]⟩) = none := rfl
  rcases eq_or_ne clauses [] with rfl | hclauses
  · rcases eq_or_ne others [] with rfl | hothers
    · rfl
    · rw [h, read?_sql hothers] at hnone
      cases hnone
  · have hread := read?_sql (f := ⟨clauses⟩) hclauses
    rcases eq_or_ne others [] with rfl | hothers
    · rw [h, hnone] at hread
      cases hread
    · rw [h, read?_sql (f := ⟨others⟩) hothers] at hread
      exact congrArg mk (Option.some.inj hread).symm

/-! ## The filter for a player -/

theorem map_seat_ofSeats (seats : List Nat) (player : String) :
    (ofSeats seats player).clauses.map (·.seat) = seats := by
  rw [ofSeats, List.map_map]
  exact List.map_id seats

theorem player_of_mem_ofSeats {seats : List Nat} {player : String} {c : PositionClause}
    (h : c ∈ (ofSeats seats player).clauses) : c.player = player := by
  obtain ⟨n, -, rfl⟩ := List.mem_map.1 h
  rfl

/-- The filter for a player on a set of seats is `FALSE` if there are none. Otherwise its text is
    read to its end, as one clause for each seat in increasing order, and the literal of each is
    the player's name, whatever characters that is made of. So other seats have another text, and
    so has another player if there is any seat. -/
theorem sql_readsBack {seats : List Nat} (hseats : seats.Pairwise (· < ·)) (player : String) :
    (seats = [] → (ofSeats seats player).sql = "FALSE") ∧
    (seats ≠ [] → ∃ clauses, read? (ofSeats seats player).sql = some clauses ∧
      clauses.map (·.seat) = seats ∧ (clauses.map (·.seat)).Pairwise (· < ·) ∧
      ∀ c ∈ clauses, c.player = player) ∧
    ∀ others name, (ofSeats seats player).sql = (ofSeats others name).sql →
      seats = others ∧ (seats ≠ [] → player = name) := by
  refine ⟨fun h => ?_, fun h => ?_, fun others name hsql => ?_⟩
  · rw [h]
    rfl
  · have hclauses : (ofSeats seats player).clauses ≠ [] := by simpa [ofSeats] using h
    have hmap := map_seat_ofSeats seats player
    exact ⟨_, read?_sql hclauses, hmap, hmap.symm ▸ hseats, fun c => player_of_mem_ofSeats⟩
  · have hfilter : ofSeats seats player = ofSeats others name := sql_injective hsql
    have hothers : seats = others := by
      rw [← map_seat_ofSeats seats player, hfilter, map_seat_ofSeats]
    refine ⟨hothers, fun h => ?_⟩
    obtain ⟨n, hn⟩ := List.exists_mem_of_ne_nil seats h
    have hmem : (⟨n, player⟩ : PositionClause) ∈ (ofSeats seats player).clauses :=
      List.mem_map.2 ⟨n, hn, rfl⟩
    rw [hfilter] at hmem
    exact player_of_mem_ofSeats hmem

/-- A name that ends its literal, begins another clause and closes the filter is read as a name,
    and filters for names of one and of two quotes differ. -/
theorem sql_readsBack_quoted :
    (ofSeats [10] "x' OR positions->>'3' = 'y')").sql =
        "(positions->>'10' = 'x'' OR positions->>''3'' = ''y'')')" ∧
      (∃ clauses, read? (ofSeats [2, 10] "x' OR positions->>'3' = 'y')").sql = some clauses ∧
        clauses.map (·.seat) = [2, 10] ∧ ∀ c ∈ clauses, c.player = "x' OR positions->>'3' = 'y')") ∧
      (ofSeats [2, 10] "'").sql ≠ (ofSeats [2, 10] "''").sql := by
  have hseats : [2, 10].Pairwise (· < ·) := by decide
  obtain ⟨clauses, hread, hmap, -, hplayer⟩ :=
    (sql_readsBack hseats "x' OR positions->>'3' = 'y')").2.1 (by decide)
  have hname := fun h => ((sql_readsBack hseats "'").2.2 [2, 10] "''" h).2 (by decide)
  exact ⟨by decide +kernel, ⟨clauses, hread, hmap, hplayer⟩, fun h => absurd (hname h) (by decide)⟩

end HandStudy.PositionFilter
