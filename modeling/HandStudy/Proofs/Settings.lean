import HandStudy.Proofs.Cli.Transcript
import HandStudy.Proofs.Decode
import HandStudy.Proofs.Text.Blank

/-!
# Where settings come from

A setting is given by its variable, unless that is empty, or else by the configuration file, or else
it has its default, and each is found by itself (`Settings.Chosen`). Loading succeeds exactly if the
file can be read, the variable for the seats is the number of a byte, and the values that count in
the end are allowed (`Settings.load_eq_ok_iff`); values that do not count are not looked at.
-/

namespace HandStudy

/-! ## Variables -/

namespace Environment

variable {setting : Option String} {t : String}

/-- The variable is not set, or it is empty. -/
def Unset (setting : Option String) : Prop :=
  ∀ t, setting = some t → t = ""

theorem value?_eq_some_iff : value? setting = some t ↔ setting = some t ∧ t ≠ "" := by
  simp [value?, Option.filter_eq_some_iff]

theorem value?_eq_none_iff : value? setting = none ↔ Unset setting := by
  simp [value?, Option.filter_eq_none_iff, Unset]

end Environment

namespace Settings

open Environment

/-! ## Numbers of one byte -/

/-- The text is this number of one byte in decimal digits, with a plus sign in front or without. -/
def Denotes (t : String) (n : Nat) : Prop :=
  n < 256 ∧ ∃ digits, digits ≠ [] ∧ (∀ c ∈ digits, c.isDigit) ∧
    (t.toList = digits ∨ t.toList = '+' :: digits) ∧ Nat.ofDigitChars 10 digits 0 = n

/-- The characters behind a plus sign, or all if there is none. -/
def unsigned : List Char → List Char
  | '+' :: cs => cs
  | cs => cs

theorem unsigned_eq_iff {cs digits : List Char} (h : ∀ c ∈ digits, c.isDigit) :
    unsigned cs = digits ↔ cs = digits ∨ cs = '+' :: digits := by
  have hplus : ∀ ds, '+' :: ds ≠ digits := by
    rintro ds rfl
    exact absurd (h '+' List.mem_cons_self) (by decide)
  fun_cases unsigned cs with
  | case1 ds => simp [hplus]
  | case2 cs hcs => exact (or_iff_left (hcs digits)).symm

theorem readByte_eq_some_iff {t : String} {n : Nat} : readByte t = some n ↔ Denotes t n := by
  have hread : readByte t = some n ↔ n < 256 ∧ unsigned t.toList ≠ [] ∧
      (∀ c ∈ unsigned t.toList, c.isDigit) ∧ Nat.ofDigitChars 10 (unsigned t.toList) 0 = n := by
    have hdef : readByte t =
        if (unsigned t.toList).isEmpty || !(unsigned t.toList).all Char.isDigit then none
        else if Json.digitsValue (unsigned t.toList) < 256
          then some (Json.digitsValue (unsigned t.toList)) else none := rfl
    have hvalue : Json.digitsValue (unsigned t.toList) =
        Nat.ofDigitChars 10 (unsigned t.toList) 0 := by
      rw [Nat.ofDigitChars_eq_foldl]
      rfl
    rw [hdef, hvalue, ← List.all_eq_true]
    rw [Option.ite_none_left_eq_some, Option.ite_none_right_eq_some, Bool.or_eq_true,
      List.isEmpty_iff, Bool.not_eq_true', not_or, Bool.not_eq_false, Option.some_inj]
    constructor
    · rintro ⟨⟨hne, hdigits⟩, hlt, rfl⟩
      exact ⟨hlt, hne, hdigits, rfl⟩
    · rintro ⟨hlt, hne, hdigits, rfl⟩
      exact ⟨⟨hne, hdigits⟩, hlt, rfl⟩
  rw [hread, Denotes]
  refine and_congr_right fun _ => ⟨?_, ?_⟩
  · rintro ⟨hne, hdigits, hn⟩
    exact ⟨_, hne, hdigits, (unsigned_eq_iff hdigits).1 rfl, hn⟩
  · rintro ⟨digits, hne, hdigits, ht, hn⟩
    obtain rfl := (unsigned_eq_iff hdigits).2 ht
    exact ⟨hne, hdigits, hn⟩

/-! ## Layers -/

section Layers

variable {α : Type} {reads : String → α → Prop} {setting : Option String} {inFile given : Option α}
  {default : α} {l : Layered α}

/-- What a setting is, and where it comes from: the value of its variable, or else the one in the
    file, or else its default. -/
inductive Chosen (reads : String → α → Prop) (setting : Option String) (inFile : Option α)
    (default : α) : Layered α → Prop
  | environment {t : String} {a : α} : setting = some t → t ≠ "" → reads t a →
      Chosen reads setting inFile default ⟨a, .environment⟩
  | file {a : α} : Unset setting → inFile = some a → Chosen reads setting inFile default ⟨a, .file⟩
  | default : Unset setting → inFile = none →
      Chosen reads setting inFile default ⟨default, .default⟩

/-- The value of a variable, unless it is unset. -/
inductive Given (reads : String → α → Prop) (setting : Option String) : Option α → Prop
  | unset : Unset setting → Given reads setting none
  | set {t : String} {a : α} : setting = some t → t ≠ "" → reads t a → Given reads setting (some a)

theorem chosen_iff :
    Chosen reads setting inFile default l ↔
      ∃ given, Given reads setting given ∧ choose given inFile default = l := by
  constructor
  · intro h
    cases h with
    | environment hset hne hreads => exact ⟨_, .set hset hne hreads, rfl⟩
    | file hunset hfile =>
      subst hfile
      exact ⟨none, .unset hunset, rfl⟩
    | default hunset hfile =>
      subst hfile
      exact ⟨none, .unset hunset, rfl⟩
  · rintro ⟨given, hgiven, rfl⟩
    cases hgiven with
    | unset hunset =>
      cases hfile : inFile with
      | none => exact .default hunset rfl
      | some a => exact .file hunset rfl
    | set hset hne hreads => exact .environment hset hne hreads

/-- A variable whose text is taken as it is. -/
theorem given_iff_map {f : String → α} :
    Given (fun t a => a = f t) setting given ↔ (value? setting).map f = given := by
  constructor
  · intro h
    cases h with
    | unset hunset => rw [value?_eq_none_iff.2 hunset, Option.map_none]
    | set hset hne ha => rw [value?_eq_some_iff.2 ⟨hset, hne⟩, Option.map_some, ha]
  · rintro rfl
    cases ht : value? setting with
    | none => exact .unset (value?_eq_none_iff.1 ht)
    | some t =>
      obtain ⟨hset, hne⟩ := value?_eq_some_iff.1 ht
      exact .set hset hne rfl

/-- There is a value to choose unless the text of the variable has none. -/
theorem exists_chosen_iff : (∃ l, Chosen reads setting inFile default l) ↔
    ∀ t, setting = some t → t ≠ "" → ∃ a, reads t a := by
  constructor
  · rintro ⟨l, hl⟩ t hset hne
    cases hl with
    | environment hset' _ hreads =>
      obtain rfl := Option.some.inj (hset.symm.trans hset')
      exact ⟨_, hreads⟩
    | file hunset _ => exact absurd (hunset t hset) hne
    | default hunset _ => exact absurd (hunset t hset) hne
  · intro h
    cases ht : value? setting with
    | none => exact ⟨_, chosen_iff.2 ⟨none, .unset (value?_eq_none_iff.1 ht), rfl⟩⟩
    | some t =>
      obtain ⟨hset, hne⟩ := value?_eq_some_iff.1 ht
      obtain ⟨a, ha⟩ := h t hset hne
      exact ⟨_, .environment hset hne ha⟩

/-- If a text has no more than one value, no more than one is chosen. -/
theorem Chosen.eq (hreads : ∀ t a b, reads t a → reads t b → a = b)
    (h : Chosen reads setting inFile default l) {l' : Layered α}
    (h' : Chosen reads setting inFile default l') : l = l' := by
  obtain ⟨given, hgiven, rfl⟩ := chosen_iff.1 h
  obtain ⟨given', hgiven', rfl⟩ := chosen_iff.1 h'
  cases hgiven with
  | unset hunset =>
    cases hgiven' with
    | unset _ => rfl
    | set hset hne _ => exact absurd (hunset _ hset) hne
  | set hset hne ha =>
    cases hgiven' with
    | unset hunset => exact absurd (hunset _ hset) hne
    | set hset' _ hb =>
      obtain rfl := Option.some.inj (hset.symm.trans hset')
      rw [hreads _ _ _ ha hb]

end Layers

/-- What the file says that is named in the environment, or nothing if none is named. -/
inductive FileOf (env : Environment) (text : String → Option String) : FileSettings → Prop
  | unnamed : Unset env.config → FileOf env text {}
  | named {path content : String} {file : FileSettings} : env.config = some path → path ≠ "" →
      text path = some content → FileSettings.read content = some file → FileOf env text file

variable {env : Environment} {text : String → Option String} {file : FileSettings}

theorem loadFile_eq_ok_iff : loadFile env text = .ok file ↔ FileOf env text file := by
  rw [loadFile]
  constructor
  · intro h
    split at h
    · rename_i hconfig
      obtain rfl := Except.ok.inj h
      exact .unnamed (value?_eq_none_iff.1 hconfig)
    · rename_i path hconfig
      obtain ⟨hset, hne⟩ := value?_eq_some_iff.1 hconfig
      split at h
      · rename_i file' hread
        obtain rfl := Except.ok.inj h
        obtain ⟨content, hcontent, hfile⟩ := Option.bind_eq_some_iff.1 hread
        exact .named hset hne hcontent hfile
      · cases h
  · intro h
    cases h with
    | unnamed hunset => rw [value?_eq_none_iff.2 hunset]
    | named hset hne hcontent hfile =>
      simp only [value?_eq_some_iff.2 ⟨hset, hne⟩, hcontent, hfile, Option.bind_some]

theorem FileOf.eq (h : FileOf env text file) {file' : FileSettings} (h' : FileOf env text file') :
    file = file' :=
  Except.ok.inj ((loadFile_eq_ok_iff.2 h).symm.trans (loadFile_eq_ok_iff.2 h'))

theorem exists_fileOf_iff : (∃ file, FileOf env text file) ↔ ∀ path, env.config = some path →
    path ≠ "" → ∃ content file, text path = some content ∧
      FileSettings.read content = some file := by
  constructor
  · rintro ⟨file, hfile⟩ path hset hne
    cases hfile with
    | unnamed hunset => exact absurd (hunset path hset) hne
    | named hset' _ hcontent hread =>
      obtain rfl := Option.some.inj (hset.symm.trans hset')
      exact ⟨_, _, hcontent, hread⟩
  · intro h
    cases hpath : value? env.config with
    | none => exact ⟨{}, .unnamed (value?_eq_none_iff.1 hpath)⟩
    | some path =>
      obtain ⟨hset, hne⟩ := value?_eq_some_iff.1 hpath
      obtain ⟨content, file, hcontent, hread⟩ := h path hset hne
      exact ⟨file, .named hset hne hcontent hread⟩

theorem loadSeats_eq_ok_iff {seats : Option Nat} :
    loadSeats env = .ok seats ↔ Given Denotes env.seats seats := by
  rw [loadSeats]
  constructor
  · intro h
    split at h
    · rename_i hseats
      obtain rfl := Except.ok.inj h
      exact .unset (value?_eq_none_iff.1 hseats)
    · rename_i t hseats
      obtain ⟨hset, hne⟩ := value?_eq_some_iff.1 hseats
      split at h
      · rename_i n hread
        obtain rfl := Except.ok.inj h
        exact .set hset hne (readByte_eq_some_iff.1 hread)
      · cases h
  · intro h
    cases h with
    | unset hunset => rw [value?_eq_none_iff.2 hunset]
    | set hset hne hreads =>
      simp only [value?_eq_some_iff.2 ⟨hset, hne⟩, readByte_eq_some_iff.2 hreads]

/-- The settings are those that count, each of them from its own layer. -/
structure FromLayers (env : Environment) (file : FileSettings) (s : Settings) : Prop where
  library : Chosen (fun t a => a = t) env.library file.library "data/library.sqlite" s.library
  seats : Chosen Denotes env.seats file.seats 6 s.seats
  hero : Chosen (fun t a => a = some t) env.hero (file.hero.map some) none s.hero

/-- The values that count in the end are allowed. -/
structure Allowed (s : Settings) : Prop where
  least : 2 ≤ s.seats.value
  most : s.seats.value ≤ 9
  library : ¬ Text.Blank s.library.value.toList

variable {s t : Settings}

theorem exists_fromLayers_iff : (∃ s, FromLayers env file s) ↔
    ∀ t, env.seats = some t → t ≠ "" → ∃ n, Denotes t n := by
  constructor
  · rintro ⟨s, hs⟩
    exact exists_chosen_iff.1 ⟨_, hs.seats⟩
  · intro h
    obtain ⟨library, hlibrary⟩ : ∃ library, Chosen (fun t a => a = t) env.library file.library
        "data/library.sqlite" library := exists_chosen_iff.2 fun t _ _ => ⟨t, rfl⟩
    obtain ⟨seats, hseats⟩ : ∃ seats, Chosen Denotes env.seats file.seats 6 seats :=
      exists_chosen_iff.2 h
    obtain ⟨hero, hhero⟩ : ∃ hero, Chosen (fun t a => a = some t) env.hero (file.hero.map some)
        none hero := exists_chosen_iff.2 fun t _ _ => ⟨some t, rfl⟩
    exact ⟨⟨library, seats, hero⟩, hlibrary, hseats, hhero⟩

theorem FromLayers.eq (h : FromLayers env file s) (h' : FromLayers env file t) : s = t := by
  have hdenotes : ∀ t m n, Denotes t m → Denotes t n → m = n := fun t m n hm hn =>
    Option.some.inj ((readByte_eq_some_iff.2 hm).symm.trans (readByte_eq_some_iff.2 hn))
  obtain ⟨library, seats, hero⟩ := s
  obtain rfl := h.library.eq (fun _ _ _ ha hb => ha.trans hb.symm) h'.library
  obtain rfl := h.seats.eq hdenotes h'.seats
  obtain rfl := h.hero.eq (fun _ _ _ ha hb => ha.trans hb.symm) h'.hero
  rfl

/-! ## Loading -/

/-- The settings are looked at once they are complete. -/
theorem check_eq_ok_iff {s t : Settings} :
    (if !seatsAllowed t.seats.value then .error .seatsOutOfRange
      else if (Text.trim? t.library.value).isNone then .error .noLibrary
      else return t : Except SettingsError Settings) = .ok s ↔ t = s ∧ s.Allowed := by
  have hseats : (!seatsAllowed t.seats.value) = true ↔
      ¬ (2 ≤ t.seats.value ∧ t.seats.value ≤ 9) := by
    rw [seatsAllowed, Bool.not_eq_true', ← Bool.not_eq_true, Bool.and_eq_true, decide_eq_true_iff,
      decide_eq_true_iff]
  have hlibrary : (Text.trim? t.library.value).isNone ↔ Text.Blank t.library.value.toList := by
    rw [Option.isNone_iff_eq_none, Text.trim?_eq_none_iff]
  simp only [hseats, hlibrary]
  constructor
  · intro h
    split at h
    · cases h
    · rename_i hrange
      split at h
      · cases h
      · rename_i hnonblank
        obtain rfl := Except.ok.inj h
        obtain ⟨hleast, hmost⟩ := not_not.1 hrange
        exact ⟨rfl, hleast, hmost, hnonblank⟩
  · rintro ⟨rfl, hleast, hmost, hnonblank⟩
    rw [if_neg (not_not_intro ⟨hleast, hmost⟩), if_neg hnonblank]
    rfl

theorem load_eq_ok_iff : load env text = .ok s ↔
    ∃ file, FileOf env text file ∧ FromLayers env file s ∧ s.Allowed := by
  have hload : load env text = .ok s ↔ ∃ file, loadFile env text = .ok file ∧
      ∃ seats, loadSeats env = .ok seats ∧
        choose (value? env.library) file.library defaultLibrary = s.library ∧
        choose seats file.seats usualSeats = s.seats ∧
        choose ((value? env.hero).map some) (file.hero.map some) none = s.hero ∧ s.Allowed := by
    rw [load, Decode.bind_eq_ok_iff]
    refine exists_congr fun file => and_congr_right fun _ => ?_
    rw [Decode.bind_eq_ok_iff]
    refine exists_congr fun seats => and_congr_right fun _ => ?_
    rw [check_eq_ok_iff]
    obtain ⟨library, seats', hero⟩ := s
    simp only [mk.injEq, and_assoc]
  rw [hload]
  refine exists_congr fun file => ?_
  rw [loadFile_eq_ok_iff]
  refine and_congr_right fun _ => ?_
  constructor
  · rintro ⟨seats, hgiven, hlibrary, hseats, hhero, hallowed⟩
    refine ⟨⟨?_, ?_, ?_⟩, hallowed⟩
    · exact chosen_iff.2 ⟨_, (given_iff_map (f := fun t => t)).2 Option.map_id', hlibrary⟩
    · exact chosen_iff.2 ⟨seats, loadSeats_eq_ok_iff.1 hgiven, hseats⟩
    · exact chosen_iff.2 ⟨_, given_iff_map.2 rfl, hhero⟩
  · rintro ⟨⟨hlibrary, hseats, hhero⟩, hallowed⟩
    obtain ⟨library, hgiven, hlibrary⟩ := chosen_iff.1 hlibrary
    obtain rfl := Option.map_id'.symm.trans ((given_iff_map (f := fun t => t)).1 hgiven)
    obtain ⟨hero, hgiven, hhero⟩ := chosen_iff.1 hhero
    obtain rfl := given_iff_map.1 hgiven
    obtain ⟨seats, hgiven, hseats⟩ := chosen_iff.1 hseats
    exact ⟨seats, loadSeats_eq_ok_iff.2 hgiven, hlibrary, hseats, hhero, hallowed⟩

/-- There are settings if the file that is named can be read, the seats in the environment are the
    number of a byte, and the values that count are allowed. -/
theorem exists_load_iff : (∃ s, load env text = .ok s) ↔
    (∀ path, env.config = some path → path ≠ "" →
      ∃ content file, text path = some content ∧ FileSettings.read content = some file) ∧
    (∀ t, env.seats = some t → t ≠ "" → ∃ n, Denotes t n) ∧
    ∀ file s, FileOf env text file → FromLayers env file s → s.Allowed := by
  simp only [load_eq_ok_iff]
  constructor
  · rintro ⟨s, file, hfile, hs, hallowed⟩
    refine ⟨exists_fileOf_iff.1 ⟨file, hfile⟩, exists_fromLayers_iff.1 ⟨s, hs⟩, ?_⟩
    intro file' s' hfile' hs'
    obtain rfl := hfile.eq hfile'
    exact hs.eq hs' ▸ hallowed
  · rintro ⟨hnamed, hgiven, hallowed⟩
    obtain ⟨file, hfile⟩ := exists_fileOf_iff.2 hnamed
    obtain ⟨s, hs⟩ := exists_fromLayers_iff.2 hgiven
    exact ⟨s, file, hfile, hs, hallowed file s hfile hs⟩

/-- A variable that is empty is as good as none. -/
theorem load_filter (env : Environment) (text : String → Option String) :
    load ⟨value? env.config, value? env.library, value? env.seats, value? env.hero⟩ text =
      load env text := by
  have hfilter (setting : Option String) : value? (value? setting) = value? setting := by
    rw [value?, value?, Option.filter_filter]
    simp
  rw [load, load, loadFile, loadFile, loadSeats, loadSeats]
  simp only [hfilter]

/-- Seats in the file do not matter if there are some in the environment. -/
theorem load_seats_eq {t : String} (hset : env.seats = some t) (hne : t ≠ "")
    {text' : String → Option String} {m : Option Nat} (h : FileOf env text file)
    (h' : FileOf env text' { file with seats := m }) : load env text' = load env text := by
  rw [load, load, loadFile_eq_ok_iff.2 h, loadFile_eq_ok_iff.2 h']
  cases hseats : loadSeats env with
  | error e => rfl
  | ok seats =>
    cases loadSeats_eq_ok_iff.1 hseats with
    | unset hunset => exact absurd (hunset t hset) hne
    | set => rfl

/-- Settings come from three layers. There are some exactly if the file that is named, if one is, can
    be read, the seats in the environment, if there are some, are the number of a byte, and the
    values that count in the end are allowed: two to nine seats, and a path that is not blank. Each
    value is the one of its variable if that is not empty, or else the one in the file, or else its
    default, and is shown with the name of the layer that it is from. So seats in the file do not
    matter if there are some in the environment, and a variable that is empty is as good as none. -/
theorem load_layered [Dialect] (env : Environment) (text : String → Option String) :
    ((∃ s, load env text = .ok s) ↔
      (∀ path, env.config = some path → path ≠ "" →
        ∃ content file, text path = some content ∧ FileSettings.read content = some file) ∧
      (∀ t, env.seats = some t → t ≠ "" → ∃ n, Denotes t n) ∧
      ∀ file s, FileOf env text file → FromLayers env file s → s.Allowed) ∧
    (∀ s, load env text = .ok s ↔
      ∃ file, FileOf env text file ∧ FromLayers env file s ∧ s.Allowed) ∧
    (∀ t, env.seats = some t → t ≠ "" → ∀ file m text', FileOf env text file →
      FileOf env text' { file with seats := m } → load env text' = load env text) ∧
    load ⟨env.config.filter (· ≠ ""), env.library.filter (· ≠ ""), env.seats.filter (· ≠ ""),
      env.hero.filter (· ≠ "")⟩ text = load env text ∧
    (∀ arguments w, Cli.Invocation.ofArguments arguments = .run .settings →
      (∀ s, load env w.plainText? = .ok s → (Cli.run {} env arguments w).1 =
        ⟨0, [.block (.obj
          [("hero_name", .obj
            [("source", .str s.hero.layer.name), ("value", .ofOption .str s.hero.value)]),
           ("library_path", .obj
            [("source", .str s.library.layer.name), ("value", .str s.library.value)]),
           ("position_count", .obj
            [("source", .str s.seats.layer.name), ("value", .int s.seats.value)])])], []⟩) ∧
      ∀ e, load env w.plainText? = .error e →
        (Cli.run {} env arguments w).1 = ⟨2, [], [.failure (.settings e)]⟩) := by
  refine ⟨exists_load_iff, fun s => load_eq_ok_iff,
    fun t hset hne file m text' h h' => load_seats_eq hset hne h h', load_filter env text,
    fun arguments w harguments => ?_⟩
  rw [Cli.run_open harguments, Cli.Command.transcript, Cli.settingsTranscript, Cli.loadSettings]
  constructor
  · intro s hs
    rw [hs]
    rfl
  · intro e he
    rw [he]
    rfl

/-- A configuration file in which so many seats are given. -/
def configured (seats : String) : Workspace where
  files := [(["librarian.toml"], .text
    ("library_path = \"lib.db\"\nposition_count = " ++ seats ++ "\nhero_name = \"Ada\"\n"))]

/-- An environment in which the file is named, the seats are given, and the library is empty. -/
def partlySet : Environment where
  config := some "librarian.toml"
  library := some ""
  seats := some "+7"

theorem load_layered_outOfRange :
    (∃ s, load partlySet (configured "200").plainText? = .ok s ∧ s.library = ⟨"lib.db", .file⟩ ∧
      s.seats = ⟨7, .environment⟩ ∧ s.hero = ⟨some "Ada", .file⟩) ∧
    load partlySet (configured "3").plainText? = load partlySet (configured "200").plainText? ∧
    (¬ ∃ s, load { partlySet with seats := none } (configured "200").plainText? = .ok s) ∧
    (Cli.run {} partlySet ["cfg"] (configured "200")).1.code = 0 := by
  have hfile (env : Environment) (henv : env.config = some "librarian.toml") : FileOf env
      (configured "200").plainText? ⟨some "lib.db", some 200, some "Ada"⟩ :=
    .named henv (by decide) rfl (by decide +kernel)
  have hfile' : FileOf partlySet (configured "3").plainText?
      ⟨some "lib.db", some 3, some "Ada"⟩ := .named rfl (by decide) rfl (by decide +kernel)
  have hlibrary : Unset (some "") := fun _ ht => (Option.some.inj ht).symm
  have hunset : Unset none := fun _ ht => absurd ht (Option.some_ne_none _).symm
  have hseven : Denotes "+7" 7 :=
    ⟨by decide, ['7'], by decide, List.all_eq_true.1 (by decide), .inr rfl, rfl⟩
  have hblank : ¬ Text.Blank "lib.db".toList := fun hblank =>
    Bool.false_ne_true (hblank 'l' List.mem_cons_self)
  obtain ⟨-, hok, hoverridden, -, hreport⟩ :=
    load_layered partlySet (configured "200").plainText?
  have hs := (hok ⟨⟨"lib.db", .file⟩, ⟨7, .environment⟩, ⟨some "Ada", .file⟩⟩).2
    ⟨_, hfile _ rfl, ⟨.file hlibrary rfl, .environment rfl (by decide) hseven, .file hunset rfl⟩,
      ⟨by decide, by decide, hblank⟩⟩
  refine ⟨⟨_, hs, rfl, rfl, rfl⟩,
    hoverridden "+7" rfl (by decide) _ (some 3) _ (hfile _ rfl) hfile', ?_, ?_⟩
  · intro hloads
    obtain ⟨-, -, hallowed⟩ := (load_layered { partlySet with seats := none } _).1.1 hloads
    have := (hallowed _ ⟨⟨"lib.db", .file⟩, ⟨200, .file⟩, ⟨some "Ada", .file⟩⟩ (hfile _ rfl)
      ⟨.file hlibrary rfl, .file hunset rfl, .file hunset rfl⟩).most
    exact absurd this (by decide)
  · rw [(hreport ["cfg"] (configured "200") rfl).1 _ hs]

end Settings

end HandStudy
