import NoteDesk.Config
import NoteDesk.Proofs.Holding
import NoteDesk.Proofs.JsonText

/-!
# Configurations come back

A configuration that was saved is loaded as it was, and one that someone else wrote need not be
complete.

* `Config.Setting` is one field of a configuration as someone may write it, or a field that no
  configuration has. `Config.ofSettings` is the configuration that some settings make, with the
  default for everything else.
* `Config.ofJson_settings`: an object of settings is read as that configuration, in whatever order
  they stand.
* `Config.load_saved_and_written` is the main result: the configuration saved, and any text with an
  object of settings. No search may ask for nothing.
-/

namespace NoteDesk

/-- Where the file is written. -/
def Directory.Writable (data : Directory Bytes) (name : String) : Prop :=
  data ≠ .plainFile ∧ data.find? name ≠ some .folder

namespace Config

/-- The names of the fields. -/
def keys : List String :=
  ["editor", "search_count", "cache_dir"]

/-- One field, given or not known. -/
inductive Setting where
  | editor (x : Option String)
  | searchCount (n : UInt64)
  | cacheDir (x : Option String)
  | unknown (name : String) (h : name ∉ keys) (x : String)

namespace Setting

def key : Setting → String
  | editor _ => "editor"
  | searchCount _ => "search_count"
  | cacheDir _ => "cache_dir"
  | unknown name _ _ => name

def toJson : Setting → Json
  | editor x => optional x
  | searchCount n => .integer n.toNat
  | cacheDir x => optional x
  | unknown _ _ x => .ofString x

def field (s : Setting) : Json × Json :=
  Json.field s.key s.toJson

/-- The configuration with the setting in its place. -/
def into (s : Setting) (c : Config) : Config :=
  match s with
  | editor x => { c with editor := x }
  | searchCount n => { c with searchCount := n }
  | cacheDir x => { c with cacheDir := x }
  | unknown _ _ _ => c

/-- The fields read so far, with the setting among them. -/
def among (s : Setting) (p : Part) : Part :=
  match s with
  | editor x => { p with editor := some x }
  | searchCount n => { p with searchCount := some n }
  | cacheDir x => { p with cacheDir := some x }
  | unknown _ _ _ => p

end Setting

/-- The configuration that settings make. What is not given has its default. -/
def ofSettings (settings : List Setting) : Config :=
  settings.foldl (fun c s => s.into c) {}

/-- No known field is given twice. -/
def GivenOnce (settings : List Setting) : Prop :=
  settings.Pairwise fun s t => s.key = t.key → s.key ∉ keys

/-! ## Reading settings -/

theorem asOption_optional (x : Option String) : (optional x).asOption Json.asText = .ok x := by
  cases x with
  | none => rfl
  | some x => exact congrArg (Except.map some) (Json.asText_ofString x)

theorem asInteger_searchCount (n : UInt64) :
    (Json.integer n.toNat).asInteger 0 maxCount = .ok (n.toNat : Int) := by
  have bound := n.toNat_lt
  exact if_pos ⟨by omega, by rw [maxCount]; omega⟩

section Reading

variable {s : Setting} {settings : List Setting} {p : Part} {c : Config} {key : String}

/-- A setting is read into its place, unless its field was given before. -/
theorem readFields_setting (fresh : s.key ∈ keys → p.given s.key = false)
    (rest : List (Json × Json)) :
    Json.readFields shape p (s.field :: rest) = Json.readFields shape (s.among p) rest := by
  cases s with
  | editor x =>
    have given : p.given "editor" = false := fresh (by simp [keys, Setting.key])
    exact Json.readFields_field rfl given (Json.set_ok (asOption_optional x) _) rest
  | searchCount n =>
    have given : p.given "search_count" = false := fresh (by simp [keys, Setting.key])
    have same : UInt64.ofNat (n.toNat : Int).toNat = n := by
      rw [Int.toNat_natCast, UInt64.ofNat_toNat]
    have set := Json.set_ok (asInteger_searchCount n)
      fun count => ({ p with searchCount := some (.ofNat count.toNat) } : Part)
    rw [same] at set
    exact Json.readFields_field rfl given set rest
  | cacheDir x =>
    have given : p.given "cache_dir" = false := fresh (by simp [keys, Setting.key])
    exact Json.readFields_field rfl given (Json.set_ok (asOption_optional x) _) rest
  | unknown name h x =>
    have other : shape.names.any (·.1 == name) = false := by
      simp only [keys, List.mem_cons, List.not_mem_nil, or_false, not_or] at h
      simp [shape, Ne.symm h.1, Ne.symm h.2.1, Ne.symm h.2.2]
    rw [Setting.field, Json.field, Json.readFields, String.ofList_toList]
    simp only [Setting.key, other]
    rfl

/-- A setting does not count as another one. -/
theorem given_among (apart : s.key = key → s.key ∉ keys) (known : key ∈ keys)
    (fresh : p.given key = false) : (s.among p).given key = false := by
  simp only [keys, List.mem_cons, List.not_mem_nil, or_false] at known
  cases s with
  | unknown _ _ _ => exact fresh
  | editor x =>
    obtain rfl | rfl | rfl := known
    · exact absurd (by simp [keys, Setting.key]) (apart rfl)
    · exact fresh
    · exact fresh
  | searchCount n =>
    obtain rfl | rfl | rfl := known
    · exact fresh
    · exact absurd (by simp [keys, Setting.key]) (apart rfl)
    · exact fresh
  | cacheDir x =>
    obtain rfl | rfl | rfl := known
    · exact fresh
    · exact fresh
    · exact absurd (by simp [keys, Setting.key]) (apart rfl)

theorem readFields_settings (once : GivenOnce settings)
    (fresh : ∀ s ∈ settings, s.key ∈ keys → p.given s.key = false) :
    Json.readFields shape p (settings.map Setting.field) =
      .ok (settings.foldl (fun p s => s.among p) p) := by
  induction settings generalizing p with
  | nil => rfl
  | cons s settings ih =>
    obtain ⟨apart, once⟩ := List.pairwise_cons.1 once
    rw [List.map_cons, readFields_setting (fresh s List.mem_cons_self), List.foldl_cons]
    refine ih once fun t ht known => ?_
    exact given_among (apart t ht) known (fresh t (List.mem_cons_of_mem _ ht) known)

theorem finish_foldl_among (h : p.finish = .ok c) :
    (settings.foldl (fun p s => s.among p) p).finish =
      .ok (settings.foldl (fun c s => s.into c) c) := by
  induction settings generalizing p c with
  | nil => exact h
  | cons s settings ih =>
    obtain rfl := Except.ok.inj h
    exact ih (by cases s <;> rfl)

/-- **Settings are read in whatever order they stand.** -/
theorem ofJson_settings (once : GivenOnce settings) :
    ofJson (.object (settings.map Setting.field) none) = .ok (ofSettings settings) := by
  have nothing : ∀ s ∈ settings, s.key ∈ keys → ({} : Part).given s.key = false := by
    intro s _ known
    simp only [keys, List.mem_cons, List.not_mem_nil, or_false] at known
    obtain same | same | same := known <;> rw [same] <;> rfl
  have read := readFields_settings once nothing
  rw [ofJson, Json.asRecord]
  change (Json.readFields shape {} _ >>= _) = _
  rw [read]
  exact finish_foldl_among rfl

end Reading

/-! ## Saving and loading -/

section Loading

variable {data : Directory Bytes} {s : List Char}

/-- The settings that a configuration is saved as. -/
def settings (c : Config) : List Setting :=
  [.editor c.editor, .searchCount c.searchCount, .cacheDir c.cacheDir]

theorem givenOnce_settings (c : Config) : GivenOnce c.settings := by
  simp [GivenOnce, settings, Setting.key]

theorem ofSettings_settings (c : Config) : ofSettings c.settings = c :=
  rfl

/-- What a configuration is saved as is read as that configuration. -/
theorem ofJson_toJson (c : Config) : ofJson c.toJson = .ok c := by
  have read := ofJson_settings c.givenOnce_settings
  rwa [ofSettings_settings] at read

theorem plain_toJson (c : Config) : c.toJson.Plain := by
  have text (x : Option String) : (optional x).Plain := by cases x <;> trivial
  have count : (Json.integer c.searchCount.toNat).Plain := by
    have bound := c.searchCount.toNat_lt
    exact ⟨by omega, by omega⟩
  exact ⟨⟨trivial, text _, trivial, count, trivial, text _, trivial⟩, rfl⟩

theorem load_text (found : data.find? fileName = some (.file (Utf8.encode s))) :
    load data = (Json.decode ofJson s).mapError .stored >>= checked := by
  have text : data.readText? fileName = .ok (some s) := by
    simp [Directory.readText?, found, Utf8.decode?_encode]
  rw [load, text]
  rfl

/-- **Configurations come back**, unless their searches ask for nothing: what was saved is loaded,
wherever a file can be written, and no other file is changed; and of settings that someone else
wrote, in any order and with unknown ones among them, those that are missing have their defaults. -/
theorem load_saved_and_written :
    (∀ (c : Config) (data : Directory Bytes), data.Writable fileName →
      ∃ data', c.save data = .ok data' ∧
        load data' = (if c.searchCount = 0 then .error (.config .zeroSearchCount) else .ok c) ∧
        ∀ other, other ≠ fileName → data'.find? other = data.find? other) ∧
    ∀ {settings : List Setting} {before s after : List Char} {data : Directory Bytes},
      GivenOnce settings → Json.SpellsObject (settings.map Setting.field) s →
      Json.Spaces before → Json.Spaces after →
      data.find? fileName = some (.file (Utf8.encode (before ++ (s ++ after)))) →
        load data =
          if (ofSettings settings).searchCount = 0 then .error (.config .zeroSearchCount)
          else .ok (ofSettings settings) := by
  refine ⟨fun c data writable => ?_, fun once spelled hbefore hafter found => ?_⟩
  · obtain ⟨apart, free⟩ := writable
    obtain ⟨data', written, -⟩ :=
      Directory.write_ok apart free (Utf8.encode c.toJson.render)
    have view := Directory.find?_write written
    refine ⟨data', by rw [save, written]; rfl, ?_, fun other h => by rw [view, if_neg h]⟩
    rw [load_text (by rw [view, if_pos rfl]), Json.decode_render c.plain_toJson, ofJson_toJson]
    rfl
  · rw [load_text found, Json.decode_object spelled hbefore hafter, ofJson_settings once]
    rfl

/-- Settings without an editor. -/
def sparse : List Setting :=
  [.unknown "hue" (by decide) "x", .cacheDir (some "/é"), .unknown "hue" (by decide) "",
    .searchCount 7]

/-- The same with blanks and escapes. -/
def sparseText : List Char :=
  '\x7b' :: ([','].intercalate ["\"h\\u0075e\":\"x\"".toList,
    "\n\"cache_dir\" : \"\\/é\"".toList, " \"hue\":\"\"".toList,
    "\"search_count\":\t7 ".toList] ++ ['\x7d'])

theorem spells_sparse : Json.SpellsObject (sparse.map Setting.field) sparseText := by
  have plain (c : Char) (h : c ≠ '"' ∧ c ≠ '\\' ∧ 0x20 ≤ c.toNat) : Json.Escapes c [c] :=
    .plain h.1 h.2.1 h.2.2
  have hue := @Json.Spells.text "hue".toList [['h'], "\\u0075".toList, ['e']]
    (.cons (plain 'h' (by decide)) <| .cons (.unit (by decide) (by decide)) <|
      .cons (plain 'e' (by decide)) .nil)
  have folder := @Json.Spells.text "/é".toList ["\\/".toList, ['é']]
    (.cons (.letter (by decide)) <| .cons (plain 'é' (by decide)) .nil)
  have text (s : String) (h : s.toList.all fun c => c ≠ '"' ∧ c ≠ '\\' ∧ 0x20 ≤ c.toNat) :=
    Json.spells_unescaped fun c hc => of_decide_eq_true (List.all_eq_true.1 h c hc)
  have none : Json.Spaces [] := by simp [Json.Spaces]
  have blank (c : Char) (h : Json.isSpace c) : Json.Spaces [c] := by simpa [Json.Spaces] using h
  refine .fields (.cons (.intro hue (text "x" (by decide)) none none none none) <|
    .cons (.intro (text "cache_dir" (by decide)) folder (blank '\n' rfl) (blank ' ' rfl)
      (blank ' ' rfl) none) <|
    .cons (.intro (text "hue" (by decide)) (text "" (by decide)) (blank ' ' rfl) none none none) <|
    .cons (.intro (text "search_count" (by decide)) (@Json.Spells.integer 7 ⟨by decide, by decide⟩)
      none none (blank '\t' rfl) (blank ' ' rfl)) .nil) (List.cons_ne_nil _ _)

theorem load_saved_and_written_sparse :
    (∃ data', Directory.Writable .missing fileName ∧
      save { editor := some "vi \"é\" \\ 😀", searchCount := 0 } .missing = .ok data' ∧
      load data' = .error (.config .zeroSearchCount)) ∧
    GivenOnce sparse ∧
    load (.holding [(fileName, .file (Utf8.encode (" ".toList ++ (sparseText ++ "\n".toList))))]) =
      .ok { cacheDir := some "/é", searchCount := 7 } := by
  have writable : Directory.Writable (.missing : Directory Bytes) fileName := by
    simp [Directory.Writable, Directory.find?, Directory.entries]
  have once : GivenOnce sparse := by simp [GivenOnce, sparse, Setting.key, keys]
  have blank (c : Char) (h : Json.isSpace c) : Json.Spaces [c] := by simpa [Json.Spaces] using h
  obtain ⟨data', saved, loaded, -⟩ := load_saved_and_written.1
    { editor := some "vi \"é\" \\ 😀", searchCount := 0 } .missing writable
  refine ⟨⟨data', writable, saved, loaded⟩, once, ?_⟩
  exact load_saved_and_written.2 once spells_sparse (blank ' ' rfl) (blank '\n' rfl) rfl

end Loading
end Config
end NoteDesk
