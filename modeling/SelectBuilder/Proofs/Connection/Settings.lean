import SelectBuilder.Connection.Settings
import SelectBuilder.Proofs.Number.Unsigned

/-!
Where the settings come from. A variable that is set decides its setting, whatever the file has for
it; only a variable that cannot be read makes the resolution fail, and only valid settings are given
out.
-/
namespace SelectBuilder.Settings

section Reading

variable {raw : String}

def words : Bool → List String
  | true => ["1", "true", "yes", "on"]
  | false => ["0", "false", "no", "off"]

def WritesSeconds (raw : String) (seconds : UInt64) : Prop :=
  Numeral.WritesNatural (Text.trim raw).toList seconds.toNat

/-- A text that is a word for a truth value, in any case and perhaps between white space. -/
def WritesBool (raw : String) (b : Bool) : Prop :=
  Text.lowerAscii (Text.trim raw) ∈ words b

theorem readSeconds_eq_ok {seconds : UInt64} :
    readSeconds raw = .ok seconds ↔ WritesSeconds raw seconds := by
  rw [readSeconds, Outcome.mapError_eq_ok, Numeral.uint64_eq_ok_iff, WritesSeconds]

theorem readBool_eq_ok {b : Bool} : readBool raw = .ok b ↔ WritesBool raw b := by
  unfold readBool WritesBool SettingsError.compressionWord
  split <;> cases b <;> simp_all [words]

end Reading

section Sources

variable {α : Type} {override : Option String} {writes : String → α → Prop} {entry : Option α}
  {default a : α}

/-- A setting as its variable writes it if that is set, else as it stands in the file, else as it is
by default. -/
inductive ComesFrom (override : Option String) (writes : String → α → Prop) (entry : Option α)
    (default : α) : α → Prop
  | variable {raw : String} {a : α} (hset : override = some raw) (h : writes raw a) :
      ComesFrom override writes entry default a
  | file {a : α} (hunset : override = none) (h : entry = some a) :
      ComesFrom override writes entry default a
  | default (hunset : override = none) (h : entry = none) :
      ComesFrom override writes entry default default

theorem comesFrom_some {raw : String} (hset : override = some raw) :
    ComesFrom override writes entry default a ↔ writes raw a := by
  constructor
  · rintro (⟨hother, h⟩ | ⟨hunset, -⟩ | ⟨hunset, -⟩)
    · rw [hset] at hother
      rwa [Option.some.inj hother]
    · rw [hset] at hunset
      cases hunset
    · rw [hset] at hunset
      cases hunset
  · exact .variable hset

theorem comesFrom_none (hunset : override = none) :
    ComesFrom override writes entry default a ↔ entry.getD default = a := by
  constructor
  · rintro (⟨hset, -⟩ | ⟨-, h⟩ | ⟨-, h⟩)
    · rw [hunset] at hset
      cases hset
    · rw [h, Option.getD_some]
    · rw [h, Option.getD_none]
  · cases entry with
    | none =>
      rintro rfl
      exact .default hunset rfl
    | some b =>
      rintro rfl
      exact .file hunset rfl

variable {environment : Environment} {name : String} {read : String → Except SettingsError α}

theorem fromVariable_eq_ok (hread : ∀ raw a, read raw = .ok a ↔ writes raw a) :
    fromVariable environment name read (entry.getD default) = .ok a ↔
      ComesFrom (environment name) writes entry default a := by
  unfold fromVariable
  split
  next raw hset => rw [comesFrom_some hset, hread]
  next hunset => rw [comesFrom_none hunset, Except.ok.injEq]

theorem isOk_fromVariable {otherwise : α} :
    (fromVariable environment name read otherwise).isOk = true ↔
      ∀ raw, environment name = some raw → (read raw).isOk = true := by
  unfold fromVariable
  split
  next raw hset => simp [hset]
  next hunset => simp [hunset, Except.toBool]

theorem fromVariable_congr {a b : α} (h : environment name = none → a = b) :
    fromVariable environment name read a = fromVariable environment name read b := by
  unfold fromVariable
  split
  next => rfl
  next hunset => rw [h hunset]

theorem comesFrom_text {override entry : Option String} {default a : String} :
    ComesFrom override (· = ·) entry default a ↔ (override.or entry).getD default = a := by
  cases override with
  | none => rw [comesFrom_none rfl, Option.none_or]
  | some raw => rw [comesFrom_some rfl, Option.some_or, Option.getD_some]

theorem comesFrom_option {override entry : Option String} {a : Option String} :
    ComesFrom override (fun raw a => some raw = a) (entry.map some) none a ↔
      override.or entry = a := by
  cases override with
  | none =>
    rw [comesFrom_none rfl, Option.none_or]
    cases entry <;> rfl
  | some raw => rw [comesFrom_some rfl, Option.some_or]

end Sources

/-- Settings of which each comes from its own variable, entry or default. -/
structure Follows (s : Settings) (file : FileSettings) (environment : Environment) : Prop where
  url : ComesFrom (environment urlVariable) (· = ·) file.url defaults.url s.url
  database :
    ComesFrom (environment databaseVariable) (· = ·) file.database defaults.database s.database
  user : ComesFrom (environment userVariable) (fun raw user => some raw = user) (file.user.map some)
    defaults.user s.user
  password : ComesFrom (environment passwordVariable) (fun raw password => some raw = password)
    (file.password.map some) defaults.password s.password
  timeoutSeconds :
    ComesFrom (environment timeoutVariable) WritesSeconds file.timeoutSeconds
      defaults.timeoutSeconds
    s.timeoutSeconds
  compression :
    ComesFrom (environment compressionVariable) WritesBool file.compression defaults.compression
      s.compression

theorem resolve_eq_ok_iff {file : FileSettings} {environment : Environment} {s : Settings} :
    resolve file environment = .ok s ↔ s.Follows file environment := by
  rw [resolve, Outcome.bind_eq_ok]
  constructor
  · rintro ⟨seconds, hseconds, h⟩
    obtain ⟨compression, hcompression, h⟩ := Outcome.bind_eq_ok.mp h
    obtain rfl := Except.ok.inj h
    exact {
      url := comesFrom_text.mpr rfl
      database := comesFrom_text.mpr rfl
      user := comesFrom_option.mpr rfl
      password := comesFrom_option.mpr rfl
      timeoutSeconds := (fromVariable_eq_ok fun _ _ => readSeconds_eq_ok).mp hseconds
      compression := (fromVariable_eq_ok fun _ _ => readBool_eq_ok).mp hcompression }
  · intro h
    refine ⟨s.timeoutSeconds,
      (fromVariable_eq_ok fun _ _ => readSeconds_eq_ok).mpr h.timeoutSeconds, ?_⟩
    refine Outcome.bind_eq_ok.mpr
      ⟨s.compression, (fromVariable_eq_ok fun _ _ => readBool_eq_ok).mpr h.compression, ?_⟩
    have hurl := comesFrom_text.mp h.url
    have hdatabase := comesFrom_text.mp h.database
    have huser := comesFrom_option.mp h.user
    have hpassword := comesFrom_option.mp h.password
    rw [hurl, hdatabase, huser, hpassword]
    rfl

theorem isOk_resolve_iff {file : FileSettings} {environment : Environment} :
    (resolve file environment).isOk = true ↔
      (∀ raw, environment timeoutVariable = some raw → ∃ seconds, WritesSeconds raw seconds) ∧
      ∀ raw, environment compressionVariable = some raw → ∃ b, WritesBool raw b := by
  have hseconds (raw : String) : (readSeconds raw).isOk = true ↔
      ∃ seconds, WritesSeconds raw seconds := by
    rw [Outcome.isOk_iff]
    exact exists_congr fun _ => readSeconds_eq_ok
  have hbool (raw : String) : (readBool raw).isOk = true ↔ ∃ b, WritesBool raw b := by
    rw [Outcome.isOk_iff]
    exact exists_congr fun _ => readBool_eq_ok
  have hparts : (resolve file environment).isOk =
      ((fromVariable environment timeoutVariable readSeconds
          (file.timeoutSeconds.getD defaults.timeoutSeconds)).isOk &&
        (fromVariable environment compressionVariable readBool
          (file.compression.getD defaults.compression)).isOk) := by
    unfold resolve
    cases fromVariable environment timeoutVariable readSeconds _ with
    | error e => rfl
    | ok seconds => cases fromVariable environment compressionVariable readBool _ <;> rfl
  rw [hparts, Bool.and_eq_true, isOk_fromVariable, isOk_fromVariable]
  simp only [hseconds, hbool]

/-- Two files with the same entries for the settings whose variables are not set. -/
structure AgreeUnless (environment : Environment) (file other : FileSettings) : Prop where
  url (h : environment urlVariable = none) : file.url = other.url
  database (h : environment databaseVariable = none) : file.database = other.database
  user (h : environment userVariable = none) : file.user = other.user
  password (h : environment passwordVariable = none) : file.password = other.password
  timeoutSeconds (h : environment timeoutVariable = none) :
    file.timeoutSeconds = other.timeoutSeconds
  compression (h : environment compressionVariable = none) : file.compression = other.compression

/-- The file has no say in a setting whose variable is set. -/
theorem resolve_congr {environment : Environment} {file other : FileSettings}
    (h : AgreeUnless environment file other) :
    resolve file environment = resolve other environment := by
  have hor {override entry entry' : Option String} (h : override = none → entry = entry') :
      override.or entry = override.or entry' := by
    cases override with
    | none => rw [h rfl]
    | some raw => rw [Option.some_or, Option.some_or]
  have hseconds : fromVariable environment timeoutVariable readSeconds
      (file.timeoutSeconds.getD defaults.timeoutSeconds) =
        fromVariable environment timeoutVariable readSeconds
        (other.timeoutSeconds.getD defaults.timeoutSeconds) :=
    fromVariable_congr fun hunset => by rw [h.timeoutSeconds hunset]
  have hcompression : fromVariable environment compressionVariable readBool
      (file.compression.getD defaults.compression) =
        fromVariable environment compressionVariable readBool
        (other.compression.getD defaults.compression) :=
    fromVariable_congr fun hunset => by rw [h.compression hunset]
  rw [resolve, resolve, hor h.url, hor h.database, hor h.user, hor h.password, hseconds,
    hcompression]

theorem validate_eq_ok_iff {s : Settings} : s.validate = .ok () ↔
    Text.isBlankText s.url = false ∧ Text.isBlankText s.database = false ∧
    s.timeoutSeconds ≠ 0 := by
  unfold validate
  split_ifs <;> simp_all

theorem validate_of_load {file : Option SettingsFile} {environment : Environment} {s : Settings}
    (h : load file environment = .ok s) : s.validate = .ok () := by
  have hrest (entries : FileSettings)
      (h : (resolve entries environment >>= fun s => s.validate >>= fun _ => pure s) = .ok s) :
      s.validate = .ok () := by
    obtain ⟨settings, -, h⟩ := Outcome.bind_eq_ok.mp h
    obtain ⟨⟨⟩, hvalid, h⟩ := Outcome.bind_eq_ok.mp h
    obtain rfl := Except.ok.inj h
    exact hvalid
  cases file with
  | none => exact hrest {} h
  | some file =>
    obtain ⟨entries, -, h⟩ := Outcome.bind_eq_ok.mp h
    exact hrest entries h

/-- The variables come first: resolving fails exactly if the variable for the time or for the
compression is set to a text that cannot be read, each setting comes from its own variable, entry or
default, and the entry of a setting whose variable is set has no effect. Whatever is loaded can
work. -/
theorem resolve_prefers_variables (environment : Environment) :
    (∀ file, (resolve file environment).isOk = true ↔
      (∀ raw, environment timeoutVariable = some raw → ∃ seconds, WritesSeconds raw seconds) ∧
      ∀ raw, environment compressionVariable = some raw → ∃ b, WritesBool raw b) ∧
    (∀ file s, resolve file environment = .ok s ↔ s.Follows file environment) ∧
      (∀ file other, AgreeUnless environment file other →
        resolve file environment = resolve other environment) ∧
    ∀ file s, load file environment = .ok s →
      s.validate = .ok () ∧ Text.isBlankText s.url = false ∧ Text.isBlankText s.database = false ∧
        s.timeoutSeconds ≠ 0 := by
  refine ⟨fun _ => isOk_resolve_iff, fun _ _ => resolve_eq_ok_iff, fun _ _ => resolve_congr,
    fun _ _ h => ?_⟩
  have hvalid := validate_of_load h
  exact ⟨hvalid, validate_eq_ok_iff.mp hvalid⟩

theorem resolve_prefers_variables_padded :
    let environment : Environment := fun name => List.lookup name
      [(urlVariable, "http://env:8123"), (timeoutVariable, " +12\n"), (compressionVariable, "OFF")]
    resolve { user := some "reader" } environment =
      .ok ⟨"http://env:8123", "default", some "reader", none, 12, false⟩ ∧
    resolve
      { url := some " ", user := some "reader", timeoutSeconds := some 0, compression := some true }
      environment = resolve { user := some "reader" } environment := by
  intro environment
  have hseconds : WritesSeconds " +12\n" 12 := by
    have htrim : (Text.trim " +12\n").toList = ['+', '1', '2'] := by decide +kernel
    rw [WritesSeconds, htrim]
    exact .plus (by decide) (List.all_eq_true.mp rfl)
  have hbool : WritesBool "OFF" false := by
    have hword : Text.lowerAscii (Text.trim "OFF") = "off" := by decide +kernel
    rw [WritesBool, hword]
    decide
  obtain ⟨-, hresolve, hagree, -⟩ := resolve_prefers_variables environment
  refine ⟨(hresolve _ _).mpr ?follows, hagree _ _ ?agree⟩
  case follows =>
    exact {
      url := .variable rfl rfl
      database := .default rfl rfl
      user := .file rfl rfl
      password := .default rfl rfl
      timeoutSeconds := .variable rfl hseconds
      compression := .variable rfl hbool }
  case agree =>
    exact {
      url := nofun
      database := fun _ => rfl
      user := fun _ => rfl
      password := fun _ => rfl
      timeoutSeconds := nofun
      compression := nofun }

end SelectBuilder.Settings
