import DeviceAlerts.Config
import DeviceAlerts.Proofs.Config.Masking
import DeviceAlerts.Proofs.Number.Order

/-! Which environments make settings, and what the settings are then good for. Only the choice of
the store is ever refused. Every number lies in its range, whatever text was given for it: numbers
that cannot be read have defaults within the range, and NaN, which is less than nothing, is taken
for the upper end. -/

namespace DeviceAlerts.Config

open DeviceAlerts.Number DeviceAlerts.Text

/-! ### Ranges -/

theorem clampInt_mem {low high : Int} (h : low ≤ high) (i : Int) :
    low ≤ clampInt i low high ∧ clampInt i low high ≤ high := by
  unfold clampInt
  omega

/-- A clamped number lies between the ends even if it was none. -/
theorem clampFloat_mem {low high : Binary64} (h : low.le high = true) (x : Binary64) :
    low.le (clampFloat x low high) = true ∧ (clampFloat x low high).le high = true := by
  obtain ⟨hlow, hhigh⟩ := Binary64.le_self_of_le h
  unfold clampFloat
  dsimp only
  by_cases below : x.lt high = true
  · rw [if_pos below]
    split
    · next above => exact ⟨Binary64.le_of_lt above, Binary64.le_of_lt below⟩
    · exact ⟨hlow, h⟩
  · rw [if_neg below]
    split
    · exact ⟨h, hhigh⟩
    · exact ⟨hlow, h⟩

/-! ### Names -/

theorem readLogLevel_mem (e : Environment) : readLogLevel e ∈ logLevels := by
  unfold readLogLevel
  dsimp only
  split
  · next known => exact List.contains_iff_mem.mp known
  · decide

theorem readDatabaseName_ne (e : Environment) : readDatabaseName e ≠ "" := by
  unfold readDatabaseName
  dsimp only
  split
  · decide
  · assumption

/-! ### The choice of the store -/

/-- The text of a variable; one that is not set has the text of an empty one. -/
def Environment.text (e : Environment) (name : String) : String := (e.get? name).getD ""

/-- The name of the backend that an environment asks for. -/
def Environment.wish (e : Environment) : String :=
  lowercase (trim (if e.text "STORE_BACKEND" ≠ "" then e.text "STORE_BACKEND"
    else if e.text "BACKEND_MONGO_URI" ≠ "" then "mongo" else "memory"))

/-- Whether a text begins as the address of a database does. -/
def IsDatabaseUri (uri : String) : Prop :=
  "mongodb://".toList <+: uri.toList ∨ "mongodb+srv://".toList <+: uri.toList

/-- The backend is unknown, or it is a database without an address that can be one. -/
def Environment.Refused (e : Environment) : Prop :=
  (e.wish ≠ "mongo" ∧ e.wish ≠ "memory") ∨
    e.wish = "mongo" ∧
      (e.text "BACKEND_MONGO_URI" = "" ∨ ¬ IsDatabaseUri (e.text "BACKEND_MONGO_URI"))

theorem filled?_eq (e : Environment) (name : String) :
    filled? e name = if e.text name = "" then none else some (e.text name) := by
  unfold filled? Environment.text
  cases e.get? name with
  | none => rfl
  | some s => by_cases h : s = "" <;> simp [h]

theorem backendName_eq (e : Environment) : backendName e = e.wish := by
  unfold backendName Environment.wish mongoUri?
  simp only [filled?_eq]
  by_cases hchoice : e.text "STORE_BACKEND" = "" <;>
    by_cases huri : e.text "BACKEND_MONGO_URI" = "" <;>
      simp [hchoice, huri, Backend.text]

theorem isSome_scheme?_iff (uri : String) :
    (scheme? uri.toList).isSome = true ↔ IsDatabaseUri uri := by
  simp only [Option.isSome_iff_exists, scheme?_eq_some_iff, schemes, List.mem_cons,
    List.not_mem_nil, or_false, exists_eq_or_imp, exists_eq_left, IsDatabaseUri]

/-- A backend is refused, or it is made use of: the memory, or the database at the given address. -/
theorem readBackend_cases (e : Environment) :
    e.Refused ∧ (∃ fault, readBackend e = .error fault) ∨
      ¬ e.Refused ∧ (e.wish = "memory" ∧ readBackend e = .ok .memory ∨
        e.wish = "mongo" ∧ readBackend e = .ok .mongo ∧
          mongoUri? e = some (e.text "BACKEND_MONGO_URI")) := by
  unfold readBackend Environment.Refused mongoUri?
  simp only [backendName_eq, filled?_eq, Backend.text]
  by_cases memory : e.wish = "memory"
  · simp [memory]
  by_cases mongo : e.wish = "mongo"
  · by_cases missing : e.text "BACKEND_MONGO_URI" = ""
    · simp [mongo, missing]
    · by_cases usable : IsDatabaseUri (e.text "BACKEND_MONGO_URI")
      · have known := (isSome_scheme?_iff _).mpr usable
        simp [mongo, missing, usable, known]
      · have unknown := mt (isSome_scheme?_iff _).mp usable
        simp [mongo, missing, usable, unknown]
  · simp [memory, mongo]

/-! ### All settings -/

/-- What settings are good for, wherever they come from. -/
structure Usable (c : Config) : Prop where
  storeTimeout : tenth.le c.storeTimeout = true ∧ c.storeTimeout.le (.ofInt 120) = true
  checkInterval : 1 ≤ c.checkInterval ∧ c.checkInterval ≤ 3600
  checkTimeout : tenth.le c.checkTimeout = true ∧ c.checkTimeout.le (.ofInt 60) = true
  logLevel : c.logLevel ∈ ["DEBUG", "INFO", "WARNING", "ERROR", "CRITICAL"]
  databaseName : c.databaseName ≠ ""

theorem tenth_le_storeTimeout : tenth.le (.ofInt 120) = true := by decide +kernel

theorem tenth_le_checkTimeout : tenth.le (.ofInt 60) = true := by decide +kernel

variable {e : Environment} {c : Config}

theorem of_load (h : load e = .ok c) :
    c.Usable ∧ readBackend e = .ok c.backend ∧ c.mongoUri = mongoUri? e := by
  unfold load at h
  cases hbackend : readBackend e with
  | error fault =>
    rw [hbackend] at h
    cases h
  | ok backend =>
    rw [hbackend] at h
    cases h
    refine ⟨⟨?_, ?_, ?_, ?_, ?_⟩, rfl, rfl⟩ <;> dsimp only
    · exact clampFloat_mem tenth_le_storeTimeout _
    · exact clampInt_mem (by decide) _
    · exact clampFloat_mem tenth_le_checkTimeout _
    · exact readLogLevel_mem e
    · exact readDatabaseName_ne e

theorem load_eq_error_iff : (∃ fault, load e = .error fault) ↔ e.Refused := by
  unfold load
  rcases readBackend_cases e with ⟨refused, fault, h⟩ | ⟨accepted, ⟨-, h⟩ | ⟨-, h, -⟩⟩
  · exact iff_of_true ⟨fault, by rw [h]; rfl⟩ refused
  · refine iff_of_false ?_ accepted
    rintro ⟨fault, hfault⟩
    rw [h] at hfault
    cases hfault
  · refine iff_of_false ?_ accepted
    rintro ⟨fault, hfault⟩
    rw [h] at hfault
    cases hfault

/-- The address that a database needs is among the settings. -/
theorem storeChoice?_of_load (h : load e = .ok c) :
    c.storeChoice? = some (if e.wish = "memory" then .inMemory
      else .inDatabase (e.text "BACKEND_MONGO_URI") c.databaseName) := by
  obtain ⟨-, hbackend, huri⟩ := of_load h
  unfold storeChoice?
  rcases readBackend_cases e with ⟨-, fault, hfault⟩ | ⟨-, ⟨wish, hmade⟩ | ⟨wish, hmade, given⟩⟩
  · cases hfault.symm.trans hbackend
  · rw [← Except.ok.inj (hmade.symm.trans hbackend), if_pos wish]
  · rw [← Except.ok.inj (hmade.symm.trans hbackend), huri, given, wish, if_neg (by decide)]
    rfl

/-- An environment is refused exactly when the backend that it asks for is unknown or is a database
without an address that can be one. From any other environment come settings with all numbers in
their ranges, a known log level, a name for the database and a store. -/
theorem load_refused_or_usable (e : Environment) :
    ((∃ fault, load e = .error fault) ↔ e.Refused) ∧
    ∀ c, load e = .ok c →
      (tenth.le c.storeTimeout = true ∧ c.storeTimeout.le (.ofInt 120) = true) ∧
      (1 ≤ c.checkInterval ∧ c.checkInterval ≤ 3600) ∧
      (tenth.le c.checkTimeout = true ∧ c.checkTimeout.le (.ofInt 60) = true) ∧
      c.logLevel ∈ ["DEBUG", "INFO", "WARNING", "ERROR", "CRITICAL"] ∧ c.databaseName ≠ "" ∧
      c.storeChoice? = some (if e.wish = "memory" then .inMemory
        else .inDatabase (e.text "BACKEND_MONGO_URI") c.databaseName) := by
  refine ⟨load_eq_error_iff, fun c h => ?_⟩
  obtain ⟨usable, -, -⟩ := of_load h
  exact ⟨usable.storeTimeout, usable.checkInterval, usable.checkTimeout, usable.logLevel,
    usable.databaseName, storeChoice?_of_load h⟩

/-- White space and capital letters around the choice, a name of blanks, and numbers that are none
or out of range. -/
def careless : Environment :=
  [("STORE_BACKEND", " Mongo\n"), ("BACKEND_MONGO_URI", "mongodb+srv://u:p@h"),
    ("MONGO_DB_NAME", "  "), ("STORE_TIMEOUT_SEC", "nan"), ("DEVICE_CHECK_TIMEOUT_SEC", "-inf"),
    ("DEVICE_CHECK_INTERVAL_SEC", "1_000_000"), ("LOG_LEVEL", "loud")]

theorem load_refused_or_usable_careless :
    ¬ careless.Refused ∧ ∃ c, load careless = .ok c ∧
      c.storeTimeout = .ofInt 120 ∧ c.checkTimeout = tenth ∧ c.checkInterval = 3600 ∧
      c.logLevel ∈ ["DEBUG", "INFO", "WARNING", "ERROR", "CRITICAL"] ∧
      c.storeChoice? = some (.inDatabase "mongodb+srv://u:p@h" "devmon") := by
  obtain ⟨refusal, usable⟩ := load_refused_or_usable careless
  have loaded : load careless = .ok
      ⟨.mongo, some "mongodb+srv://u:p@h", "devmon", .ofInt 120, true, 3600, tenth, "INFO"⟩ := by
    decide +kernel
  refine ⟨fun refused => ?_, _, loaded, rfl, rfl, rfl, (usable _ loaded).2.2.2.1, rfl⟩
  obtain ⟨fault, hfault⟩ := refusal.mpr refused
  cases loaded.symm.trans hfault

end DeviceAlerts.Config
