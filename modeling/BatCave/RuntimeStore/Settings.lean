import Mathlib.Data.List.DropRight
import BatCave.Reader.Wire
import BatCave.RuntimeStore.Controls

/-! The settings across a restart: what is written, how it is read back and migrated, and when
the next start has the settings of the last one. -/
namespace BatCave.RuntimeStore
open BatCave.Contracts BatCave.ProcessView BatCave.Lib BatCave.Lib.Text
open BatCave.Reader (focusModeName sortColumnName sortDirectionName)

section Loading

/-- `serde_json::Value`; the fields of an object stand in the order of their keys. -/
inductive Json where
  | null
  | bool (value : Bool)
  | posInt (value : UInt64)
  | negInt (value : Int)
  | float (value : Float)
  | string (value : String)
  | array (items : List Json)
  | object (fields : List (String × Json))

namespace Json

def asObject : Json → Option (List (String × Json))
  | object fields => some fields
  | _ => none

def asStr : Json → Option String
  | string value => some value
  | _ => none

def asU64 : Json → Option Nat
  | posInt value => some value.toNat
  | _ => none

/-- `Value::get` with a key; nothing but an object has one. -/
def get (value : Json) (key : String) : Option Json :=
  value.asObject.bind (fun fields => fields.lookup key)

end Json

inductive JsonMigration (α : Type) where
  | current (value : α)
  | migrated (value : α)

def settingsFields : List String :=
  ["query","admin_mode_requested","admin_mode_enabled","metric_window_seconds",
    "sample_interval_ms","paused","ui_preferences","theme","history_point_limit"]

/-- The sections of the settings, with the fields that each may have. -/
def settingsSections : List (String × List String) :=
  [("query",["filter_text","focus_mode","sort_column","sort_direction","limit"]),
    ("ui_preferences",["theme","history_point_limit"])]

def unknownField (fields : List (String × Json)) (allowed : List String) : Option String :=
  (fields.map Prod.fst).find? (fun field => field∉allowed)

def checkSections (fields : List (String × Json)) : Except String Unit :=
  settingsSections.forM (fun (name,allowed) =>
    match ((fields.lookup name).bind Json.asObject).bind (unknownField · allowed) with
    | some field =>
      .error ("settings schema contains unknown field `"++name++"."++field++"`")
    | none => .ok ())

/-- What an earlier version kept beside the settings, when they hold no preferences. -/
def migrateUiPreferences (value : Json) (settings : RuntimeSettings) :
    Except String (Option RuntimeSettings) :=
  match settings.uiPreferences with
  | some _ => .ok none
  | none =>
    let legacyTheme := (value.get "theme").bind Json.asStr
    let legacyHistoryPointLimit := ((value.get "history_point_limit").bind Json.asU64).bind
      (fun limit => if limit < 2^32 then some limit else none)
    match legacyTheme,legacyHistoryPointLimit with
    | some theme,some historyPointLimit =>
      let preferences : RuntimeUiPreferences := ⟨theme,historyPointLimit⟩
      if validUiPreferences preferences then
        .ok (some { settings with uiPreferences := some preferences })
      else .error "legacy UI preferences are invalid"
    | none,none => .ok none
    | _,_ => .error "legacy UI preferences are incomplete"

/-- `migrate_runtime_settings`, with serde's own reading of a value as the parameter. -/
def migrateRuntimeSettings (fromValue : Json → Except String RuntimeSettings) (value : Json) :
    Except String (JsonMigration RuntimeSettings) := do
  let fields ← match value.asObject with
    | some fields => .ok fields
    | none => .error "settings schema must be a JSON object"
  let retiresAdminMode := (fields.lookup "admin_mode_requested").isSome ||
    (fields.lookup "admin_mode_enabled").isSome
  if let some field := unknownField fields settingsFields then
    .error ("settings schema contains unknown field `"++field++"`")
  checkSections fields
  let settings ← match fromValue value with
    | .ok settings => .ok settings
    | .error error => .error ("settings schema is invalid: "++error)
  if settings.uiPreferences.any (fun preferences => !validUiPreferences preferences) then
    .error "settings UI preferences are invalid"
  match ← migrateUiPreferences value settings with
  | some settings => .ok (.migrated settings)
  | none => .ok (if retiresAdminMode then .migrated settings else .current settings)

/-- `runtime_ui_preferences::parse` -/
def parseUiPreferences (preferences : RuntimeUiPreferences) : Except String RuntimeUiPreferences :=
  if !isValidThemePreference preferences.theme then .error "runtime_ui_theme_invalid"
  else if preferences.historyPointLimit∉[30,72,180,360] then
    .error "runtime_history_point_limit_invalid"
  else .ok preferences

def queryValue (query : RuntimeQuery) : Json :=
  .object [("filter_text",.string query.filterText),
    ("focus_mode",.string (focusModeName query.focusMode)),
    ("limit",.posInt query.limit),
    ("sort_column",.string (sortColumnName query.sortColumn)),
    ("sort_direction",.string (sortDirectionName query.sortDirection))]

def uiPreferencesValue (preferences : RuntimeUiPreferences) : Json :=
  .object [("history_point_limit",.posInt (.ofNat preferences.historyPointLimit)),
    ("theme",.string preferences.theme)]

/-- The value that serde writes for settings; preferences that are not set are left out. -/
def toValue (settings : RuntimeSettings) : Json :=
  .object ([("metric_window_seconds",.posInt (.ofNat settings.metricWindowSeconds)),
      ("paused",.bool settings.paused),
      ("query",queryValue settings.query),
      ("sample_interval_ms",.posInt (.ofNat settings.sampleIntervalMs))]++
    (settings.uiPreferences.map (fun preferences =>
      ("ui_preferences",uiPreferencesValue preferences))).toList)

end Loading

section Text

theorem dropWhile_eq_self {cs : List Char} :
    cs.dropWhile isWhitespace=cs ↔ ∀ c∈cs.head?, isWhitespace c=false := by
  cases cs with
  | nil => simp
  | cons c cs => simp [List.dropWhile_eq_self_iff]

/-- A text is trimmed when it neither starts nor ends with white space. -/
theorem trim_eq_self {cs : List Char} : trim (.ofList cs)=.ofList cs ↔
    (∀ c∈cs.head?, isWhitespace c=false) ∧ ∀ c∈cs.getLast?, isWhitespace c=false := by
  have hreverse : ((cs.dropWhile isWhitespace).reverse.dropWhile isWhitespace).reverse=cs ↔
      cs.dropWhile isWhitespace=cs ∧ cs.reverse.dropWhile isWhitespace=cs.reverse := by
    constructor
    · intro h
      have hlength := congrArg List.length h
      have hback := List.length_dropWhile_le isWhitespace (cs.dropWhile isWhitespace).reverse
      rw [List.length_reverse] at hlength hback
      have hfront : cs.dropWhile isWhitespace=cs :=
        (List.dropWhile_suffix isWhitespace).eq_of_length_le (by omega)
      refine ⟨hfront,?_⟩
      rw [hfront] at h
      rw [← List.reverse_inj,List.reverse_reverse]
      exact h
    · intro ⟨hfront,hback⟩
      rw [hfront,hback,List.reverse_reverse]
  rw [trim,String.ofList_inj,String.toList_ofList,hreverse,dropWhile_eq_self,dropWhile_eq_self,
    List.head?_reverse]

theorem trim_ends (text : String) : (∀ c∈(trim text).toList.head?, isWhitespace c=false) ∧
    ∀ c∈(trim text).toList.getLast?, isWhitespace c=false := by
  have hback : ((text.toList.dropWhile isWhitespace).rdropWhile isWhitespace) <+:
      text.toList.dropWhile isWhitespace := List.rdropWhile_prefix _ _
  have htrim : (trim text).toList=(text.toList.dropWhile isWhitespace).rdropWhile isWhitespace := by
    rw [trim,String.toList_ofList,List.rdropWhile]
  rw [htrim]
  constructor
  · intro c hc
    have hfront := List.head?_dropWhile_not isWhitespace text.toList
    obtain ⟨rest,hrest⟩ := hback
    rw [← hrest,List.head?_append,Option.mem_def.mp hc] at hfront
    exact hfront
  · intro c hc
    rw [List.rdropWhile,List.getLast?_reverse] at hc
    have hlast := List.head?_dropWhile_not isWhitespace
      (text.toList.dropWhile isWhitespace).reverse
    rw [Option.mem_def.mp hc] at hlast
    exact hlast

/-- The cut after 256 characters leaves no white space at the end. -/
def Whole (text : String) : Prop := ∀ c∈(trim text).toList[255]?, isWhitespace c=false

instance (text : String) : Decidable (Whole text) :=
  decidable_of_iff ((trim text).toList[255]?.all (fun c => !isWhitespace c)=true) (by
    cases h : (trim text).toList[255]? with
    | none => simp [Whole,h]
    | some c => simp [Whole,h])

theorem getLast_take {cs : List Char} (h : ∀ c∈cs.getLast?, isWhitespace c=false) :
    (∀ c∈(cs.take 256).getLast?, isWhitespace c=false) ↔ ∀ c∈cs[255]?, isWhitespace c=false := by
  by_cases hlong : 256 ≤ cs.length
  · have hlast : (cs.take 256).getLast?=cs[255]? := by
      rw [List.getLast?_eq_getElem?,List.length_take,Nat.min_eq_left hlong,List.getElem?_take]
      rfl
    rw [hlast]
  · rw [List.take_of_length_le (by omega),List.getElem?_eq_none (by omega)]
    exact ⟨fun _ => by simp,fun _ => h⟩

theorem trim_cut (text : String) :
    trim (.ofList ((trim text).toList.take 256))=.ofList ((trim text).toList.take 256) ↔
      Whole text := by
  have hends := trim_ends text
  rw [trim_eq_self,getLast_take hends.2]
  constructor
  · exact fun h => h.2
  · intro h
    refine ⟨?_,h⟩
    intro c hc
    rw [List.head?_take,if_neg (by decide)] at hc
    exact hends.1 c hc

end Text

section Normal

theorem toNat_max (a b : UInt64) : (max a b).toNat=max a.toNat b.toNat := by
  change (if a ≤ b then b else a).toNat=max a.toNat b.toNat
  simp only [UInt64.le_iff_toNat_le]
  split
  · omega
  · omega

theorem toNat_min (a b : UInt64) : (min a b).toNat=min a.toNat b.toNat := by
  change (if a ≤ b then a else b).toNat=min a.toNat b.toNat
  simp only [UInt64.le_iff_toNat_le]
  split
  · omega
  · omega

theorem clamp_limit (limit : UInt64) :
    max 25 (min (max 25 (min limit 20000)) 20000)=max 25 (min limit 20000) := by
  apply UInt64.toNat_inj.mp
  have hlow : (25 : UInt64).toNat=25 := rfl
  have hhigh : (20000 : UInt64).toNat=20000 := rfl
  simp only [toNat_max,toNat_min]
  omega

theorem length_trim_le (text : String) : (trim text).toList.length ≤ text.toList.length := by
  have hfront := List.length_dropWhile_le isWhitespace text.toList
  have hback := List.length_dropWhile_le isWhitespace
    (text.toList.dropWhile isWhitespace).reverse
  rw [List.length_reverse] at hback
  rw [trim,String.toList_ofList,List.length_reverse]
  omega

theorem normalizeQuery_twice (query : RuntimeQuery) :
    normalizeQuery (normalizeQuery query)=normalizeQuery query ↔ Whole query.filterText := by
  have hlimit : max 25 (min (normalizeQuery query).limit 20000)=(normalizeQuery query).limit :=
    clamp_limit query.limit
  have hlength := length_trim_le (normalizeQuery query).filterText
  have hshort := List.length_take_le 256 (trim query.filterText).toList
  have hcut : String.ofList ((trim (normalizeQuery query).filterText).toList.take 256)=
      trim (normalizeQuery query).filterText := by
    rw [List.take_of_length_le,String.ofList_toList]
    rw [normalizeQuery,String.toList_ofList] at hlength
    exact hlength.trans hshort
  have htwice : normalizeQuery (normalizeQuery query)=
      { normalizeQuery query with filterText := trim (normalizeQuery query).filterText } := by
    conv_lhs => rw [normalizeQuery]
    rw [hcut,hlimit]
  rw [htwice,← trim_cut]
  constructor
  · exact congrArg RuntimeQuery.filterText
  · intro h
    rw [normalizeQuery,h]

/-- Of all the settings, only the text of the query can change when they are normalized a
second time. -/
theorem normalizeSettings_twice (settings : RuntimeSettings) :
    normalizeSettings (normalizeSettings settings)=normalizeSettings settings ↔
      Whole settings.query.filterText := by
  have hwindow : max 15 (min (max 15 (min settings.metricWindowSeconds 600)) 600)=
      max 15 (min settings.metricWindowSeconds 600) := by omega
  have hinterval : max 500 (min (max 500 (min settings.sampleIntervalMs 5000)) 5000)=
      max 500 (min settings.sampleIntervalMs 5000) := by omega
  have hpreferences : (settings.uiPreferences.filter validUiPreferences).filter validUiPreferences=
      settings.uiPreferences.filter validUiPreferences := by
    simp only [Option.filter_filter,Bool.and_self]
  have htwice : normalizeSettings (normalizeSettings settings)=
      { normalizeSettings settings with
        query := normalizeQuery (normalizeQuery settings.query) } := by
    simp only [normalizeSettings,hwindow,hinterval,hpreferences]
  rw [htwice,← normalizeQuery_twice]
  constructor
  · exact congrArg RuntimeSettings.query
  · intro hquery
    simp only [hquery,normalizeSettings]

end Normal

theorem parseUiPreferences_ok {preferences parsed : RuntimeUiPreferences} :
    parseUiPreferences preferences=.ok parsed ↔
      validUiPreferences preferences=true ∧ parsed=preferences := by
  rw [parseUiPreferences,validUiPreferences]
  cases htheme : isValidThemePreference preferences.theme with
  | false => simp
  | true =>
    by_cases hlimit : preferences.historyPointLimit∈[30,72,180,360]
    · simp only [hlimit]
      exact ⟨fun h => ⟨rfl,(Except.ok.inj h).symm⟩,fun h => by rw [h.2]; rfl⟩
    · simp [hlimit]

/-- What was written is made of the fields that are known. -/
theorem toValue_known (settings : RuntimeSettings) : ∃ fields,
    (toValue settings).asObject=some fields ∧ unknownField fields settingsFields=none ∧
      checkSections fields=.ok () ∧ fields.lookup "admin_mode_requested"=none ∧
      fields.lookup "admin_mode_enabled"=none ∧ fields.lookup "theme"=none ∧
      fields.lookup "history_point_limit"=none := by
  rw [toValue]
  refine ⟨_,rfl,?_⟩
  cases settings.uiPreferences with
  | none => exact ⟨rfl,rfl,rfl,rfl,rfl,rfl⟩
  | some preferences => exact ⟨rfl,rfl,rfl,rfl,rfl,rfl⟩

theorem migrateUiPreferences_written (settings : RuntimeSettings) :
    migrateUiPreferences (toValue settings) settings=.ok none := by
  obtain ⟨fields,hobject,-,-,-,-,htheme,hlimit⟩ := toValue_known settings
  cases hpreferences : settings.uiPreferences with
  | none => simp [migrateUiPreferences,hpreferences,Json.get,hobject,htheme,hlimit]
  | some preferences => simp [migrateUiPreferences,hpreferences]

/-- What was written without a fault is current when it is read. -/
theorem migrate_written {fromValue : Json → Except String RuntimeSettings}
    {settings : RuntimeSettings}
    (hvalid : ∀ preferences∈settings.uiPreferences, validUiPreferences preferences=true)
    (hserde : fromValue (toValue settings)=.ok settings) :
    migrateRuntimeSettings fromValue (toValue settings)=.ok (.current settings) := by
  have hlegacy := migrateUiPreferences_written settings
  obtain ⟨fields,hobject,hknown,hsections,hrequested,henabled,-,-⟩ := toValue_known settings
  have hgood : settings.uiPreferences.any (fun preferences => !validUiPreferences preferences)=
      false := by
    cases hpreferences : settings.uiPreferences with
    | none => rfl
    | some preferences => simp [hvalid preferences hpreferences]
  simp [migrateRuntimeSettings,hobject,hknown,hsections,hserde,hgood,hlegacy,hrequested,henabled,
    bind,Except.bind]

section Decoder

def fieldOr {α : Type} (fields : List (String × Json)) (name : String) (default : α)
    (read : Json → Option α) : Option α :=
  (fields.lookup name).elim (some default) read

def asU32 (value : Json) : Option Nat :=
  value.asU64.filter (fun number => number < 2^32)

def readName {α : Type} (names : List (String × α)) (value : Json) : Option α :=
  value.asStr.bind (fun name => names.lookup name)

def focusModes : List (String × ProcessFocusMode) :=
  [("all",.all),("attention",.attention),("io",.io)]

def sortColumns : List (String × SortColumn) :=
  [("attention",.attention),("name",.name),("pid",.pid),("cpu_pct",.cpuPct),
    ("memory_bytes",.memoryBytes),("io_bps",.ioBps),("disk_bps",.ioBps),
    ("network_bps",.networkBps),("threads",.threads),("handles",.handles),
    ("start_time_ms",.startTimeMs)]

def sortDirections : List (String × SortDirection) := [("asc",.asc),("desc",.desc)]

def readQuery (value : Json) : Option RuntimeQuery := do
  let fields ← value.asObject
  return {
    filterText := ← fieldOr fields "filter_text" "" Json.asStr
    focusMode := ← fieldOr fields "focus_mode" .all (readName focusModes)
    sortColumn := ← fieldOr fields "sort_column" .attention (readName sortColumns)
    sortDirection := ← fieldOr fields "sort_direction" .desc (readName sortDirections)
    limit := ← fieldOr fields "limit" 5000 (fun
      | .posInt limit => some limit
      | _ => none) }

def readUiPreferences (value : Json) : Option (Option RuntimeUiPreferences) :=
  match value with
  | .null => some none
  | value => do
    let fields ← value.asObject
    let theme ← (fields.lookup "theme").bind Json.asStr
    let historyPointLimit ← (fields.lookup "history_point_limit").bind asU32
    return some ⟨theme,historyPointLimit⟩

/-- A reader of settings with serde's defaults and names; its messages are cut short. -/
def readSettings (value : Json) : Except String RuntimeSettings :=
  (do
    let fields ← value.asObject
    return {
      query := ← fieldOr fields "query" ({} : RuntimeQuery) readQuery
      metricWindowSeconds := ← fieldOr fields "metric_window_seconds" 60 asU32
      sampleIntervalMs := ← fieldOr fields "sample_interval_ms" 1000 asU32
      paused := ← fieldOr fields "paused" false (fun
        | .bool paused => some paused
        | _ => none)
      uiPreferences := ← fieldOr fields "ui_preferences" none readUiPreferences
      : RuntimeSettings }).elim (.error "invalid type") .ok

theorem asU32_ofNat {n : Nat} (h : n < 2^32) : asU32 (.posInt (.ofNat n))=some n := by
  have hsize : UInt64.size=2^64 := rfl
  have hsmall : (UInt64.ofNat n).toNat=n := UInt64.toNat_ofNat_of_lt' (by omega)
  simp only [asU32,Json.asU64,hsmall,Option.filter_some,decide_eq_true h,if_true]

theorem readQuery_value (query : RuntimeQuery) : readQuery (queryValue query)=some query := by
  have hfocus : readName focusModes (.string (focusModeName query.focusMode))=
      some query.focusMode := by
    cases query.focusMode <;> rfl
  have hcolumn : readName sortColumns (.string (sortColumnName query.sortColumn))=
      some query.sortColumn := by
    cases query.sortColumn <;> rfl
  have hdirection : readName sortDirections (.string (sortDirectionName query.sortDirection))=
      some query.sortDirection := by
    cases query.sortDirection <;> rfl
  simp [readQuery,queryValue,Json.asObject,fieldOr,List.lookup_cons,Json.asStr,hfocus,hcolumn,
    hdirection]

theorem readUiPreferences_value {preferences : RuntimeUiPreferences}
    (hlimit : preferences.historyPointLimit < 2^32) :
    readUiPreferences (uiPreferencesValue preferences)=some (some preferences) := by
  have hread : (uiPreferencesValue preferences).asObject.bind (fun fields =>
      (fields.lookup "history_point_limit").bind asU32)=some preferences.historyPointLimit :=
    asU32_ofNat hlimit
  have htheme : (uiPreferencesValue preferences).asObject.bind (fun fields =>
      (fields.lookup "theme").bind Json.asStr)=some preferences.theme := rfl
  rw [uiPreferencesValue] at hread htheme ⊢
  simp only [Json.asObject,Option.bind_some] at hread htheme
  simp only [readUiPreferences,Json.asObject,Option.bind_eq_bind,Option.bind_some,hread,htheme]
  rfl

/-- The reader finds the settings that were written, of the width of their fields. -/
theorem readSettings_value {settings : RuntimeSettings}
    (hwindow : settings.metricWindowSeconds < 2^32) (hinterval : settings.sampleIntervalMs < 2^32)
    (hlimit : ∀ preferences∈settings.uiPreferences, preferences.historyPointLimit < 2^32) :
    readSettings (toValue settings)=.ok settings := by
  have hfields : ∃ fields, (toValue settings).asObject=some fields ∧
      fieldOr fields "query" ({} : RuntimeQuery) readQuery=some settings.query ∧
      fieldOr fields "metric_window_seconds" 60 asU32=some settings.metricWindowSeconds ∧
      fieldOr fields "sample_interval_ms" 1000 asU32=some settings.sampleIntervalMs ∧
      (fields.lookup "paused")=some (.bool settings.paused) ∧
      fieldOr fields "ui_preferences" none readUiPreferences=some settings.uiPreferences := by
    rw [toValue]
    refine ⟨_,rfl,?_⟩
    cases hpreferences : settings.uiPreferences with
    | none => exact ⟨readQuery_value _,asU32_ofNat hwindow,asU32_ofNat hinterval,rfl,rfl⟩
    | some preferences =>
      exact ⟨readQuery_value _,asU32_ofNat hwindow,asU32_ofNat hinterval,rfl,
        readUiPreferences_value (hlimit preferences hpreferences)⟩
  obtain ⟨fields,hobject,hquery,hmetric,hsample,hpaused,hui⟩ := hfields
  simp only [readSettings,hobject,hquery,hmetric,hsample,hui,Option.bind_eq_bind,Option.bind_some]
  rw [fieldOr,hpaused]
  rfl

end Decoder

namespace Store
variable {lower : Lowercase} {sha256 : List UInt8 → List UInt8} {s s' : Store}
variable {requested : RuntimeQuery}

/-- The value that `persist_settings` writes. -/
def persistedSettings (s : Store) : RuntimeSettings := { s.settings with query := s.durableQuery }

/-- The settings are within their bounds, and the durable query is the one requested last. -/
structure Settled (requested : RuntimeQuery) (s : Store) : Prop where
  window : 15 ≤ s.settings.metricWindowSeconds ∧ s.settings.metricWindowSeconds ≤ 600
  interval : 500 ≤ s.settings.sampleIntervalMs ∧ s.settings.sampleIntervalMs ≤ 5000
  preferences : ∀ preferences∈s.settings.uiPreferences, validUiPreferences preferences=true
  durable : s.durableQuery=normalizeQuery requested

theorem Settled.of_same (h : Settled requested s) (hsettings : s'.settings=s.settings)
    (hdurable : s'.durableQuery=s.durableQuery) : Settled requested s' := by
  constructor
  · rw [hsettings]
    exact h.window
  · rw [hsettings]
    exact h.interval
  · rw [hsettings]
    exact h.preferences
  · rw [hdurable]
    exact h.durable

theorem Settled.publish (h : Settled requested s) (answers : Answers) :
    Settled requested (publishSnapshotOnly lower s answers) := by
  have hsame := publishSnapshotOnly_controls lower s answers
  exact h.of_same hsame.settings hsame.durableQuery

theorem settled_fromWarmCache (provenance : RuntimeProvenance) (settings : RuntimeSettings)
    (seq : Nat) (rows : List ProcessSample) (answers : Answers) :
    Settled settings.query (fromWarmCache lower sha256 provenance settings seq rows answers) := by
  constructor
  · exact ⟨Nat.le_max_left _ _,Nat.max_le.mpr ⟨by decide,Nat.min_le_right _ _⟩⟩
  · exact ⟨Nat.le_max_left _ _,Nat.max_le.mpr ⟨by decide,Nat.min_le_right _ _⟩⟩
  · intro preferences hpreferences
    exact (Option.filter_eq_some_iff.mp hpreferences).2
  · rfl

/-- The query that is durable after an operation, as it was asked for. -/
def durableRequest (requested : RuntimeQuery) : Operation → RuntimeQuery
  | .setQueryWithIntent query .userMutation _ => query
  | _ => requested

theorem Settled.apply (h : Settled requested s) {operation : Operation}
    (hparsed : ∀ preferences answers, operation=.setUiPreferences preferences answers →
      parseUiPreferences preferences=.ok preferences) :
    Settled (durableRequest requested operation) (operation.apply lower sha256 s) := by
  cases operation with
  | applyRawSample sample completedAtMs answers =>
    have hsame := applyRawSample_controls lower sha256 s sample completedAtMs answers
    exact h.of_same hsame.settings hsame.durableQuery
  | publishCollectorUnavailable answers =>
    have hsame := publishCollectorUnavailable_controls lower sha256 s answers
    exact h.of_same hsame.settings hsame.durableQuery
  | markEngineFatal code message occurredAtMs answers =>
    have hsettings := markEngineFatal_settings lower sha256 s code message occurredAtMs answers
    have hdurable := markEngineFatal_durable lower sha256 s code message occurredAtMs answers
    exact h.of_same hsettings hdurable
  | setPaused paused answers =>
    have hset : Settled requested
        { s with
          settings := { s.settings with paused := paused }
          liveProcessSnapshot := s.liveProcessSnapshot && !paused } :=
      ⟨h.window,h.interval,h.preferences,h.durable⟩
    exact hset.publish answers
  | setQueryWithIntent query intent answers =>
    cases intent with
    | userMutation =>
      have hset : Settled query
          { s with
            settings := { s.settings with query := normalizeQuery query }
            durableQuery := normalizeQuery query } :=
        ⟨h.window,h.interval,h.preferences,rfl⟩
      exact hset.publish answers
    | runtimeOnly =>
      have hset : Settled requested
          { s with settings := { s.settings with query := normalizeQuery query } } :=
        ⟨h.window,h.interval,h.preferences,h.durable⟩
      exact hset.publish answers
  | setSampleInterval sampleIntervalMs answers =>
    have hbounds : 500 ≤ max 500 (min sampleIntervalMs 5000) ∧
        max 500 (min sampleIntervalMs 5000) ≤ 5000 := by omega
    have hset : Settled requested
        { s with
          settings := { s.settings with
            sampleIntervalMs := max 500 (min sampleIntervalMs 5000) } } :=
      ⟨h.window,hbounds,h.preferences,h.durable⟩
    exact hset.publish answers
  | setUiPreferences preferences answers =>
    have hvalid := (parseUiPreferences_ok.mp (hparsed preferences answers rfl)).1
    have hset : Settled requested
        { s with settings := { s.settings with uiPreferences := some preferences } } := by
      refine ⟨h.window,h.interval,?_,h.durable⟩
      intro shown hshown
      cases hshown
      exact hvalid
    exact hset.publish answers
  | setEngineState state => exact h.of_same rfl rfl
  | noteHeartbeat occurredAtMs => exact h.of_same rfl rfl
  | updateScheduleHealth misses recentMisses lateness answers => exact h.of_same rfl rfl
  | recordPublicationLatency latencyMs answers => exact h.of_same rfl rfl

theorem Settled.run (h : Settled requested s) {operations : List Operation}
    (hparsed : ∀ preferences answers, .setUiPreferences preferences answers∈operations →
      parseUiPreferences preferences=.ok preferences) :
    Settled (operations.foldl durableRequest requested) (run lower sha256 s operations) := by
  induction operations generalizing s requested with
  | nil => exact h
  | cons operation operations ih =>
    have hstep : Settled (durableRequest requested operation) (operation.apply lower sha256 s) :=
      h.apply (fun preferences answers hset => hparsed preferences answers (by simp [hset]))
    exact ih hstep (fun preferences answers hset =>
      hparsed preferences answers (List.mem_cons_of_mem _ hset))

theorem Settled.persisted (h : Settled requested s) :
    s.persistedSettings=normalizeSettings { s.settings with query := requested } := by
  have hwindow : max 15 (min s.settings.metricWindowSeconds 600)=
      s.settings.metricWindowSeconds := by
    have hbounds := h.window
    omega
  have hinterval : max 500 (min s.settings.sampleIntervalMs 5000)=s.settings.sampleIntervalMs := by
    have hbounds := h.interval
    omega
  have hpreferences : s.settings.uiPreferences.filter validUiPreferences=
      s.settings.uiPreferences := by
    cases hset : s.settings.uiPreferences with
    | none => rfl
    | some preferences => exact if_pos (h.preferences preferences hset)
  simp only [normalizeSettings,persistedSettings,hwindow,hinterval,hpreferences,h.durable]

/-- What the next start makes of the settings that were written. -/
def Survives (fromValue : Json → Except String RuntimeSettings) (s : Store) : Prop :=
  ∃ settings, migrateRuntimeSettings fromValue (toValue s.persistedSettings)=
      .ok (.current settings) ∧ normalizeSettings settings=s.persistedSettings

theorem Settled.survives (h : Settled requested s)
    {fromValue : Json → Except String RuntimeSettings}
    (hserde : fromValue (toValue s.persistedSettings)=.ok s.persistedSettings) :
    Survives fromValue s ↔ Whole requested.filterText := by
  have hvalid : ∀ preferences∈s.persistedSettings.uiPreferences,
      validUiPreferences preferences=true := h.preferences
  have hread := migrate_written hvalid hserde
  have htwice := normalizeSettings_twice { s.settings with query := requested }
  rw [← h.persisted] at htwice
  rw [← htwice]
  constructor
  · intro ⟨settings,hcurrent,hnormalized⟩
    rw [hread] at hcurrent
    cases hcurrent
    exact hnormalized
  · intro hnormalized
    exact ⟨s.persistedSettings,hread,hnormalized⟩

theorem Settled.read (h : Settled requested s) :
    readSettings (toValue s.persistedSettings)=.ok s.persistedSettings := by
  have hwindow := h.window
  have hinterval := h.interval
  apply readSettings_value
  · exact Nat.lt_of_le_of_lt hwindow.2 (by decide)
  · exact Nat.lt_of_le_of_lt hinterval.2 (by decide)
  · intro preferences hpreferences
    have hvalid := h.preferences preferences hpreferences
    simp only [validUiPreferences,Bool.and_eq_true,decide_eq_true_eq] at hvalid
    have hsmall : ∀ limit∈[30,72,180,360], limit < 2^32 := by decide
    exact hsmall _ hvalid.2

/-- The settings survive a restart exactly when the text of the query that the user asked for
last, or that was loaded when there was none, is not cut right after white space. -/
theorem settings_survive_iff (lower : Lowercase) (sha256 : List UInt8 → List UInt8)
    (fromValue : Json → Except String RuntimeSettings) (provenance : RuntimeProvenance)
    (settings : RuntimeSettings) (seq : Nat) (rows : List ProcessSample) (answers : Answers)
    (operations : List Operation)
    (hparsed : ∀ preferences answers, .setUiPreferences preferences answers∈operations →
      parseUiPreferences preferences=.ok preferences)
    (hserde : fromValue (toValue (run lower sha256 (fromWarmCache lower sha256 provenance settings
        seq rows answers) operations).persistedSettings)=
      .ok (run lower sha256 (fromWarmCache lower sha256 provenance settings seq rows answers)
        operations).persistedSettings) :
    (Survives fromValue (run lower sha256 (fromWarmCache lower sha256 provenance settings seq rows
        answers) operations) ↔
      Whole (operations.foldl durableRequest settings.query).filterText) ∧
    ∀ loaded : RuntimeSettings, normalizeSettings (normalizeSettings loaded)=
        normalizeSettings loaded ↔ Whole loaded.query.filterText := by
  have hstart : Settled settings.query (fromWarmCache lower sha256 provenance settings seq rows
      answers) := settled_fromWarmCache provenance settings seq rows answers
  exact ⟨(hstart.run hparsed).survives hserde,normalizeSettings_twice⟩

section Desktop

def desktopStart : Store :=
  fromWarmCache .ascii id linuxProvenance {} 0 [] (desktopAnswers 1)

def desktopRequests (filterText : String) : List Operation :=
  [.setQueryWithIntent { filterText := filterText } .userMutation (desktopAnswers 2),
    .setUiPreferences ⟨"cave:dark",72⟩ (desktopAnswers 3),
    .setQueryWithIntent { filterText := "runtime only" } .runtimeOnly (desktopAnswers 4),
    .setPaused true (desktopAnswers 5)]

theorem desktopRequests_parsed (filterText : String) (preferences : RuntimeUiPreferences)
    (answers : Answers)
    (h : .setUiPreferences preferences answers∈desktopRequests filterText) :
    parseUiPreferences preferences=.ok preferences := by
  simp only [desktopRequests,List.mem_cons,List.not_mem_nil,or_false,reduceCtorEq,false_or,
    Operation.setUiPreferences.injEq] at h
  rw [h.1]
  decide

theorem desktop_settled (filterText : String) :
    Settled ((desktopRequests filterText).foldl durableRequest ({} : RuntimeSettings).query)
      (run .ascii id desktopStart (desktopRequests filterText)) :=
  (settled_fromWarmCache linuxProvenance {} 0 [] (desktopAnswers 1)).run
    (desktopRequests_parsed filterText)

theorem chrome_survives :
    Survives readSettings (run .ascii id desktopStart (desktopRequests " chrome ")) :=
  (settings_survive_iff .ascii id readSettings linuxProvenance {} 0 [] (desktopAnswers 1)
    (desktopRequests " chrome ") (desktopRequests_parsed _) (desktop_settled _).read).1.mpr
    (by decide)

/-- A text whose 256th character is the space before its last word. -/
def cutText : String := String.ofList (List.replicate 255 'a'++[' ','b'])

theorem words_trimmed (n : Nat) : trim (.ofList ('a'::List.replicate n 'a'++[' ','b']))=
    .ofList ('a'::List.replicate n 'a'++[' ','b']) := by
  refine trim_eq_self.mpr ⟨?_,?_⟩
  · intro c hc
    cases hc
    decide
  · intro c hc
    rw [List.getLast?_append] at hc
    cases hc
    decide

theorem words_space (n : Nat) : ('a'::List.replicate n 'a'++[' ','b'])[n+1]? =some ' ' := by
  simp

theorem cutText_not_whole : ¬Whole cutText := by
  have hlist : (trim cutText).toList= 'a'::List.replicate 254 'a'++[' ','b'] :=
    (congrArg String.toList (words_trimmed 254)).trans String.toList_ofList
  intro h
  have hspace := h ' ' ((congrArg (·[255]?) hlist).trans (words_space 254))
  exact absurd hspace (by decide)

theorem cut_text_does_not_survive : ¬∀ (lower : Lowercase) (sha256 : List UInt8 → List UInt8)
    (fromValue : Json → Except String RuntimeSettings) (provenance : RuntimeProvenance)
    (settings : RuntimeSettings) (seq : Nat) (rows : List ProcessSample) (answers : Answers)
    (operations : List Operation),
    (∀ preferences answers, .setUiPreferences preferences answers∈operations →
      parseUiPreferences preferences=.ok preferences) →
    fromValue (toValue (run lower sha256 (fromWarmCache lower sha256 provenance settings seq rows
        answers) operations).persistedSettings)=
      .ok (run lower sha256 (fromWarmCache lower sha256 provenance settings seq rows answers)
        operations).persistedSettings →
    Survives fromValue (run lower sha256 (fromWarmCache lower sha256 provenance settings seq rows
      answers) operations) := by
  intro h
  have hsurvives := h .ascii id readSettings linuxProvenance {} 0 [] (desktopAnswers 1)
    (desktopRequests cutText) (desktopRequests_parsed cutText) (desktop_settled cutText).read
  have hwhole : Whole cutText :=
    ((desktop_settled cutText).survives (desktop_settled cutText).read).mp hsurvives
  exact cutText_not_whole hwhole

end Desktop

end Store
end BatCave.RuntimeStore
