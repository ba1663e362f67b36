import AdAway.Db.HostsSourceDao
import AdAway.Library.Journal

/-!
# The backup format

A backup is a JSON object with an array of sources and three arrays of user items, one for each
type. `BackupFormat` turns a source or an item into a JSON object and back.

The JSON library of the platform is a parameter where it handles text: `JsonLibrary` prints and
parses objects and converts a value to a string. What its accessors do with a parsed value is
modelled: `getString` takes any value there is for a string, `getBoolean` takes the text of a
boolean for one.

## Main definitions

* `Json`, `JsonLibrary` — the values, and the library
* `getString`, `getBoolean`, `getJSONArray`, `getJSONObject` — its accessors
* `sourceToJson`, `sourceFromJson`, `hostToJson`, `hostFromJson` — `BackupFormat`

## Main results

* `sourceFromJson_sourceToJson`, `hostFromJson_hostToJson` — what reads back of what is written
-/

namespace AdAway

/-! ### JSON -/

/-- A JSON value. -/
inductive Json
  | null
  | bool (value : Bool)
  /-- A number, by its text. -/
  | number (text : String)
  | string (value : String)
  | array (elements : List Json)
  | object (members : List (String × Json))

/-- `JSONObject`: the members of an object. -/
abbrev JSONObject := List (String × Json)

/-- The JSON library of the platform. -/
structure JsonLibrary where
  /-- `JSONObject.toString`, indented. -/
  print : JSONObject → String
  /-- The constructor of `JSONObject`, unless it throws. -/
  parse : String → Option JSONObject
  /-- `String.valueOf` of an array or an object. -/
  valueOf : Json → String

/-- What the accessors and `BackupFormat` throw. -/
inductive JSONException
  /-- "No value for" the name. -/
  | noValue (name : String)
  /-- The value cannot be converted. -/
  | typeMismatch
  /-- An exception of the application. -/
  | message (text : String)
  deriving DecidableEq, Repr

/-- `JSONObject.get`. -/
def getMember (object : JSONObject) (name : String) : Except JSONException Json :=
  match object.lookup name with
  | some value => .ok value
  | none => .error (.noValue name)

/-- `JSONObject.has`. -/
def has (object : JSONObject) (name : String) : Bool := (object.lookup name).isSome

/-- `JSON.toString` of the library. -/
def Json.asString (library : JsonLibrary) : Json → String
  | .null => "null"
  | .bool true => "true"
  | .bool false => "false"
  | .number text => text
  | .string value => value
  | .array elements => library.valueOf (.array elements)
  | .object members => library.valueOf (.object members)

/-- `JSONObject.getString`. -/
def getString (library : JsonLibrary) (object : JSONObject) (name : String) :
    Except JSONException String :=
  (getMember object name).map (Json.asString library)

/-- `String.equalsIgnoreCase` with the text of a boolean. -/
def isText (text value : String) : Bool :=
  text.toList = value.toList.map Char.toLower ||
    (text = "false" && value.toList.map Char.toLower = "falſe".toList)

/-- `JSONObject.getBoolean`. -/
def getBoolean (object : JSONObject) (name : String) : Except JSONException Bool := do
  match ← getMember object name with
  | .bool value => return value
  | .string value =>
    if isText "true" value then return true
    else if isText "false" value then return false
    else throw .typeMismatch
  | _ => throw .typeMismatch

/-- `JSONObject.getJSONArray`. -/
def getJSONArray (object : JSONObject) (name : String) : Except JSONException (List Json) := do
  match ← getMember object name with
  | .array elements => return elements
  | _ => throw .typeMismatch

/-- An element of an array as `JSONArray.getJSONObject` gives it. -/
def getJSONObject : Json → Except JSONException JSONObject
  | .object members => .ok members
  | _ => .error .typeMismatch

/-! ### Sources -/

/-- `BackupFormat.sourceToJson`. -/
def sourceToJson (source : HostsSource) : JSONObject :=
  [("label", .string source.label), ("url", .string source.url), ("enabled", .bool source.enabled),
    ("allow", .bool source.allowEnabled), ("redirect", .bool source.redirectEnabled)]

/-- `BackupFormat.sourceFromJson`. -/
def sourceFromJson (library : JsonLibrary) (sourceObject : JSONObject) :
    Except JSONException HostsSource := do
  let label ← getString library sourceObject "label"
  let url ← getString library sourceObject "url"
  if isValidUrl url then do
    let enabled ← getBoolean sourceObject "enabled"
    let allowEnabled ← getBoolean sourceObject "allow"
    let redirectEnabled ← getBoolean sourceObject "redirect"
    return newSource label url enabled allowEnabled redirectEnabled
  else throw (.message ("Invalid source URL: " ++ url))

theorem bind_eq_ok {ε α β : Type} {x : Except ε α} {f : α → Except ε β} {b : β} :
    (x >>= f) = .ok b ↔ ∃ a, x = .ok a ∧ f a = .ok b := by
  cases x with
  | error e => exact iff_of_false nofun nofun
  | ok a => exact ⟨fun h => ⟨a, rfl, h⟩, fun ⟨_, ha, h⟩ => Except.ok.inj ha ▸ h⟩

/-- A source that reads back has a valid URL, and has never been copied. -/
theorem sourceFromJson_eq_ok {library : JsonLibrary} {sourceObject : JSONObject}
    {source : HostsSource} (h : sourceFromJson library sourceObject = .ok source) :
    isValidUrl source.url = true ∧ source = newSource source.label source.url source.enabled
      source.allowEnabled source.redirectEnabled := by
  obtain ⟨label, -, h⟩ := bind_eq_ok.mp h
  obtain ⟨url, -, h⟩ := bind_eq_ok.mp h
  by_cases hvalid : isValidUrl url = true
  · rw [if_pos hvalid] at h
    obtain ⟨enabled, -, h⟩ := bind_eq_ok.mp h
    obtain ⟨allowEnabled, -, h⟩ := bind_eq_ok.mp h
    obtain ⟨redirectEnabled, -, h⟩ := bind_eq_ok.mp h
    cases h
    exact ⟨hvalid, rfl⟩
  · rw [if_neg hvalid] at h
    cases h

/-- A source with a valid URL reads back with its settings. -/
theorem sourceFromJson_sourceToJson (library : JsonLibrary) {source : HostsSource}
    (h : isValidUrl source.url = true) :
    sourceFromJson library (sourceToJson source)
      = .ok (newSource source.label source.url source.enabled source.allowEnabled
          source.redirectEnabled) := by
  rw [sourceFromJson]
  exact if_pos h

/-! ### Items -/

/-- `BackupFormat.hostToJson`. -/
def hostToJson (host : HostListItem) : JSONObject :=
  ("host", .string host.host) ::
    ((match host.redirection with
      | none => []
      | some redirection => if redirection = "" then [] else [("redirect", .string redirection)]) ++
    [("enabled", .bool host.enabled)])

/-- The string of a member that may be missing. -/
def getOptional (library : JsonLibrary) (object : JSONObject) (name : String) :
    Except JSONException (Option String) :=
  if has object name then (getString library object name).map some else .ok none

/-- `BackupFormat.hostFromJson`, with the type that `importListBackup` sets. -/
def hostFromJson (library : JsonLibrary) (type : ListType) (hostObject : JSONObject) :
    Except JSONException HostListItem := do
  let host ← getString library hostObject "host"
  let redirection ← getOptional library hostObject "redirect"
  let enabled ← getBoolean hostObject "enabled"
  return ⟨0, host, type, enabled, redirection, userSourceId⟩

/-- The redirection that a backup keeps. -/
def keptRedirection (redirection : Option String) : Option String := redirection.filter (· ≠ "")

/-- An item reads back, but for an empty redirection. -/
theorem hostFromJson_hostToJson (library : JsonLibrary) (type : ListType) (host : HostListItem) :
    hostFromJson library type (hostToJson host)
      = .ok ⟨0, host.host, type, host.enabled, keptRedirection host.redirection, userSourceId⟩ := by
  obtain ⟨id, name, type', enabled, redirection, sourceId⟩ := host
  cases redirection with
  | none => rfl
  | some redirection =>
    by_cases hempty : redirection = ""
    · subst hempty
      rfl
    · have hkept : keptRedirection (some redirection) = some redirection :=
        Option.filter_eq_some_iff.mpr ⟨rfl, by simpa using hempty⟩
      have hjson : hostToJson ⟨id, name, type', enabled, some redirection, sourceId⟩
          = [("host", .string name), ("redirect", .string redirection), ("enabled", .bool enabled)] := by
        simp [hostToJson, hempty]
      rw [hjson, hkept]
      rfl

/-- An item that reads back is a new item of the user. -/
theorem hostFromJson_eq_ok {library : JsonLibrary} {type : ListType} {hostObject : JSONObject}
    {item : HostListItem} (h : hostFromJson library type hostObject = .ok item) :
    item.id = 0 ∧ item.type = type ∧ item.sourceId = userSourceId := by
  obtain ⟨host, -, h⟩ := bind_eq_ok.mp h
  obtain ⟨redirection, -, h⟩ := bind_eq_ok.mp h
  obtain ⟨enabled, -, h⟩ := bind_eq_ok.mp h
  cases h
  exact ⟨rfl, rfl, rfl⟩

end AdAway
