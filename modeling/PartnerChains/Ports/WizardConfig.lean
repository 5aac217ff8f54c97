import PartnerChains.Ports.SerdeJson
import PartnerChains.Verified.Fallible

/-!
# Config fields of the wizards

The port of `ConfigFieldDefinition`: a field is a path in the JSON of a config
file.  Saving walks along the path and creates the objects that are missing, or
that are something else.

A field is a lens, apart from one case: the walk starts with the file as it is,
and indexing a JSON array, string, number or boolean with a key panics.
`lensLaws_iff` says that nothing else goes wrong.
-/

namespace PartnerChains.Ports.WizardConfig

open PartnerChains.Ports.SerdeJson
open PartnerChains.Verified.Fallible

/-! ## Fields and files -/

/-- Reading and writing JSON text. -/
structure JsonText (Text : Type) where
  fromStr : Text → Option JValue
  toStringPretty : JValue → Text
  fromStr_toStringPretty : ∀ json, fromStr (toStringPretty json) = some json

/-- What is found under a path. -/
inductive File (Text : Type) where
  | missing
  | unreadable
  | content (text : Text)

/-- The files by path. -/
abbrev Files (Text : Type) := String → File Text

/-- `ConfigFieldDefinition`, with the serde implementation of its type. -/
structure ConfigFieldDefinition (T : Type) where
  configFile : String
  path : List String
  toValue : T → Option JValue
  fromValue : JValue → Option T

/-- How the wizard ends without an error value. -/
inductive Halt where
  /-- `Config file … is broken`, and the process exits. -/
  | corruptedFile (configFile : String)
  /-- A value cannot be indexed with a key. -/
  | indexPanic (key : String)
  /-- `to_value` fails and is unwrapped. -/
  | toValuePanic
deriving DecidableEq

/-- The walk of `extract_from_json_object`. -/
def valueAt : List String → Option JValue → Option JValue
  | [], json => json
  | _ :: _, none => none
  | field :: path, some json => valueAt path (json.get field)

/-- The object that the walk of `save_to_file` continues with. -/
def stepInto (head : JValue) (field : String) : JValue :=
  ((head.get field).filter JValue.isObject).getD (.object [])

/-- The assignment `head[field] = value`. -/
def assignField (head : JValue) (field : String) (value : JValue) : Except Halt JValue :=
  (head.assign field value).elim (.error (.indexPanic field)) .ok

/-- The walk of `save_to_file`, which gets the value when it has come to the end
of the path.  What it writes through the cursor `head[field]` is assigned when
it is done. -/
def setAt : List String → Except Halt JValue → JValue → Except Halt JValue
  | [], value, _ => value
  | field :: path, value, head => do
      let inner := stepInto head field
      let head ← assignField head field inner
      let inner ← setAt path value inner
      assignField head field inner

section Field

variable {Text T : Type} (text : JsonText Text) (self : ConfigFieldDefinition T)

/-- `load_file`: a file that does not parse ends the process. -/
def loadFile (files : Files Text) : Except Halt (Option JValue) :=
  match files self.configFile with
  | .missing => .ok none
  | .unreadable => .error (.corruptedFile self.configFile)
  | .content content =>
      (text.fromStr content).elim (.error (.corruptedFile self.configFile))
        fun json => .ok (some json)

/-- `extract_from_json_object`: the value at the path, if it has the right type. -/
def extractFromJsonObject (json : JValue) : Option T :=
  (valueAt self.path (some json)).bind self.fromValue

/-- `load_from_file`: a field of the wrong type counts as missing. -/
def loadFromFile (files : Files Text) : Except Halt (Option T) := do
  let json ← loadFile text self files
  .ok (json.bind (extractFromJsonObject self))

/-- `save_to_file`: the other fields of the file stay. -/
def saveToFile (value : T) (files : Files Text) : Except Halt (Files Text) := do
  let json ← loadFile text self files
  let json ← setAt self.path ((self.toValue value).elim (.error .toValuePanic) .ok)
    (json.getD (.object []))
  .ok (Function.update files self.configFile (.content (text.toStringPretty json)))

end Field

/-! ## Walking -/

section Walk

variable {field : String} {path path' : List String} {value value' head json : JValue}

/-- A key can be assigned to the value. -/
def Indexable (head : JValue) : Prop := head.isObject = true ∨ head = .null

/-- A value can be assigned into what can be indexed. -/
theorem assign_of_indexable (h : Indexable head) (field : String) (value : JValue) :
    ∃ head', head.assign field value = some head' := by
  cases head with
  | null => exact ⟨_, rfl⟩
  | object members => exact ⟨_, rfl⟩
  | bool b => rcases h with h | h <;> cases h
  | number n => rcases h with h | h <;> cases h
  | string s => rcases h with h | h <;> cases h
  | array items => rcases h with h | h <;> cases h

theorem indexable_of_assign (h : head.assign field value = some json) : Indexable head := by
  cases head with
  | null => exact .inr rfl
  | object members => exact .inl rfl
  | bool b => cases h
  | number n => cases h
  | string s => cases h
  | array items => cases h

private theorem assignField_eq_ok : assignField head field value = .ok json ↔
    head.assign field value = some json := by
  unfold assignField
  cases head.assign field value with
  | none => simp
  | some head' => simp

theorem isObject_stepInto (head : JValue) (field : String) :
    (stepInto head field).isObject = true := by
  unfold stepInto
  cases hfilter : (head.get field).filter JValue.isObject with
  | none => rfl
  | some inner => exact (Option.filter_eq_some_iff.mp hfilter).2

/-- One step of the walk: the rest of it fills the inner object. -/
theorem setAt_cons_eq_ok {value : Except Halt JValue} :
    setAt (field :: path) value head = .ok json ↔
      ∃ inner, setAt path value (stepInto head field) = .ok inner ∧
        head.assign field inner = some json := by
  rw [setAt]
  constructor
  · intro h
    obtain ⟨head', hhead, h⟩ := bind_eq_ok.mp h
    obtain ⟨inner, hinner, h⟩ := bind_eq_ok.mp h
    refine ⟨inner, hinner, ?_⟩
    rw [← JValue.assign_assign (assignField_eq_ok.mp hhead)]
    exact assignField_eq_ok.mp h
  · rintro ⟨inner, hinner, hassign⟩
    obtain ⟨head', hhead⟩ :=
      assign_of_indexable (indexable_of_assign hassign) field (stepInto head field)
    refine bind_eq_ok.mpr ⟨head', assignField_eq_ok.mpr hhead, ?_⟩
    refine bind_eq_ok.mpr ⟨inner, hinner, assignField_eq_ok.mpr ?_⟩
    rwa [JValue.assign_assign hhead]

/-- The walk ends if it can start. -/
theorem setAt_ok (path : List String) (value : JValue) (h : path = [] ∨ Indexable head) :
    ∃ json, setAt path (.ok value) head = .ok json := by
  induction path generalizing head with
  | nil => exact ⟨value, rfl⟩
  | cons field path ih =>
      have hhead : Indexable head := by
        rcases h with h | h
        · cases h
        · exact h
      obtain ⟨inner, hinner⟩ := @ih (stepInto head field) (.inr (.inl (isObject_stepInto _ _)))
      obtain ⟨json, hjson⟩ := assign_of_indexable hhead field inner
      exact ⟨json, setAt_cons_eq_ok.mpr ⟨inner, hinner, hjson⟩⟩

/-- Setting a value only succeeds where the root can be indexed. -/
theorem indexable_of_setAt {value : Except Halt JValue} (h : setAt path value head = .ok json) :
    path = [] ∨ Indexable head := by
  cases path with
  | nil => exact .inl rfl
  | cons field path =>
      obtain ⟨inner, -, hassign⟩ := setAt_cons_eq_ok.mp h
      exact .inr (indexable_of_assign hassign)

/-- The root is an object afterwards. -/
theorem isObject_setAt {value : Except Halt JValue} (h : setAt path value head = .ok json)
    (hpath : path ≠ []) : json.isObject = true := by
  cases path with
  | nil => exact absurd rfl hpath
  | cons field path =>
      obtain ⟨inner, -, hassign⟩ := setAt_cons_eq_ok.mp h
      exact JValue.isObject_of_assign hassign

private theorem valueAt_setAt (h : setAt path (.ok value) head = .ok json) :
    valueAt path (some json) = some value := by
  induction path generalizing head json with
  | nil =>
      obtain rfl := Except.ok.inj h
      rfl
  | cons field path ih =>
      obtain ⟨inner, hinner, hassign⟩ := setAt_cons_eq_ok.mp h
      rw [valueAt, JValue.get_assign_self hassign]
      exact ih hinner

theorem valueAt_none (path : List String) : valueAt path none = none := by
  cases path with
  | nil => rfl
  | cons field path => rfl

/-- What is not an object has no values to find, and so the walk may replace
it. -/
theorem valueAt_stepInto (hpath : path ≠ []) (head : JValue) (field : String) :
    valueAt path (some (stepInto head field)) = valueAt path (head.get field) := by
  obtain ⟨key, path, rfl⟩ := List.exists_cons_of_ne_nil hpath
  unfold stepInto
  cases hget : head.get field with
  | none =>
      rw [valueAt]
      exact valueAt_none path
  | some inner =>
      cases inner with
      | object members => rfl
      | null => exact (valueAt_none path).trans (valueAt_none path).symm
      | bool b => exact (valueAt_none path).trans (valueAt_none path).symm
      | number n => exact (valueAt_none path).trans (valueAt_none path).symm
      | string s => exact (valueAt_none path).trans (valueAt_none path).symm
      | array items => exact (valueAt_none path).trans (valueAt_none path).symm

/-- Neither path begins with the other one. -/
def Incomparable (path path' : List String) : Prop := ¬ path <+: path' ∧ ¬ path' <+: path

theorem ne_nil_of_incomparable {path path' : List String} (h : Incomparable path path') :
    path' ≠ [] := by
  rintro rfl
  exact h.2 List.nil_prefix

private theorem valueAt_setAt_of_incomparable {value : Except Halt JValue}
    (h : setAt path value head = .ok json) (hpaths : Incomparable path path') :
    valueAt path' (some json) = valueAt path' (some head) := by
  induction path generalizing head json path' with
  | nil => exact absurd (List.nil_prefix) hpaths.1
  | cons field path ih =>
      cases path' with
      | nil => exact absurd (List.nil_prefix) hpaths.2
      | cons field' path' =>
          obtain ⟨inner, hinner, hassign⟩ := setAt_cons_eq_ok.mp h
          rw [valueAt, valueAt]
          by_cases heq : field = field'
          · subst heq
            have hrest : Incomparable path path' := by
              refine ⟨fun hprefix => hpaths.1 ?_, fun hprefix => hpaths.2 ?_⟩
              · exact List.cons_prefix_cons.mpr ⟨rfl, hprefix⟩
              · exact List.cons_prefix_cons.mpr ⟨rfl, hprefix⟩
            rw [JValue.get_assign_self hassign, ih hinner hrest,
              valueAt_stepInto (ne_nil_of_incomparable hrest)]
          · rw [JValue.get_assign_of_ne hassign heq]

/-- The second of two walks along a path wins. -/
theorem setAt_setAt {value : Except Halt JValue} (h : setAt path value head = .ok json)
    (value' : JValue) :
    setAt path (.ok value') json = setAt path (.ok value') head := by
  induction path generalizing head json with
  | nil => rfl
  | cons field path ih =>
      obtain ⟨inner, hinner, hassign⟩ := setAt_cons_eq_ok.mp h
      have hstep : setAt path (.ok value') (stepInto json field) =
          setAt path (.ok value') (stepInto head field) := by
        cases path with
        | nil => rfl
        | cons key path =>
            have hobject := isObject_setAt hinner (List.cons_ne_nil key path)
            have heq : stepInto json field = inner := by
              rw [stepInto, JValue.get_assign_self hassign, Option.filter_some_pos hobject]
              rfl
            rw [heq]
            exact ih hinner
      obtain ⟨inner', hinner'⟩ := @setAt_ok (stepInto head field) path value'
        (.inr (.inl (isObject_stepInto _ _)))
      obtain ⟨json', hjson'⟩ := assign_of_indexable (indexable_of_assign hassign) field inner'
      rw [setAt_cons_eq_ok.mpr ⟨inner', hinner', hjson'⟩]
      refine setAt_cons_eq_ok.mpr ⟨inner', hstep.trans hinner', ?_⟩
      rw [JValue.assign_assign hassign, hjson']

end Walk

/-! ## The laws -/

section Laws

variable {Text T U : Type} {text : JsonText Text} {self : ConfigFieldDefinition T}
  {other : ConfigFieldDefinition U} {files files' : Files Text}

/-- The serde form of the value exists and is read back. -/
def RoundTrips (self : ConfigFieldDefinition T) (value : T) : Prop :=
  ∃ json, self.toValue value = some json ∧ self.fromValue json = some value

/-- The fields are in different files, or none of them is in the other one. -/
def Independent (other : ConfigFieldDefinition U) (self : ConfigFieldDefinition T) : Prop :=
  other.configFile ≠ self.configFile ∨ Incomparable other.path self.path

/-- Saving `value` works and is read back, whatever independent fields are saved
before or after; independent fields do not change what is loaded; and an
earlier value leaves no trace. -/
structure LensLaws (text : JsonText Text) (field : ConfigFieldDefinition T) (value : T)
    (files : Files Text) : Prop where
  loads : ∃ files', saveToFile text field value files = .ok files' ∧
    loadFromFile text field files' = .ok (some value)
  after : ∀ {U : Type} (other : ConfigFieldDefinition U) (w : U) (files' files'' : Files Text),
    Independent other field → saveToFile text field value files = .ok files' →
    saveToFile text other w files' = .ok files'' →
    loadFromFile text field files'' = .ok (some value)
  before : ∀ {U : Type} (other : ConfigFieldDefinition U) (w : U) (files' : Files Text),
    Independent other field → saveToFile text other w files = .ok files' →
    loadFromFile text field files' = loadFromFile text field files ∧
      ∃ files'', saveToFile text field value files' = .ok files'' ∧
        loadFromFile text field files'' = .ok (some value)
  twice : ∀ (first : T) (files' : Files Text), saveToFile text field first files = .ok files' →
    saveToFile text field value files' = saveToFile text field value files

/-- A file that was written is loaded. -/
theorem loadFile_update (json : JValue) :
    loadFile text self (Function.update files self.configFile
      (.content (text.toStringPretty json))) = .ok (some json) := by
  simp [loadFile, text.fromStr_toStringPretty]

theorem loadFile_update_of_ne (hne : other.configFile ≠ self.configFile) (file : File Text) :
    loadFile text self (Function.update files other.configFile file) =
      loadFile text self files := by
  simp only [loadFile, Function.update_of_ne hne.symm]

private theorem loadFile_congr (h : other.configFile = self.configFile) :
    loadFile text other files = loadFile text self files := by
  unfold loadFile
  rw [h]

/-- A missing file is read like an empty object. -/
theorem extract_getD (hpath : self.path ≠ []) (root : Option JValue) :
    extractFromJsonObject self (root.getD (.object [])) =
      root.bind (extractFromJsonObject self) := by
  cases root with
  | some json => rfl
  | none =>
      obtain ⟨field, path, heq⟩ := List.exists_cons_of_ne_nil hpath
      rw [extractFromJsonObject, heq]
      show (valueAt path none).bind _ = none
      rw [valueAt_none]
      rfl

/-- What a successful save does. -/
theorem saveToFile_eq_ok {w : U} (h : saveToFile text other w files = .ok files') :
    ∃ root json, loadFile text other files = .ok root ∧
      setAt other.path ((other.toValue w).elim (.error .toValuePanic) .ok)
        (root.getD (.object [])) = .ok json ∧
      files' = Function.update files other.configFile (.content (text.toStringPretty json)) := by
  obtain ⟨root, hroot, h⟩ := bind_eq_ok.mp h
  obtain ⟨json, hjson, h⟩ := bind_eq_ok.mp h
  exact ⟨root, json, hroot, hjson, (Except.ok.inj h).symm⟩

/-- What a file looks like after saving. -/
theorem saveToFile_of_load {value : T} {root : Option JValue} {json : JValue}
    (hroot : loadFile text self files = .ok root)
    (hjson : setAt self.path ((self.toValue value).elim (.error .toValuePanic) .ok)
      (root.getD (.object [])) = .ok json) :
    saveToFile text self value files =
      .ok (Function.update files self.configFile (.content (text.toStringPretty json))) :=
  bind_eq_ok.mpr ⟨root, hroot, bind_eq_ok.mpr ⟨json, hjson, rfl⟩⟩

/-- A value that was saved is loaded. -/
theorem loadFromFile_saveToFile {value : T} (hvalue : RoundTrips self value)
    (h : saveToFile text self value files = .ok files') :
    loadFromFile text self files' = .ok (some value) := by
  obtain ⟨root, json, -, hjson, rfl⟩ := saveToFile_eq_ok h
  obtain ⟨form, hform, hback⟩ := hvalue
  rw [hform] at hjson
  refine bind_eq_ok.mpr ⟨some json, loadFile_update json, ?_⟩
  rw [Option.bind_some, extractFromJsonObject, valueAt_setAt hjson, Option.bind_some, hback]

/-- Saving an independent field leaves what is loaded. -/
theorem loadFromFile_of_independent {w : U} (hfields : Independent other self)
    (h : saveToFile text other w files = .ok files') :
    loadFromFile text self files' = loadFromFile text self files := by
  obtain ⟨root, json, hroot, hjson, rfl⟩ := saveToFile_eq_ok h
  by_cases hfile : other.configFile = self.configFile
  · have hpaths : Incomparable other.path self.path := hfields.resolve_left fun h => h hfile
    rw [loadFile_congr hfile] at hroot
    rw [loadFromFile, loadFromFile, hroot, hfile, loadFile_update]
    show Except.ok (extractFromJsonObject self json) = Except.ok (root.bind _)
    rw [← extract_getD (ne_nil_of_incomparable hpaths), extractFromJsonObject,
      valueAt_setAt_of_incomparable hjson hpaths]
    rfl
  · rw [loadFromFile, loadFile_update_of_ne hfile]
    rfl

/-- The walk from the JSON of the file can start, if there is a path to walk. -/
def CanSave (self : ConfigFieldDefinition T) (root : Option JValue) : Prop :=
  self.path = [] ∨ ∀ json, root = some json → Indexable json

private theorem indexable_getD {root : Option JValue} (h : CanSave self root) :
    self.path = [] ∨ Indexable (root.getD (.object [])) := by
  rcases h with hpath | hroot
  · exact .inl hpath
  · refine .inr ?_
    cases root with
    | none => exact .inl rfl
    | some json => exact hroot json rfl

private theorem saveToFile_ok {value : T} (hvalue : RoundTrips self value) {root : Option JValue}
    (hroot : loadFile text self files = .ok root) (h : CanSave self root) :
    ∃ files', saveToFile text self value files = .ok files' := by
  obtain ⟨form, hform, -⟩ := hvalue
  obtain ⟨json, hjson⟩ := setAt_ok self.path form (indexable_getD h)
  exact ⟨_, saveToFile_of_load hroot (by rw [hform]; exact hjson)⟩

/-- After an independent field has been saved, the field can be saved if it
could be before. -/
theorem canSave_of_independent {w : U} (hfields : Independent other self)
    {root : Option JValue} (hroot : loadFile text self files = .ok root) (h : CanSave self root)
    (hsave : saveToFile text other w files = .ok files') :
    ∃ root', loadFile text self files' = .ok root' ∧ CanSave self root' := by
  obtain ⟨_, json, -, hjson, rfl⟩ := saveToFile_eq_ok hsave
  by_cases hfile : other.configFile = self.configFile
  · have hpaths : Incomparable other.path self.path := hfields.resolve_left fun h => h hfile
    refine ⟨some json, by rw [hfile]; exact loadFile_update json, .inr ?_⟩
    intro json' heq
    obtain rfl := Option.some.inj heq
    exact .inl (isObject_setAt hjson (ne_nil_of_incomparable ⟨hpaths.2, hpaths.1⟩))
  · exact ⟨root, by rw [loadFile_update_of_ne hfile, hroot], h⟩

private theorem saveToFile_twice {value : T} (hvalue : RoundTrips self value) {first : T}
    (h : saveToFile text self first files = .ok files') :
    saveToFile text self value files' = saveToFile text self value files := by
  obtain ⟨root, json, hroot, hjson, rfl⟩ := saveToFile_eq_ok h
  obtain ⟨form, hform, -⟩ := hvalue
  have hpath : self.path = [] ∨ Indexable (root.getD (.object [])) := indexable_of_setAt hjson
  obtain ⟨json', hjson'⟩ := setAt_ok self.path form hpath
  have hagain : setAt self.path (.ok form) json = .ok json' := by
    rw [setAt_setAt hjson]
    exact hjson'
  rw [saveToFile_of_load hroot (by rw [hform]; exact hjson'),
    saveToFile_of_load (loadFile_update json) (by rw [hform]; exact hagain),
    Function.update_idem]

/-- A field obeys the laws exactly if its path is empty, or the file does not
contain a JSON array, string, number or boolean. -/
theorem lensLaws_iff {value : T} (hvalue : RoundTrips self value) {root : Option JValue}
    (hroot : loadFile text self files = .ok root) :
    LensLaws text self value files ↔ CanSave self root := by
  constructor
  · intro h
    obtain ⟨files', hsave, -⟩ := h.loads
    obtain ⟨root', json, hroot', hjson, -⟩ := saveToFile_eq_ok hsave
    obtain rfl := Except.ok.inj (hroot.symm.trans hroot')
    rcases indexable_of_setAt hjson with hpath | hindexable
    · exact .inl hpath
    · refine .inr ?_
      rintro json' rfl
      exact hindexable
  · intro h
    refine ⟨?_, ?_, ?_, ?_⟩
    · obtain ⟨files', hsave⟩ := saveToFile_ok hvalue hroot h
      exact ⟨files', hsave, loadFromFile_saveToFile hvalue hsave⟩
    · intro U other w files' files'' hfields hsave hother
      rw [loadFromFile_of_independent hfields hother]
      exact loadFromFile_saveToFile hvalue hsave
    · intro U other w files' hfields hother
      obtain ⟨root', hroot', h'⟩ := canSave_of_independent hfields hroot h hother
      obtain ⟨files'', hsave⟩ := saveToFile_ok hvalue hroot' h'
      exact ⟨loadFromFile_of_independent hfields hother, files'', hsave,
        loadFromFile_saveToFile hvalue hsave⟩
    · intro first files' hfirst
      exact saveToFile_twice hvalue hfirst

end Laws

/-! ## A field of the resources -/

/-- JSON that stands for its own text. -/
def treeText : JsonText JValue := ⟨some, id, fun _ => rfl⟩

/-- `KUPO_HOSTNAME`, a field two levels deep. -/
def kupoHostname : ConfigFieldDefinition String where
  configFile := "partner-chains-cli-resources-config.json"
  path := ["kupo", "hostname"]
  toValue hostname := some (.string hostname)
  fromValue := JValue.asStr

theorem kupoHostname_roundTrips : RoundTrips kupoHostname "localhost" := ⟨_, rfl, rfl⟩

/-- A resources file with another hostname and with a text where an object is to
be. -/
def resourcesJson : JValue :=
  .object
    [.mk "kupo" (.string "localhost:1442"),
      .mk "ogmios" (.object [.mk "hostname" (.string "ogmios.local")])]

/-- The laws hold for the resources of the example, but not for an array. -/
theorem lensLaws_iff_resources :
    (LensLaws treeText kupoHostname "localhost" fun _ => .content resourcesJson) ∧
      ¬ LensLaws treeText kupoHostname "localhost" fun _ => .content (.array []) := by
  constructor
  · refine (lensLaws_iff kupoHostname_roundTrips rfl).mpr (.inr fun json h => ?_)
    obtain rfl := Option.some.inj h
    exact .inl rfl
  · rw [lensLaws_iff kupoHostname_roundTrips rfl]
    rintro (hpath | hindexable)
    · cases hpath
    · rcases hindexable _ rfl with hobject | hnull
      · cases hobject
      · cases hnull

/-- A file that contains an empty array is valid, and saving panics. -/
theorem emptyArray_panics :
    RoundTrips kupoHostname "localhost" ∧
      loadFile treeText kupoHostname (fun _ => .content (.array [])) = .ok (some (.array [])) ∧
      saveToFile treeText kupoHostname "localhost" (fun _ => .content (.array [])) =
        .error (.indexPanic "kupo") :=
  ⟨kupoHostname_roundTrips, rfl, rfl⟩

end PartnerChains.Ports.WizardConfig
