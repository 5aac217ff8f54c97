import PartnerChains.Ports.CardanoEras
import PartnerChains.Ports.TransactionBuilding
import PartnerChains.Ports.WizardConfig
import PartnerChains.Verified.Interactive
import PartnerChains.Verified.StableSort

/-!
# Wizards

The port of `IOContext` and of the operations of `ConfigFieldDefinition` that ask
the user.  A wizard is a program over the files; what it asks the outside is
answered by functions of the number of the request, about which nothing is
assumed.  What a wizard prints is left out.

A wizard saves some fields and leaves all others alone.  `Touches` says which
fields it saves at most, however it ends; `stored_saveAll` says what is found
after a number of fields has been saved.
-/

namespace PartnerChains.Ports.WizardIo

open PartnerChains.Ports.CardanoEras
open PartnerChains.Ports.TransactionBuilding
open PartnerChains.Ports.WizardConfig
open PartnerChains.Verified.Fallible
open PartnerChains.Verified.Interactive
open PartnerChains.Verified.StableSort

/-! ## Programs -/

/-- `OffchainError`, as far as it can occur here. -/
inductive OffchainError where
  | ogmiosError (message : String)
  | internalError (message : String)
deriving DecidableEq

/-- How a wizard ends early. -/
inductive Failure where
  /-- A config file cannot be used. -/
  | halt (halt : Halt)
  | panic (message : String)
  | error (message : String)
  /-- `ParseIntError`. -/
  | parseInt (value : String)
  /-- The message has the response as it is. -/
  | unexpectedResponse (query : String)
  | offchainCallFailed (e : OffchainError)
deriving DecidableEq

/-- The requests the wizards send to Ogmios. -/
inductive OgmiosRequest where
  | queryLedgerStateEraSummaries
  | queryNetworkShelleyGenesis
  | queryUtxo (address : String)

/-- The responses, one kind for each request. -/
inductive OgmiosResponse (CborBytes : Type) where
  | queryLedgerStateEraSummaries (eras : List EraSummary)
  | queryNetworkShelleyGenesis (configuration : ShelleyGenesisConfiguration)
  | queryUtxo (utxos : List (OgmiosUtxo CborBytes))

/-- The answers to a request with a number: of the user, and of Ogmios at an
address. -/
structure Outside (CborBytes : Type) where
  prompt : Nat → String → Option String → String
  promptYesNo : Nat → String → Bool → Bool
  promptMultiOption : Nat → String → List String → String
  ogmiosRpc : Nat → String → OgmiosRequest → Except String (OgmiosResponse CborBytes)
  /-- A client could be built. -/
  offchainImpl : Nat → String → Bool
  /-- The network of the Shelley genesis, as the client reports it. -/
  shelleyNetwork : Nat → String → Except String NetworkType

/-- The files, and the number of requests that were made to the outside. -/
structure World (Text : Type) where
  files : Files Text
  requests : Nat

/-- A wizard works on the world and can fail. -/
abbrev Wizard (Text α : Type) := Program (World Text) Failure α

variable {Text CborBytes T U α β : Type}

/-- One request to the outside.  An answer always comes: a prompt that the user
aborts is a panic in `DefaultCmdRunContext`, and that is no ending of the model. -/
def ask (answer : Nat → α) : Wizard Text α := fun world =>
  (.ok (answer world.requests), { world with requests := world.requests + 1 })

theorem ask_eq_ok {answer : Nat → α} {world world' : World Text} {a : α} :
    ask answer world = (.ok a, world') ↔
      a = answer world.requests ∧ world' = { world with requests := world.requests + 1 } := by
  unfold ask
  simp [eq_comm]

/-! ## Fields -/

/-- A field that the user is asked for.  `FromStr` and `Display` are those of its
type. -/
structure PromptField (T : Type) extends ConfigFieldDefinition T where
  name : String
  default : Option String
  fromStr : String → Except Failure T
  toDisplay : T → String

/-- The options with the default first. -/
def selectOptionsWithDefault (selectOptions : List String) (default : Option String) :
    List String :=
  match default with
  | none => selectOptions
  | some default => sortByKey (fun option => if option ≠ default then 1 else 0) selectOptions

section Field

variable (outside : Outside CborBytes) (text : JsonText Text)

/-- `load_from_file` as a step of a wizard. -/
def loadFromFile (field : ConfigFieldDefinition T) : Wizard Text (Option T) :=
  attempt fun world => (WizardConfig.loadFromFile text field world.files).mapError .halt

/-- It fails if the file is there and cannot be used.  `write_file` has no error: a
write that fails is a panic, and that is no ending of the model. -/
def saveToFile (field : ConfigFieldDefinition T) (value : T) : Wizard Text Unit :=
  change fun world => do
    let files ← (WizardConfig.saveToFile text field value world.files).mapError .halt
    .ok { world with files := files }

/-- `save_if_empty`: the value of the field afterwards. -/
def saveIfEmpty (field : ConfigFieldDefinition T) (value : T) : Wizard Text T := do
  match ← loadFromFile text field with
  | some value => pure value
  | none =>
      saveToFile text field value
      pure value

/-- `load_or_prompt_and_save`: the user is only asked when there is no value. -/
def loadOrPromptAndSave (field : PromptField String) : Wizard Text String := do
  match ← loadFromFile text field.toConfigFieldDefinition with
  | some value => pure value
  | none =>
      let value ← ask fun n => outside.prompt n field.name field.default
      saveToFile text field.toConfigFieldDefinition value
      pure value

/-- `prompt_with_default_from_file_and_save`: the stored value is offered before
the default. -/
def promptWithDefaultFromFileAndSave (field : PromptField String) : Wizard Text String := do
  let loaded ← loadFromFile text field.toConfigFieldDefinition
  let value ← ask fun n => outside.prompt n field.name (loaded.or field.default)
  saveToFile text field.toConfigFieldDefinition value
  pure value

/-- `prompt_with_default_from_file_parse_and_save`: nothing is saved when the
answer does not parse. -/
def promptWithDefaultFromFileParseAndSave (field : PromptField T) : Wizard Text T := do
  let loaded ← loadFromFile text field.toConfigFieldDefinition
  let value ← ask fun n =>
    outside.prompt n field.name ((loaded.map field.toDisplay).or field.default)
  let parsed ← lift (field.fromStr value)
  saveToFile text field.toConfigFieldDefinition parsed
  pure parsed

/-- `select_options_with_default_from_file_and_save`: the stored value is the
first option. -/
def selectOptionsWithDefaultFromFileAndSave (field : PromptField T)
    (selectOptions : List String) (prompt : String) : Wizard Text T := do
  let loaded ← loadFromFile text field.toConfigFieldDefinition
  let options :=
    selectOptionsWithDefault selectOptions ((loaded.map field.toDisplay).or field.default)
  let value ← ask fun n => outside.promptMultiOption n prompt options
  let parsed ← lift (field.fromStr value)
  saveToFile text field.toConfigFieldDefinition parsed
  pure parsed

end Field

/-! ## What is saved -/

section Stored

variable {outside : Outside CborBytes} {text : JsonText Text}

/-- What a wizard that loads the field finds. -/
def stored (text : JsonText Text) (field : ConfigFieldDefinition T) (world : World Text) :
    Except Halt (Option T) :=
  WizardConfig.loadFromFile text field world.files

/-- Only the file of the field matters. -/
theorem stored_congr {field : ConfigFieldDefinition T} {world world' : World Text}
    (h : world'.files field.configFile = world.files field.configFile) :
    stored text field world' = stored text field world := by
  simp only [stored, WizardConfig.loadFromFile, loadFile, h]

theorem loadFromFile_eq_ok {field : ConfigFieldDefinition T} {world world' : World Text}
    {value : Option T} : loadFromFile text field world = (.ok value, world') ↔
      stored text field world = .ok value ∧ world' = world := by
  rw [loadFromFile, run_attempt, mapError_eq_ok]
  rfl

theorem saveToFile_eq_ok {field : ConfigFieldDefinition T} {value : T} {u : Unit}
    {world world' : World Text} : saveToFile text field value world = (.ok u, world') ↔
      ∃ files, WizardConfig.saveToFile text field value world.files = .ok files ∧
        world' = { world with files := files } := by
  rw [saveToFile, run_change]
  constructor
  · intro h
    obtain ⟨files, hfiles, h⟩ := bind_eq_ok.mp h
    exact ⟨files, mapError_eq_ok.mp hfiles, (Except.ok.inj h).symm⟩
  · rintro ⟨files, hfiles, rfl⟩
    exact bind_eq_ok.mpr ⟨files, mapError_eq_ok.mpr hfiles, rfl⟩

/-- A value that was saved is stored. -/
theorem stored_saveToFile {field : ConfigFieldDefinition T} {value : T}
    (hvalue : RoundTrips field value) {u : Unit} {world world' : World Text}
    (h : saveToFile text field value world = (.ok u, world')) :
    stored text field world' = .ok (some value) := by
  obtain ⟨files, hfiles, rfl⟩ := saveToFile_eq_ok.mp h
  exact loadFromFile_saveToFile hvalue hfiles

private theorem keeps_saveToFile {field : ConfigFieldDefinition T} {other : ConfigFieldDefinition U}
    (hfields : Independent other field) (value : U) :
    Keeps (stored text field) (saveToFile text other value) := by
  refine Keeps.change fun world world' h => ?_
  obtain ⟨files, hfiles, h⟩ := bind_eq_ok.mp h
  obtain rfl := Except.ok.inj h
  exact loadFromFile_of_independent hfields (mapError_eq_ok.mp hfiles)

/-- Only the file of the field is written. -/
theorem keeps_file_saveToFile {field : ConfigFieldDefinition T} {path : String}
    (hpath : path ≠ field.configFile) (value : T) :
    Keeps (fun world => world.files path) (saveToFile text field value) := by
  refine Keeps.change fun world world' h => ?_
  obtain ⟨files, hfiles, h⟩ := bind_eq_ok.mp h
  obtain rfl := Except.ok.inj h
  obtain ⟨json, -, hfiles⟩ := bind_eq_ok.mp (mapError_eq_ok.mp hfiles)
  obtain ⟨json', -, hfiles⟩ := bind_eq_ok.mp hfiles
  obtain rfl := Except.ok.inj hfiles
  exact Function.update_of_ne hpath _ _

/-! ## The fields that a wizard touches -/

/-- The place of a field: its file and its path. -/
abbrev Place := String × List String

/-- The place of a field. -/
def placeOf (field : ConfigFieldDefinition T) : Place := (field.configFile, field.path)

/-- Neither place is in the other one. -/
def Apart (place place' : Place) : Prop :=
  place.1 ≠ place'.1 ∨ Incomparable place.2 place'.2

instance instDecidableApart (place place' : Place) : Decidable (Apart place place') :=
  inferInstanceAs (Decidable (place.1 ≠ place'.1 ∨
    ¬ place.2 <+: place'.2 ∧ ¬ place'.2 <+: place.2))

/-- However the wizard ends, a field that is apart from these places is left as
it was. -/
def Touches (text : JsonText Text) (places : List Place) (p : Wizard Text α) : Prop :=
  ∀ (T : Type) (field : ConfigFieldDefinition T),
    (∀ place ∈ places, Apart place (placeOf field)) → Keeps (stored text field) p

namespace Touches

variable {places places' : List Place} {p : Wizard Text α} {f : α → Wizard Text β}

/-- A field apart from all places that are touched keeps its value. -/
theorem keeps (h : Touches text places p) (field : ConfigFieldDefinition T)
    (hplaces : (places.all fun place => decide (Apart place (placeOf field))) = true) :
    Keeps (stored text field) p :=
  h T field fun place hplace => of_decide_eq_true (List.all_eq_true.mp hplaces place hplace)

theorem maintains (h : Touches text places p) {field : ConfigFieldDefinition T} {value : T}
    (hplaces : (places.all fun place => decide (Apart place (placeOf field))) = true) :
    Maintains (fun world => stored text field world = .ok (some value)) p :=
  (h.keeps field hplaces).maintains (· = .ok (some value))

theorem mono (h : Touches text places p) (hsub : places ⊆ places') : Touches text places' p :=
  fun _ field hfield => h _ field fun place hplace => hfield place (hsub hplace)

theorem bind (hp : Touches text places p) (hf : ∀ a, Touches text places (f a)) :
    Touches text places (p >>= f) :=
  fun _ field hfield => (hp _ field hfield).bind fun a => hf a _ field hfield

theorem pure (a : α) : Touches text places (pure a : Wizard Text α) := fun _ _ _ => Keeps.pure a

theorem fail (e : Failure) : Touches text places (fail e : Wizard Text α) :=
  fun _ _ _ => Keeps.fail e

theorem attempt (f : World Text → Except Failure α) : Touches text places (attempt f) :=
  fun _ _ _ => Keeps.attempt f

theorem lift (value : Except Failure α) : Touches text places (lift value : Wizard Text α) :=
  fun _ _ _ => Keeps.lift value

theorem ask (answer : Nat → α) : Touches text places (ask answer : Wizard Text α) :=
  fun _ _ _ _ => rfl

theorem ite {c : Prop} [Decidable c] {p q : Wizard Text α} (hp : Touches text places p)
    (hq : Touches text places q) : Touches text places (if c then p else q) :=
  fun _ field hfield => Keeps.ite (hp _ field hfield) (hq _ field hfield)

theorem save (field : ConfigFieldDefinition T) (value : T)
    (h : placeOf field ∈ places) :
    Touches text places (saveToFile text field value) :=
  fun _ _ hother => keeps_saveToFile (hother _ h) value

end Touches

section Operations

variable {places : List Place}

/-- Other files are left alone. -/
theorem keeps_file_saveIfEmpty {field : ConfigFieldDefinition T} {path : String}
    (hpath : path ≠ field.configFile) (value : T) :
    Keeps (fun world => world.files path) (saveIfEmpty text field value) := by
  refine Keeps.bind (Keeps.attempt _) fun loaded => ?_
  cases loaded with
  | some value => exact Keeps.pure value
  | none => exact Keeps.bind (keeps_file_saveToFile hpath value) fun _ => Keeps.pure value

theorem keeps_file_loadOrPromptAndSave {field : PromptField String} {path : String}
    (hpath : path ≠ field.configFile) :
    Keeps (fun world => world.files path) (loadOrPromptAndSave outside text field) := by
  refine Keeps.bind (Keeps.attempt _) fun loaded => ?_
  cases loaded with
  | some value => exact Keeps.pure value
  | none =>
      exact Keeps.bind (fun _ => rfl) fun value =>
        Keeps.bind (keeps_file_saveToFile hpath value) fun _ => Keeps.pure value

theorem touches_promptWithDefaultFromFileAndSave (field : PromptField String)
    (h : placeOf field.toConfigFieldDefinition ∈ places) :
    Touches text places (promptWithDefaultFromFileAndSave outside text field) :=
  Touches.bind (Touches.attempt _) fun _ => Touches.bind (Touches.ask _) fun value =>
    Touches.bind (Touches.save _ value h) fun _ => Touches.pure value

theorem touches_promptWithDefaultFromFileParseAndSave (field : PromptField T)
    (h : placeOf field.toConfigFieldDefinition ∈ places) :
    Touches text places (promptWithDefaultFromFileParseAndSave outside text field) :=
  Touches.bind (Touches.attempt _) fun _ => Touches.bind (Touches.ask _) fun _ =>
    Touches.bind (Touches.lift _) fun parsed =>
      Touches.bind (Touches.save _ parsed h) fun _ => Touches.pure parsed

theorem touches_selectOptionsWithDefaultFromFileAndSave (field : PromptField T)
    (selectOptions : List String) (prompt : String)
    (h : placeOf field.toConfigFieldDefinition ∈ places) :
    Touches text places
      (selectOptionsWithDefaultFromFileAndSave outside text field selectOptions prompt) :=
  Touches.bind (Touches.attempt _) fun _ => Touches.bind (Touches.ask _) fun _ =>
    Touches.bind (Touches.lift _) fun parsed =>
      Touches.bind (Touches.save _ parsed h) fun _ => Touches.pure parsed

theorem keeps_requests_saveToFile (field : ConfigFieldDefinition T) (value : T) :
    Keeps World.requests (saveToFile text field value) := by
  refine Keeps.change fun world world' h => ?_
  obtain ⟨files, -, h⟩ := bind_eq_ok.mp h
  rw [← Except.ok.inj h]

theorem maintains_requests_saveToFile {first : Nat} (field : ConfigFieldDefinition T) (value : T) :
    Maintains (fun world => first ≤ world.requests) (saveToFile text field value) :=
  (keeps_requests_saveToFile field value).maintains (first ≤ ·)

theorem maintains_requests_saveIfEmpty {first : Nat} (field : ConfigFieldDefinition T) (value : T) :
    Maintains (fun world => first ≤ world.requests) (saveIfEmpty text field value) := by
  refine Maintains.bind (fun _ h => h) fun loaded => ?_
  cases loaded with
  | some value => exact fun _ h => h
  | none => exact Maintains.bind (maintains_requests_saveToFile _ _) fun _ => fun _ h => h

theorem maintains_requests_loadOrPromptAndSave {first : Nat} (field : PromptField String) :
    Maintains (fun world => first ≤ world.requests) (loadOrPromptAndSave outside text field) := by
  refine Maintains.bind (fun _ h => h) fun loaded => ?_
  cases loaded with
  | some value => exact fun _ h => h
  | none =>
      refine Maintains.bind (fun _ h => h.trans (Nat.le_succ _)) fun value => ?_
      exact Maintains.bind (maintains_requests_saveToFile _ _) fun _ => fun _ h => h

/-- The value of the wizard is the one that is stored afterwards. -/
theorem stored_loadOrPromptAndSave {field : PromptField String}
    (hfield : ∀ value, RoundTrips field.toConfigFieldDefinition value) {value : String}
    {world world' : World Text}
    (h : loadOrPromptAndSave outside text field world = (.ok value, world')) :
    stored text field.toConfigFieldDefinition world' = .ok (some value) := by
  obtain ⟨loaded, world₁, hload, h⟩ := run_bind.mp h
  obtain ⟨hstored, rfl⟩ := loadFromFile_eq_ok.mp hload
  cases loaded with
  | some previous =>
      obtain ⟨rfl, rfl⟩ := run_pure.mp h
      exact hstored
  | none =>
      obtain ⟨answer, world₂, -, h⟩ := run_bind.mp h
      obtain ⟨_, world₃, hsave, h⟩ := run_bind.mp h
      obtain ⟨rfl, rfl⟩ := run_pure.mp h
      exact stored_saveToFile (hfield value) hsave

theorem stored_promptWithDefaultFromFileAndSave {field : PromptField String}
    (hfield : ∀ value, RoundTrips field.toConfigFieldDefinition value) {value : String}
    {world world' : World Text}
    (h : promptWithDefaultFromFileAndSave outside text field world =
      (.ok value, world')) :
    stored text field.toConfigFieldDefinition world' = .ok (some value) := by
  obtain ⟨loaded, world₁, -, h⟩ := run_bind.mp h
  obtain ⟨answer, world₂, -, h⟩ := run_bind.mp h
  obtain ⟨_, world₃, hsave, h⟩ := run_bind.mp h
  obtain ⟨rfl, rfl⟩ := run_pure.mp h
  exact stored_saveToFile (hfield value) hsave

end Operations

/-! ## Saving several fields -/

/-- A value to be saved in a field. -/
structure Write where
  {T : Type}
  field : ConfigFieldDefinition T
  value : T

/-- The place that is written. -/
def Write.place (write : Write) : Place := placeOf write.field

/-- Several fields are written, one after the other. -/
def saveAll (text : JsonText Text) : List Write → Wizard Text Unit
  | [] => pure ()
  | write :: writes => do
      saveToFile text write.field write.value
      saveAll text writes

/-- A list of writes touches the places it names. -/
theorem touches_saveAll (writes : List Write) :
    Touches text (writes.map Write.place) (saveAll text writes) := by
  induction writes with
  | nil => exact Touches.pure ()
  | cons write writes ih =>
      exact Touches.bind (Touches.save _ _ List.mem_cons_self)
        fun _ => ih.mono (List.subset_cons_self _ _)

/-- No place is in another one. -/
def pairwiseApart : List Place → Bool
  | [] => true
  | place :: places =>
      (places.all fun later => decide (Apart later place)) && pairwiseApart places

/-- Fields that are apart do not get in each other's way. -/
theorem stored_saveAll {writes : List Write}
    (hapart : pairwiseApart (writes.map Write.place) = true)
    (hvalues : ∀ write ∈ writes, RoundTrips write.field write.value) {u : Unit}
    {world world' : World Text} (h : saveAll text writes world = (.ok u, world')) :
    ∀ write ∈ writes, stored text write.field world' = .ok (some write.value) := by
  induction writes generalizing world with
  | nil => exact fun write hwrite => absurd hwrite List.not_mem_nil
  | cons first later ih =>
      obtain ⟨hfirst, hlater⟩ := Bool.and_eq_true_iff.mp hapart
      obtain ⟨_, world₁, hsave, hrest⟩ := run_bind.mp h
      intro write hwrite
      rcases List.mem_cons.mp hwrite with rfl | hwrite
      · rw [((touches_saveAll later).keeps _ hfirst).of_run hrest]
        exact stored_saveToFile (hvalues write List.mem_cons_self) hsave
      · exact ih hlater (fun write hwrite => hvalues write (List.mem_cons_of_mem _ hwrite)) hrest
          write hwrite

/-- What is stored in several fields stays there while other places are touched. -/
theorem Touches.stored {places : List Place} {p : Wizard Text α} (h : Touches text places p)
    {writes : List Write}
    (hapart : ((writes.map Write.place).all fun kept =>
      places.all fun place => decide (Apart place kept)) = true)
    {world world' : World Text} {result : Except Failure α} (hrun : p world = (result, world'))
    (hstored : ∀ write ∈ writes, stored text write.field world = .ok (some write.value)) :
    ∀ write ∈ writes, WizardIo.stored text write.field world' = .ok (some write.value) := by
  intro write hwrite
  have hplaces := List.all_eq_true.mp hapart write.place (List.mem_map_of_mem hwrite)
  rw [(h.keeps _ hplaces).of_run hrun]
  exact hstored write hwrite

end Stored

end PartnerChains.Ports.WizardIo
