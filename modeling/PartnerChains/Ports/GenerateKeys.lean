import PartnerChains.Ports.PrepareConfiguration

/-!
# Generating keys

The port of `generate_keys` and `keystore.rs`.  The wizard makes the node generate
the keys of a validator and put them into its keystore, and writes the public keys
into a file.  The keystore is a directory: a key is a file whose name starts with
the type of the key.

The node is a program of its own: one of its commands may do anything to the disk,
also when it fails.  `KeyCommands` is what its documentation says about a command
that succeeds, and `CleanFailures` that a failure leaves nothing behind.
`generateKeys_agree` is about the state that any number of runs leaves: after a run
that succeeds, the keys in the file are in the keystore, and with clean failures
there are no others.
-/

namespace PartnerChains.Ports.GenerateKeys

open PartnerChains.Ports.ConfigFields
open PartnerChains.Ports.Domain
open PartnerChains.Ports.PrepareConfiguration
open PartnerChains.Ports.SerdeJson
open PartnerChains.Ports.UtxoText
open PartnerChains.Ports.WizardConfig
open PartnerChains.Ports.WizardIo
open PartnerChains.Verified.Fallible
open PartnerChains.Verified.Interactive

/-! ## The keystore -/

/-- `KeyDefinition`: the name shown to the user, the signature scheme and the four
letters of the key type. -/
structure KeyDefinition where
  name : String
  scheme : String
  keyType : String
deriving DecidableEq

/-- The types of keys are ASCII. -/
def keyTypeHex (keyType : String) : UtxoText.Text :=
  hexEncode (keyType.toList.map fun c => UInt8.ofNat c.toNat)

/-- `key_type_hex`, which every file of such a key starts with. -/
def KeyDefinition.keyTypeHex (keyDef : KeyDefinition) : UtxoText.Text :=
  GenerateKeys.keyTypeHex keyDef.keyType

def aura : KeyDefinition := ⟨"Aura", "sr25519", "aura"⟩

def grandpa : KeyDefinition := ⟨"Grandpa", "ed25519", "gran"⟩

def crossChain : KeyDefinition := ⟨"Cross-chain", "ecdsa", "crch"⟩

/-- The three keys of a committee member. -/
def keyDefinitions : List KeyDefinition := [crossChain, grandpa, aura]

def defaultChainName : String := "partner_chains_template"

/-- The directory in which the node keeps the keys of a chain. -/
def keystorePath (substrateNodeBasePath chainName : String) : String :=
  substrateNodeBasePath ++ "/chains/" ++ chainName ++ "/keystore"

/-- `find_existing_key`: what follows the key type in the first file name that
starts with it. -/
def findExistingKey (existingKeys : List UtxoText.Text) (keyDef : KeyDefinition) :
    Option UtxoText.Text :=
  existingKeys.findSome? keyDef.keyTypeHex.isPrefixOf?

/-- A file of a keystore. -/
structure KeyFile (Text : Type) where
  name : UtxoText.Text
  content : Text

variable {Text CborBytes α : Type}

/-- The keystores are kept apart from the other files.  The files of a directory
are in the order in which it lists them. -/
structure Machine (Text : Type) where
  world : World Text
  keystores : String → List (KeyFile Text)

/-- A wizard that also works on the keystores. -/
abbrev KeyWizard (Text α : Type) := Program (Machine Text) Failure α

/-- A wizard that does not look at the keystores. -/
def onWorld (p : Wizard Text α) : KeyWizard Text α :=
  within Machine.world (fun world machine => { machine with world := world }) p

/-- A file of the same name is replaced. -/
def putFile (position : Nat) (file : KeyFile Text) (files : List (KeyFile Text)) :
    List (KeyFile Text) :=
  let others := files.filter fun other => other.name ≠ file.name
  others.take position ++ file :: others.drop position

/-- The directory without the files of the name. -/
def removeFile (name : UtxoText.Text) (files : List (KeyFile Text)) : List (KeyFile Text) :=
  files.filter fun file => file.name ≠ name

/-- What is on the disk: the files and the keystores. -/
abbrev Disk (Text : Type) := Files Text × (String → List (KeyFile Text))

/-- The disk a command of the node works on. -/
def Machine.disk (machine : Machine Text) : Disk Text := (machine.world.files, machine.keystores)

/-- The machine after a command; the answers of the user are not touched. -/
def Machine.setDisk (machine : Machine Text) (disk : Disk Text) : Machine Text :=
  ⟨{ machine.world with files := disk.1 }, disk.2⟩

/-- Another program works on the disk, and says how it ended. -/
def onDisk (p : Disk Text → Except String α × Disk Text) : KeyWizard Text α := fun machine =>
  ((p machine.disk).1.mapError .error, machine.setDisk (p machine.disk).2)

/-- A file is put into a keystore. -/
def Disk.put (disk : Disk Text) (path : String) (position : Nat) (file : KeyFile Text) :
    Disk Text :=
  (disk.1, Function.update disk.2 path (putFile position file (disk.2 path)))

/-- A file is removed from a keystore. -/
def Disk.remove (disk : Disk Text) (path : String) (name : UtxoText.Text) : Disk Text :=
  (disk.1, Function.update disk.2 path (removeFile name (disk.2 path)))

/-! ## The node -/

/-- The three commands of the node's executable the wizard runs. -/
inductive NodeCommand where
  | keyGenerate (scheme : String)
  | keyInsert (basePath scheme keyType suri : String)
  | keyGenerateNodeKey (basePath : String)

/-- The outside of a machine with a node.  A request has a number. -/
structure Node (CborBytes Text : Type) extends Outside CborBytes where
  /-- The output of a command of the executable, and the disk after it.  A command
  that fails may have done something as well. -/
  runCommand : Nat → String → NodeCommand → Disk Text → Except String Text × Disk Text
  /-- The public key of a secret phrase. -/
  publicKey : String → String → Bytes
  /-- The content of the file with a secret phrase. -/
  seed : String → Text
  readDir : Nat → Except String Unit
  removeFile : Nat → Except String Unit

section Wizard

variable (node : Node CborBytes Text) (lib : Libraries Text)

/-- The file of a key in the keystore. -/
def keyFile (scheme keyType phrase : String) : KeyFile Text :=
  ⟨keyTypeHex keyType ++ hexEncode (node.publicKey scheme phrase), node.seed phrase⟩

/-- A file is written outside of the keystores. -/
def setFile (path : String) (file : File Text) (machine : Machine Text) : Machine Text :=
  let files := Function.update machine.world.files path file
  { machine with world := { machine.world with files := files } }

/-- `run_command`. -/
def runCommand (executable : String) (command : NodeCommand) : KeyWizard Text Text := do
  let n ← onWorld (ask id)
  onDisk (node.runCommand n executable command)

/-- A directory that is missing lists nothing. -/
def listDirectory (path : String) : KeyWizard Text (List UtxoText.Text) := do
  let n ← onWorld (ask id)
  lift ((node.readDir n).mapError .error)
  attempt fun machine => .ok ((machine.keystores path).map KeyFile.name)

/-- `delete_file` for a file of the keystore. -/
def deleteKey (path : String) (name : UtxoText.Text) (context : String) : KeyWizard Text Unit := do
  let n ← onWorld (ask id)
  lift ((node.removeFile n).mapError fun _ => .error context)
  change fun machine =>
    if (machine.keystores path).any fun file => file.name = name then
      .ok (machine.setDisk (machine.disk.remove path name))
    else
      .error (.error context)

/-! ## The wizard -/

/-- Where the wizard finds the node and its keys. -/
structure GenerateKeysConfig where
  chainName : String
  substrateNodeBasePath : String
  nodeExecutable : String

/-- `GenerateKeysConfig::load`: the executable is not asked for, the base path is. -/
def GenerateKeysConfig.load : Wizard Text GenerateKeysConfig := do
  let nodeExecutable ← saveIfEmpty lib.toJsonText
    ConfigFields.nodeExecutable.toConfigFieldDefinition nodeExecutableDefault
  let substrateNodeBasePath ← loadOrPromptAndSave node.toOutside lib.toJsonText
    substrateNodeDataBasePath
  pure ⟨defaultChainName, substrateNodeBasePath, nodeExecutable⟩

/-- `keystore_path` of the configuration. -/
def GenerateKeysConfig.keystorePath (config : GenerateKeysConfig) : String :=
  GenerateKeys.keystorePath config.substrateNodeBasePath config.chainName

/-- `network_key_path` of the configuration. -/
def GenerateKeysConfig.networkKeyPath (config : GenerateKeysConfig) : String :=
  PrepareConfiguration.networkKeyPath config.substrateNodeBasePath config.chainName

/-- What `key generate` prints. -/
structure KeyGenerationOutput where
  publicKey : String
  secretPhrase : String

/-- The derived `Deserialize` of `KeyGenerationOutput`. -/
def keyGenerationOutputFromValue (json : JValue) : Option KeyGenerationOutput := do
  let publicKey ← (← json.get "publicKey").asStr
  let secretPhrase ← (← json.get "secretPhrase").asStr
  some ⟨publicKey, secretPhrase⟩

/-- The output of `key generate`, which is JSON. -/
def parseKeyGenerationOutput (output : Text) : Option KeyGenerationOutput :=
  (lib.fromStr output).bind keyGenerationOutputFromValue

/-- `generate_keys`: runs `key generate` and parses what it prints. -/
def generateKeys (executable : String) (keyDef : KeyDefinition) :
    KeyWizard Text KeyGenerationOutput := do
  let output ← runCommand node executable (.keyGenerate keyDef.scheme)
  lift (okOr (parseKeyGenerationOutput lib output)
    (.error ("Failed to parse generated keys json: " ++ lib.asString output)))

/-- `store_keys`: runs `key insert` with the secret phrase. -/
def storeKeys (config : GenerateKeysConfig) (keyDef : KeyDefinition)
    (output : KeyGenerationOutput) : KeyWizard Text Unit := do
  let _ ← runCommand node config.nodeExecutable
    (.keyInsert config.substrateNodeBasePath keyDef.scheme keyDef.keyType output.secretPhrase)
  pure ()

/-- A key is generated and stored. -/
def newKey (config : GenerateKeysConfig) (keyDef : KeyDefinition) :
    KeyWizard Text KeyGenerationOutput := do
  let output ← generateKeys node lib config.nodeExecutable keyDef
  storeKeys node config keyDef output
  pure output

/-- The branch of `generate_or_load_key` that overwrites: the new key is stored
before the old file is deleted. -/
def overwriteKey (config : GenerateKeysConfig) (keyDef : KeyDefinition) (key : UtxoText.Text) :
    KeyWizard Text String := do
  let output ← newKey node lib config keyDef
  let oldKeyPath := config.keystorePath ++ "/" ++ String.ofList (keyDef.keyTypeHex ++ key)
  deleteKey node config.keystorePath (keyDef.keyTypeHex ++ key)
    ("Failed to overwrite " ++ keyDef.name ++ " key at " ++ oldKeyPath)
  pure output.publicKey

/-- `generate_or_load_key`: the public key that the keystore and the keys file
should agree on. -/
def generateOrLoadKey (config : GenerateKeysConfig) (keyDef : KeyDefinition) :
    KeyWizard Text String := do
  let existingKeys ← listDirectory node config.keystorePath
  match findExistingKey existingKeys keyDef with
  | some key => do
      let overwrite ← onWorld (ask fun n => node.promptYesNo n ("A " ++ keyDef.name ++
        " key already exists in store: " ++ String.ofList key ++ " - overwrite it?") false)
      if overwrite then overwriteKey node lib config keyDef key
      else pure (String.ofList ('0' :: 'x' :: key))
  | none => do
      let output ← newKey node lib config keyDef
      pure output.publicKey

/-- `prompt_can_write`: an existing file is only replaced when the user agrees. -/
def promptCanWrite (name path : String) : KeyWizard Text Bool := do
  let missing ← attempt fun machine =>
    match machine.world.files path with
    | .missing => .ok true
    | _ => .ok false
  if missing then pure true
  else onWorld (ask fun n => node.promptYesNo n (name ++ " " ++ path ++
    " exists - overwrite it?") false)

/-- The members in the order of the struct. -/
def keysFileValue (keys : PermissionedCandidateKeys) : JValue :=
  .object
    [.mk "sidechain_pub_key" (.string keys.sidechainPubKey),
      .mk "aura_pub_key" (.string keys.auraPubKey),
      .mk "grandpa_pub_key" (.string keys.grandpaPubKey)]

/-- The part of `generate_spo_keys` after the user agreed; the keys file is
written last. -/
def generateAllKeys (config : GenerateKeysConfig) : KeyWizard Text Unit := do
  let crossChainKey ← generateOrLoadKey node lib config crossChain
  let grandpaKey ← generateOrLoadKey node lib config grandpa
  let auraKey ← generateOrLoadKey node lib config aura
  change fun machine => .ok (setFile keysFilePath (.content
    (lib.toStringPretty (keysFileValue ⟨crossChainKey, auraKey, grandpaKey⟩))) machine)

/-- `generate_spo_keys`: nothing is generated when the keys file is to be kept. -/
def generateSpoKeys (config : GenerateKeysConfig) : KeyWizard Text Unit := do
  let canWrite ← promptCanWrite node "keys file" keysFilePath
  if canWrite then generateAllKeys node lib config else pure ()

/-- A secret key has 32 bytes. -/
def decodeNetworkKey (keyStr : String) : Option (FixedBytes 32) := do
  let slice ← lib.hex.fromHex keyStr.toList
  FixedBytes.tryFrom 32 slice

/-- `run_generate_network_key`: the node writes the key into its base path. -/
def runGenerateNetworkKey (config : GenerateKeysConfig) : KeyWizard Text Unit := do
  let _ ← runCommand node config.nodeExecutable (.keyGenerateNodeKey config.substrateNodeBasePath)
  pure ()

/-- `delete_file` for the network key. -/
def deleteNetworkKey (path : String) : KeyWizard Text Unit := do
  let n ← onWorld (ask id)
  lift ((node.removeFile n).mapError fun _ => .error ("Failed to delete file: " ++ path))
  change fun machine => .ok (setFile path .missing machine)

/-- `generate_network_key`: a key that does not decode is deleted first. -/
def generateNetworkKey (config : GenerateKeysConfig) : KeyWizard Text Unit := do
  let file ← onWorld (readFile config.networkKeyPath)
  match file.map fun content => decodeNetworkKey lib (lib.asString content) with
  | some (some _) => pure ()
  | none => runGenerateNetworkKey node config
  | some none => do
      deleteNetworkKey node config.networkKeyPath
      runGenerateNetworkKey node config

/-- `GenerateKeysCmd::run`. -/
def generateKeysCmd : KeyWizard Text Unit := do
  let config ← onWorld (GenerateKeysConfig.load node lib)
  generateSpoKeys node lib config
  generateNetworkKey node lib config

end Wizard

/-! ## The keys of one type -/

section Entries

variable {keyDef keyDef' : KeyDefinition} {file : KeyFile Text} {files : List (KeyFile Text)}
  {name : UtxoText.Text}

/-- The name is that of a key of the type. -/
def isOf (keyDef : KeyDefinition) (name : UtxoText.Text) : Bool := keyDef.keyTypeHex.isPrefixOf name

/-- The files of one kind of key. -/
def entriesOf (keyDef : KeyDefinition) (files : List (KeyFile Text)) : List (KeyFile Text) :=
  files.filter fun file => isOf keyDef file.name

theorem isOf_append (keyDef : KeyDefinition) (key : UtxoText.Text) :
    isOf keyDef (keyDef.keyTypeHex ++ key) = true :=
  List.isPrefixOf_iff_prefix.mpr (List.prefix_append _ _)

private theorem keyTypeHex_injective :
    ∀ keyDef ∈ keyDefinitions, ∀ keyDef' ∈ keyDefinitions,
      keyDef.keyTypeHex = keyDef'.keyTypeHex → keyDef = keyDef' := by decide

/-- The names of the keys cannot be mixed up, since their prefixes are equally
long. -/
theorem length_keyTypeHex : ∀ keyDef ∈ keyDefinitions, keyDef.keyTypeHex.length = 8 := by decide

/-- A key has one type. -/
theorem isOf_append_of_ne (h : keyDef ∈ keyDefinitions) (h' : keyDef' ∈ keyDefinitions)
    (hne : keyDef' ≠ keyDef) (key : UtxoText.Text) :
    isOf keyDef' (keyDef.keyTypeHex ++ key) = false := by
  rw [Bool.eq_false_iff]
  intro hof
  have hlength : keyDef'.keyTypeHex.length = keyDef.keyTypeHex.length :=
    (length_keyTypeHex _ h').trans (length_keyTypeHex _ h).symm
  have hcommon := List.prefix_of_prefix_length_le (List.isPrefixOf_iff_prefix.mp hof)
    (List.prefix_append _ _) hlength.le
  exact hne (keyTypeHex_injective _ h' _ h (hcommon.eq_of_length hlength))

/-- The key that is found is the first of its kind. -/
theorem findExistingKey_names (keyDef : KeyDefinition) (files : List (KeyFile Text)) :
    findExistingKey (files.map KeyFile.name) keyDef =
      (entriesOf keyDef files).head?.bind fun file => keyDef.keyTypeHex.isPrefixOf? file.name := by
  induction files with
  | nil => rfl
  | cons file files ih =>
      have hcons : findExistingKey ((file :: files).map KeyFile.name) keyDef =
          (keyDef.keyTypeHex.isPrefixOf? file.name).or
            (findExistingKey (files.map KeyFile.name) keyDef) := by
        simp only [findExistingKey, List.map_cons, List.findSome?_cons]
        cases keyDef.keyTypeHex.isPrefixOf? file.name with
        | none => rfl
        | some key => rfl
      rw [hcons, entriesOf, List.filter_cons]
      by_cases hof : isOf keyDef file.name
      · obtain ⟨key, hkey⟩ := List.isPrefixOf_iff_prefix.mp hof
        have hsome := List.isPrefixOf?_eq_some_iff_append_eq.mpr hkey
        rw [if_pos hof, hsome, List.head?_cons, Option.bind_some, hsome]
        rfl
      · have hnone : keyDef.keyTypeHex.isPrefixOf? file.name = none := by
          rw [Option.eq_none_iff_forall_ne_some]
          intro key hkey
          exact hof (List.isPrefixOf_iff_prefix.mpr
            ⟨key, List.isPrefixOf?_eq_some_iff_append_eq.mp hkey⟩)
        rw [if_neg hof, hnone, Option.none_or, ih]
        rfl

theorem entriesOf_removeFile :
    entriesOf keyDef (removeFile name files) = removeFile name (entriesOf keyDef files) := by
  simp only [entriesOf, removeFile, List.filter_filter, Bool.and_comm]

/-- Removing a file of another kind does not matter. -/
theorem entriesOf_removeFile_of_other (h : isOf keyDef name = false) :
    entriesOf keyDef (removeFile name files) = entriesOf keyDef files := by
  rw [entriesOf_removeFile]
  refine List.filter_eq_self.mpr fun file hfile => decide_eq_true ?_
  rintro rfl
  have hof := (List.mem_filter.mp hfile).2
  rw [h] at hof
  exact absurd hof (by decide)

/-- A new file is added to those of its kind, whatever its position. -/
theorem entriesOf_putFile_perm {position : Nat} (h : isOf keyDef file.name = true) :
    (entriesOf keyDef (putFile position file files)).Perm
      (file :: removeFile file.name (entriesOf keyDef files)) := by
  rw [← entriesOf_removeFile]
  have hperm : (putFile position file files).Perm (file :: removeFile file.name files) := by
    refine List.perm_middle.trans (List.Perm.cons _ ?_)
    rw [List.take_append_drop]
    exact List.Perm.refl _
  have hfilter := hperm.filter fun file => isOf keyDef file.name
  rwa [List.filter_cons, if_pos h] at hfilter

private theorem entriesOf_putFile_of_other {position : Nat} (h : isOf keyDef file.name = false) :
    entriesOf keyDef (putFile position file files) = entriesOf keyDef files := by
  rw [← @entriesOf_removeFile_of_other _ _ files _ h, putFile, entriesOf, List.filter_append,
    List.filter_cons, if_neg (by simp [h]), ← List.filter_append, List.take_append_drop]
  rfl

/-- The only key of a type is overwritten, unless the new key is the old one. -/
theorem entriesOf_overwrite {position : Nat} {old new : KeyFile Text}
    (hold : entriesOf keyDef files = [old]) (hnew : isOf keyDef new.name = true) :
    entriesOf keyDef (removeFile old.name (putFile position new files)) =
      if new.name = old.name then [] else [new] := by
  have hperm : (entriesOf keyDef (removeFile old.name (putFile position new files))).Perm
      (removeFile old.name (new :: removeFile new.name [old])) := by
    rw [entriesOf_removeFile, ← hold]
    exact (entriesOf_putFile_perm hnew).filter _
  by_cases hname : new.name = old.name
  · rw [if_pos hname]
    have hnil : removeFile old.name (new :: removeFile new.name [old]) = [] := by
      simp [removeFile, hname]
    rw [hnil] at hperm
    exact hperm.eq_nil
  · rw [if_neg hname]
    have hsingle : removeFile old.name (new :: removeFile new.name [old]) = [new] := by
      simp [removeFile, hname, Ne.symm hname]
    rw [hsingle] at hperm
    exact List.perm_singleton.mp hperm

end Entries

/-! ## What a step does -/

section Step

section Update

variable (disk : Disk Text) {path path' : String} (position : Nat) (file : KeyFile Text)
  (name : UtxoText.Text)

@[simp] theorem Disk.put_same :
    (disk.put path position file).2 path = putFile position file (disk.2 path) :=
  Function.update_self _ _ _

@[simp] theorem Disk.put_of_ne (h : path' ≠ path) :
    (disk.put path position file).2 path' = disk.2 path' :=
  Function.update_of_ne h _ _

@[simp] theorem Disk.remove_same : (disk.remove path name).2 path = removeFile name (disk.2 path) :=
  Function.update_self _ _ _

@[simp] theorem Disk.remove_of_ne (h : path' ≠ path) :
    (disk.remove path name).2 path' = disk.2 path' :=
  Function.update_of_ne h _ _

end Update

variable (node : Node CborBytes Text) (lib : Libraries Text)

/-- The documented effects of the commands.  Generating a key changes nothing on the
disk, and generating a network key only the file of that key.  A key that has been
inserted is in the keystore of the default chain. -/
structure KeyCommands : Prop where
  generate : ∀ n executable scheme disk,
    (node.runCommand n executable (.keyGenerate scheme) disk).2 = disk
  insert : ∀ {n executable basePath scheme keyType suri disk output disk'},
    node.runCommand n executable (.keyInsert basePath scheme keyType suri) disk =
      (.ok output, disk') →
    ∃ position, disk' = disk.put (keystorePath basePath defaultChainName) position
      (keyFile node scheme keyType suri)
  networkKey_keystores : ∀ n executable basePath disk,
    (node.runCommand n executable (.keyGenerateNodeKey basePath) disk).2.2 = disk.2
  networkKey_files : ∀ n executable basePath disk path,
    path ≠ networkKeyPath basePath defaultChainName →
    (node.runCommand n executable (.keyGenerateNodeKey basePath) disk).2.1 path = disk.1 path

/-- Failures leave nothing behind: an insertion that is reported to have failed has
not changed the disk, and files can be removed. -/
structure CleanFailures : Prop where
  insert : ∀ {n executable basePath scheme keyType suri disk message disk'},
    node.runCommand n executable (.keyInsert basePath scheme keyType suri) disk =
      (.error message, disk') → disk' = disk
  remove : ∀ n, node.removeFile n = .ok ()

/-- The node may generate the key at a request from this number on. -/
def Generated (first : Nat) (scheme : String) (output : KeyGenerationOutput) : Prop :=
  ∃ n, first ≤ n ∧ ∃ executable disk text,
    (node.runCommand n executable (.keyGenerate scheme) disk).1 = .ok text ∧
      parseKeyGenerationOutput lib text = some output

/-- A key is kept, added or overwritten. -/
inductive KeyStep (first : Nat) (path : String) (keyDef : KeyDefinition) (disk : Disk Text) :
    String → Disk Text → Prop where
  | keep {key} (hkey : findExistingKey ((disk.2 path).map KeyFile.name) keyDef = some key) :
      KeyStep first path keyDef disk (String.ofList ('0' :: 'x' :: key)) disk
  | add {output} (hkey : findExistingKey ((disk.2 path).map KeyFile.name) keyDef = none)
      (houtput : Generated node lib first keyDef.scheme output) (position : Nat) :
      KeyStep first path keyDef disk output.publicKey
        (disk.put path position
          (keyFile node keyDef.scheme keyDef.keyType output.secretPhrase))
  | overwrite {key output}
      (hkey : findExistingKey ((disk.2 path).map KeyFile.name) keyDef = some key)
      (houtput : Generated node lib first keyDef.scheme output) (position : Nat) :
      KeyStep first path keyDef disk output.publicKey
        ((disk.put path position
          (keyFile node keyDef.scheme keyDef.keyType output.secretPhrase)).remove path
            (keyDef.keyTypeHex ++ key))

/-- The machine has this disk, and its next request has this number or a later
one. -/
def At (first : Nat) (disk : Disk Text) (machine : Machine Text) : Prop :=
  machine.disk = disk ∧ first ≤ machine.world.requests

variable {node lib} {first : Nat}

/-- A question does not touch the disk, and its number has not been used before. -/
theorem triple_ask (disk : Disk Text) (answer : Nat → α) :
    Triple (At first disk) (onWorld (ask answer) : KeyWizard Text α)
      (fun a machine => At first disk machine ∧ ∃ n, first ≤ n ∧ a = answer n)
      (At first disk) where
  ok {machine a machine'} hat hrun := by
    obtain ⟨world, hask, rfl⟩ := run_within.mp hrun
    obtain ⟨rfl, rfl⟩ := ask_eq_ok.mp hask
    exact ⟨⟨hat.1, hat.2.trans (Nat.le_succ _)⟩, _, hat.2, rfl⟩
  error _ hrun := by cases hrun

private theorem triple_onDisk (disk : Disk Text) (p : Disk Text → Except String α × Disk Text) :
    Triple (At first disk) (onDisk p)
      (fun a machine => ∃ disk', p disk = (.ok a, disk') ∧ At first disk' machine)
      (fun machine => ∃ message disk', p disk = (.error message, disk') ∧
        At first disk' machine) where
  ok hat hrun := by
    obtain ⟨rfl, hfirst⟩ := hat
    obtain ⟨hok, rfl⟩ := Prod.mk.inj hrun
    exact ⟨_, Prod.ext (mapError_eq_ok.mp hok) rfl, rfl, hfirst⟩
  error hat hrun := by
    obtain ⟨rfl, hfirst⟩ := hat
    obtain ⟨herror, rfl⟩ := Prod.mk.inj hrun
    obtain ⟨message, hmessage, -⟩ := mapError_eq_error.mp herror
    exact ⟨message, _, Prod.ext hmessage rfl, rfl, hfirst⟩

/-- What a command has done when it succeeds, and when it fails. -/
theorem triple_runCommand {disk : Disk Text} {executable : String} {command : NodeCommand}
    {Q : Text → Machine Text → Prop} {F : Machine Text → Prop}
    (hok : ∀ n output disk', first ≤ n →
      node.runCommand n executable command disk = (.ok output, disk') →
        ∀ machine, At first disk' machine → Q output machine)
    (herror : ∀ n message disk',
      node.runCommand n executable command disk = (.error message, disk') →
        ∀ machine, At first disk' machine → F machine) :
    Triple (At first disk) (runCommand node executable command) Q F := by
  refine Triple.bind (Q := fun n machine => At first disk machine ∧ first ≤ n) ⟨?_, ?_⟩ fun n =>
    Triple.assuming fun hfirst => ?_
  · intro machine n machine' hat hrun
    obtain ⟨hat', _, hfirst, rfl⟩ := (triple_ask disk id).ok hat hrun
    exact ⟨hat', hfirst⟩
  · intro machine e machine' _ hrun
    cases hrun
  · refine ⟨fun hat hrun => ?_, fun hat hrun => ?_⟩
    · obtain ⟨disk', hcommand, hat'⟩ := (triple_onDisk disk _).ok hat hrun
      exact hok n _ disk' hfirst hcommand _ hat'
    · obtain ⟨message, disk', hcommand, hat'⟩ := (triple_onDisk disk _).error hat hrun
      exact herror n message disk' hcommand _ hat'

section Commands

variable (hcommands : KeyCommands node)

include hcommands

private theorem triple_generateKeys (disk : Disk Text) (executable : String)
    (keyDef : KeyDefinition) :
    Triple (At first disk) (generateKeys node lib executable keyDef)
      (fun output machine => At first disk machine ∧
        Generated node lib first keyDef.scheme output)
      (At first disk) := by
  have hdisk {n : Nat} {result : Except String Text} {disk' : Disk Text}
      (h : node.runCommand n executable (.keyGenerate keyDef.scheme) disk = (result, disk')) :
      disk' = disk := by
    rw [← hcommands.generate n executable keyDef.scheme disk, h]
  refine Triple.bind (Q := fun text machine => At first disk machine ∧ ∃ n, first ≤ n ∧
    (node.runCommand n executable (.keyGenerate keyDef.scheme) disk).1 = .ok text)
      (triple_runCommand ?_ ?_) fun text => Triple.lift ?_ ?_
  · intro n text disk' hfirst hrun machine hat
    exact ⟨hdisk hrun ▸ hat, n, hfirst, congrArg Prod.fst hrun⟩
  · intro n message disk' hrun machine hat
    exact hdisk hrun ▸ hat
  · rintro output houtput machine ⟨hat, n, hfirst, hrun⟩
    exact ⟨hat, n, hfirst, executable, disk, text, hrun, okOr_eq_ok.mp houtput⟩
  · rintro e - machine ⟨hat, -⟩
    exact hat

/-- A key that cannot be inserted may be there nevertheless. -/
theorem triple_newKey (disk : Disk Text) {config : GenerateKeysConfig}
    (hchain : config.chainName = defaultChainName) (keyDef : KeyDefinition) :
    Triple (At first disk) (newKey node lib config keyDef)
      (fun output machine => ∃ position,
        At first (disk.put config.keystorePath position
          (keyFile node keyDef.scheme keyDef.keyType output.secretPhrase)) machine ∧
        Generated node lib first keyDef.scheme output)
      (fun machine => CleanFailures node → At first disk machine) := by
  refine Triple.bind (Triple.weaken (triple_generateKeys hcommands disk _ keyDef)
    fun machine hat _ => hat) fun output => Triple.assuming fun houtput => ?_
  refine Triple.bind (Q := fun _ machine => ∃ position,
    At first (disk.put config.keystorePath position
        (keyFile node keyDef.scheme keyDef.keyType output.secretPhrase)) machine ∧
      Generated node lib first keyDef.scheme output) ?_ fun _ => Triple.pure fun machine h => h
  refine Triple.bind (triple_runCommand ?_ ?_) fun text => Triple.pure fun machine h => h
  · intro n text disk' _ hrun machine hat
    obtain ⟨position, rfl⟩ := hcommands.insert hrun
    refine ⟨position, ?_, houtput⟩
    rw [GenerateKeysConfig.keystorePath, hchain]
    exact hat
  · intro n message disk' hrun machine hat hclean
    exact hclean.insert hrun ▸ hat

end Commands

/-- A key that is found is the name of a file. -/
theorem exists_of_findExistingKey {files : List (KeyFile Text)} {keyDef : KeyDefinition}
    {key : UtxoText.Text} (h : findExistingKey (files.map KeyFile.name) keyDef = some key) :
    ∃ file ∈ files, file.name = keyDef.keyTypeHex ++ key := by
  obtain ⟨name, hname, hkey⟩ := List.exists_of_findSome?_eq_some h
  obtain ⟨file, hfile, rfl⟩ := List.mem_map.mp hname
  exact ⟨file, hfile, (List.isPrefixOf?_eq_some_iff_append_eq.mp hkey).symm⟩

private theorem mem_entriesOf {keyDef : KeyDefinition} {files : List (KeyFile Text)}
    {file : KeyFile Text}
    {key : UtxoText.Text} (h : file ∈ files) (hname : file.name = keyDef.keyTypeHex ++ key) :
    file ∈ entriesOf keyDef files :=
  List.mem_filter.mpr ⟨h, hname ▸ isOf_append keyDef key⟩

theorem mem_putFile (position : Nat) (file : KeyFile Text) (files : List (KeyFile Text)) :
    file ∈ putFile position file files := by
  simp [putFile]

/-- A name is still there after another file was put. -/
theorem any_name_putFile {position : Nat} {file new : KeyFile Text} {files : List (KeyFile Text)}
    (h : file ∈ files) :
    ((putFile position new files).any fun other => other.name = file.name) = true := by
  rw [List.any_eq_true]
  by_cases hname : new.name = file.name
  · exact ⟨new, mem_putFile _ _ _, decide_eq_true hname⟩
  · have hmem : file ∈ files.filter fun other => other.name ≠ new.name :=
      List.mem_filter.mpr ⟨h, decide_eq_true (Ne.symm hname)⟩
    rw [← List.take_append_drop position (files.filter _), List.mem_append] at hmem
    refine ⟨file, ?_, decide_eq_true rfl⟩
    rcases hmem with hmem | hmem
    · exact List.mem_append_left _ hmem
    · exact List.mem_append_right _ (List.mem_cons_of_mem _ hmem)

private theorem triple_deleteKey (disk : Disk Text) (path : String) (name : UtxoText.Text)
    (context : String) (hname : ((disk.2 path).any fun file => file.name = name) = true)
    (F : Machine Text → Prop) :
    Triple (At first disk) (deleteKey node path name context)
      (fun _ machine => At first (disk.remove path name) machine)
      (fun machine => CleanFailures node → F machine) := by
  refine Triple.bind (Q := fun _ machine => At first disk machine)
    ⟨fun hat hrun => ((triple_ask disk id).ok hat hrun).1, fun _ h => by cases h⟩ fun n => ?_
  refine Triple.bind (Triple.lift (Q := fun _ machine => At first disk machine)
    (fun _ _ machine hat => hat) fun e h _ _ hclean => ?_) fun _ => Triple.change ?_ ?_
  · rw [hclean.remove] at h
    cases h
  all_goals rintro machine _ ⟨rfl, hrequests⟩ h
  all_goals rw [if_pos (show ((machine.keystores path).any fun file => file.name = name) = true
    from hname)] at h
  · rw [← Except.ok.inj h]
    exact ⟨rfl, hrequests⟩
  · cases h

section Commands

variable (hcommands : KeyCommands node)

include hcommands

private theorem triple_overwriteKey (disk : Disk Text) {config : GenerateKeysConfig}
    (hchain : config.chainName = defaultChainName) (keyDef : KeyDefinition) {key : UtxoText.Text}
    (hkey : findExistingKey ((disk.2 config.keystorePath).map KeyFile.name) keyDef = some key) :
    Triple (At first disk) (overwriteKey node lib config keyDef key)
      (fun key machine => ∃ disk', At first disk' machine ∧
        KeyStep node lib first config.keystorePath keyDef disk key disk')
      (fun machine => CleanFailures node → At first disk machine) := by
  obtain ⟨file, hfile, hname⟩ := exists_of_findExistingKey hkey
  refine Triple.bind (triple_newKey hcommands disk hchain keyDef) fun output => ?_
  refine Triple.of_forall fun position => Triple.assuming fun houtput => ?_
  refine Triple.bind (triple_deleteKey _ _ _ _ ?_ _) fun _ => Triple.pure fun machine h =>
    ⟨_, h, .overwrite hkey houtput position⟩
  rw [← hname, Disk.put_same]
  exact any_name_putFile hfile

/-- A step that fails leaves the disk as it is, if its failure is clean. -/
theorem triple_generateOrLoadKey (disk : Disk Text) {config : GenerateKeysConfig}
    (hchain : config.chainName = defaultChainName) (keyDef : KeyDefinition) :
    Triple (At first disk) (generateOrLoadKey node lib config keyDef)
      (fun key machine => ∃ disk', At first disk' machine ∧
        KeyStep node lib first config.keystorePath keyDef disk key disk')
      (fun machine => CleanFailures node → At first disk machine) := by
  refine Triple.bind (Q := fun existing machine => At first disk machine ∧
    existing = (disk.2 config.keystorePath).map KeyFile.name) ?_ fun existing =>
      Triple.assuming ?_
  · refine Triple.bind (Triple.weaken (triple_ask disk id) fun machine hat _ => hat) fun n =>
      Triple.assuming fun _ => ?_
    refine Triple.bind (Triple.lift (Q := fun _ machine => At first disk machine)
      (fun _ _ machine hat => hat) fun e _ machine hat _ => hat) fun _ => ?_
    refine ⟨fun hat hrun => ?_, fun _ hrun => by cases hrun⟩
    obtain ⟨hexisting, rfl⟩ := run_attempt.mp hrun
    rw [← Except.ok.inj hexisting, ← hat.1]
    exact ⟨⟨rfl, hat.2⟩, rfl⟩
  rintro rfl
  cases hkey : findExistingKey ((disk.2 config.keystorePath).map KeyFile.name) keyDef with
  | none =>
      refine Triple.bind (triple_newKey hcommands disk hchain keyDef) fun output => Triple.pure ?_
      rintro machine ⟨position, hat, houtput⟩
      exact ⟨_, hat, .add hkey houtput position⟩
  | some key =>
      refine Triple.bind (Triple.weaken (triple_ask disk _) fun machine hat _ => hat)
        fun overwrite => Triple.assuming fun _ => Triple.ite (fun _ => ?_) fun _ => ?_
      · exact triple_overwriteKey hcommands disk hchain keyDef hkey
      · exact Triple.pure fun machine hat => ⟨disk, hat, .keep hkey⟩

end Commands

/-! ## At most one key of a type -/

/-- The text is that of a key in the keystore. -/
def Present (keyDef : KeyDefinition) (files : List (KeyFile Text)) (publicKey : String) : Prop :=
  ∃ key, publicKey = String.ofList ('0' :: 'x' :: key) ∧
    ∃ file ∈ entriesOf keyDef files, file.name = keyDef.keyTypeHex ++ key

/-- There is at most one key, and its name is that of its phrase. -/
def Single (node : Node CborBytes Text) (keyDef : KeyDefinition) (files : List (KeyFile Text)) :
    Prop :=
  entriesOf keyDef files = [] ∨
    ∃ phrase, entriesOf keyDef files = [keyFile node keyDef.scheme keyDef.keyType phrase]

/-- There is exactly one key, and the text is that of its public key. -/
def Holds (node : Node CborBytes Text) (keyDef : KeyDefinition) (files : List (KeyFile Text))
    (publicKey : String) : Prop :=
  ∃ phrase, entriesOf keyDef files = [keyFile node keyDef.scheme keyDef.keyType phrase] ∧
    publicKey = String.ofList ('0' :: 'x' :: hexEncode (node.publicKey keyDef.scheme phrase))

/-- What the node says about a key is right. -/
def Honest (node : Node CborBytes Text) (lib : Libraries Text) : Prop :=
  ∀ first scheme output, Generated node lib first scheme output → output.publicKey =
    String.ofList ('0' :: 'x' :: hexEncode (node.publicKey scheme output.secretPhrase))

/-- From this request on, none of the keys is generated again. -/
def Fresh (node : Node CborBytes Text) (lib : Libraries Text) (first : Nat)
    (keyDef : KeyDefinition) (files : List (KeyFile Text)) : Prop :=
  ∀ output, Generated node lib first keyDef.scheme output → ∀ file ∈ entriesOf keyDef files,
    (keyFile node keyDef.scheme keyDef.keyType output.secretPhrase).name ≠ file.name

/-- Whether a key is held depends on the files of its kind only. -/
theorem Holds.of_entriesOf_eq {keyDef : KeyDefinition} {files files' : List (KeyFile Text)}
    {publicKey : String} (h : Holds node keyDef files publicKey)
    (hfiles : entriesOf keyDef files' = entriesOf keyDef files) :
    Holds node keyDef files' publicKey := by
  rw [Holds, hfiles]
  exact h

theorem Present.of_entriesOf_eq {keyDef : KeyDefinition} {files files' : List (KeyFile Text)}
    {publicKey : String} (h : Present keyDef files publicKey)
    (hfiles : entriesOf keyDef files' = entriesOf keyDef files) :
    Present keyDef files' publicKey := by
  rw [Present, hfiles]
  exact h

/-- The key is in the keystore, and it is the only one if the condition is met. -/
def Kept (node : Node CborBytes Text) (c : Prop) (keyDef : KeyDefinition)
    (files : List (KeyFile Text)) (publicKey : String) : Prop :=
  Present keyDef files publicKey ∧ (c → Holds node keyDef files publicKey)

theorem Kept.of_entriesOf_eq {c : Prop} {keyDef : KeyDefinition}
    {files files' : List (KeyFile Text)} {publicKey : String}
    (h : Kept node c keyDef files publicKey)
    (hfiles : entriesOf keyDef files' = entriesOf keyDef files) :
    Kept node c keyDef files' publicKey :=
  ⟨h.1.of_entriesOf_eq hfiles, fun hc => (h.2 hc).of_entriesOf_eq hfiles⟩

theorem Fresh.of_entriesOf_eq {keyDef : KeyDefinition} {files files' : List (KeyFile Text)}
    (h : Fresh node lib first keyDef files)
    (hfiles : entriesOf keyDef files' = entriesOf keyDef files) :
    Fresh node lib first keyDef files' := by
  rw [Fresh, hfiles]
  exact h

theorem isOf_keyFile (keyDef : KeyDefinition) (phrase : String) :
    isOf keyDef (keyFile node keyDef.scheme keyDef.keyType phrase).name = true :=
  isOf_append keyDef _

theorem findExistingKey_of_entriesOf {keyDef : KeyDefinition} {files : List (KeyFile Text)}
    {phrase : String}
    (h : entriesOf keyDef files = [keyFile node keyDef.scheme keyDef.keyType phrase]) :
    findExistingKey (files.map KeyFile.name) keyDef =
      some (hexEncode (node.publicKey keyDef.scheme phrase)) := by
  rw [findExistingKey_names, h, List.head?_cons, Option.bind_some]
  exact List.isPrefixOf?_eq_some_iff_append_eq.mpr rfl

/-- In a sound keystore a key that is found is the public key of its file. -/
theorem exists_phrase_of_findExistingKey {keyDef : KeyDefinition} {files : List (KeyFile Text)}
    {key : UtxoText.Text} (hsingle : Single node keyDef files)
    (h : findExistingKey (files.map KeyFile.name) keyDef = some key) :
    ∃ phrase, entriesOf keyDef files = [keyFile node keyDef.scheme keyDef.keyType phrase] ∧
      key = hexEncode (node.publicKey keyDef.scheme phrase) := by
  rcases hsingle with hnil | ⟨phrase, hphrase⟩
  · rw [findExistingKey_names, hnil] at h
    cases h
  · rw [findExistingKey_of_entriesOf hphrase] at h
    exact ⟨phrase, hphrase, (Option.some.inj h).symm⟩

namespace KeyStep

variable {path path' key : String} {keyDef keyDef' : KeyDefinition} {disk disk' : Disk Text}

/-- A step on the keystore leaves the other files. -/
theorem files (h : KeyStep node lib first path keyDef disk key disk') : disk'.1 = disk.1 := by
  cases h with
  | keep hkey => rfl
  | add hkey houtput position => rfl
  | overwrite hkey houtput position => rfl

/-- Other keystores and keys of another type stay. -/
theorem entries (h : KeyStep node lib first path keyDef disk key disk')
    (hdef : keyDef ∈ keyDefinitions) (hdef' : keyDef' ∈ keyDefinitions)
    (hne : path' ≠ path ∨ keyDef' ≠ keyDef) :
    entriesOf keyDef' (disk'.2 path') = entriesOf keyDef' (disk.2 path') := by
  by_cases hpath : path' = path
  · have hdefs := hne.resolve_left (not_not_intro hpath)
    subst hpath
    cases h with
    | keep hkey => rfl
    | add hkey houtput position =>
        rw [Disk.put_same]
        exact entriesOf_putFile_of_other (isOf_append_of_ne hdef hdef' hdefs _)
    | overwrite hkey houtput position =>
        rw [Disk.remove_same, Disk.put_same,
          entriesOf_removeFile_of_other (isOf_append_of_ne hdef hdef' hdefs _)]
        exact entriesOf_putFile_of_other (isOf_append_of_ne hdef hdef' hdefs _)
  · cases h with
    | keep hkey => rfl
    | add hkey houtput position => rw [Disk.put_of_ne _ _ _ hpath]
    | overwrite hkey houtput position =>
        rw [Disk.remove_of_ne _ _ hpath, Disk.put_of_ne _ _ _ hpath]

/-- The first key of its kind is the only one afterwards. -/
theorem entries_add (position : Nat) (phrase : String)
    (hkey : findExistingKey ((disk.2 path).map KeyFile.name) keyDef = none)
    (hsingle : Single node keyDef (disk.2 path)) :
    entriesOf keyDef ((disk.put path position
      (keyFile node keyDef.scheme keyDef.keyType phrase)).2 path) =
        [keyFile node keyDef.scheme keyDef.keyType phrase] := by
  rcases hsingle with hnil | ⟨old, hold⟩
  · have hperm : (entriesOf keyDef (putFile position
        (keyFile node keyDef.scheme keyDef.keyType phrase) (disk.2 path))).Perm _ :=
      entriesOf_putFile_perm (isOf_keyFile keyDef phrase)
    rw [hnil] at hperm
    rw [Disk.put_same]
    exact List.perm_singleton.mp hperm
  · rw [findExistingKey_of_entriesOf hold] at hkey
    cases hkey

/-- The new key replaces the old one, unless both have the same name: then none is
left. -/
theorem entries_overwrite (position : Nat) (old phrase : String)
    (hold : entriesOf keyDef (disk.2 path) = [keyFile node keyDef.scheme keyDef.keyType old]) :
    entriesOf keyDef (((disk.put path position
      (keyFile node keyDef.scheme keyDef.keyType phrase)).remove path
        (keyDef.keyTypeHex ++ hexEncode (node.publicKey keyDef.scheme old))).2 path) =
      if (keyFile node keyDef.scheme keyDef.keyType phrase).name =
          (keyFile node keyDef.scheme keyDef.keyType old).name then []
      else [keyFile node keyDef.scheme keyDef.keyType phrase] := by
  rw [Disk.remove_same, Disk.put_same]
  exact entriesOf_overwrite hold (isOf_keyFile keyDef phrase)

/-- A step keeps at most one key of a kind. -/
theorem single (h : KeyStep node lib first path keyDef disk key disk')
    (hsingle : Single node keyDef (disk.2 path)) : Single node keyDef (disk'.2 path) := by
  cases h with
  | keep hkey => exact hsingle
  | add hkey houtput position => exact Or.inr ⟨_, entries_add position _ hkey hsingle⟩
  | @overwrite found output hkey houtput position =>
      obtain ⟨old, hold, rfl⟩ := exists_phrase_of_findExistingKey hsingle hkey
      have hentries := entries_overwrite position old output.secretPhrase hold
      -- the new key may be the old one, and it is gone then
      rcases eq_or_ne (keyFile node keyDef.scheme keyDef.keyType output.secretPhrase).name
        (keyFile node keyDef.scheme keyDef.keyType old).name with hname | hname
      · exact Or.inl (hentries.trans (if_pos hname))
      · exact Or.inr ⟨_, hentries.trans (if_neg hname)⟩

/-- The key that a step returns is in the keystore after it. -/
theorem present (hhonest : Honest node lib) (h : KeyStep node lib first path keyDef disk key disk')
    (hfresh : Fresh node lib first keyDef (disk.2 path)) :
    Present keyDef (disk'.2 path) key := by
  cases h with
  | keep hkey =>
      obtain ⟨file, hfile, hname⟩ := exists_of_findExistingKey hkey
      exact ⟨_, rfl, file, mem_entriesOf hfile hname, hname⟩
  | @add output hkey houtput position =>
      refine ⟨_, hhonest _ _ _ houtput,
        keyFile node keyDef.scheme keyDef.keyType output.secretPhrase, mem_entriesOf ?_ rfl, rfl⟩
      rw [Disk.put_same]
      exact mem_putFile _ _ _
  | @overwrite found output hkey houtput position =>
      obtain ⟨file, hfile, hname⟩ := exists_of_findExistingKey hkey
      have hne := hfresh output houtput file (mem_entriesOf hfile hname)
      refine ⟨_, hhonest _ _ _ houtput,
        keyFile node keyDef.scheme keyDef.keyType output.secretPhrase, mem_entriesOf ?_ rfl, rfl⟩
      rw [Disk.remove_same, Disk.put_same]
      exact List.mem_filter.mpr ⟨mem_putFile _ _ _, decide_eq_true (hname ▸ hne)⟩

/-- It is the only one of its type, if there was at most one. -/
theorem holds (hhonest : Honest node lib) (h : KeyStep node lib first path keyDef disk key disk')
    (hsingle : Single node keyDef (disk.2 path))
    (hfresh : Fresh node lib first keyDef (disk.2 path)) :
    Holds node keyDef (disk'.2 path) key := by
  cases h with
  | keep hkey =>
      obtain ⟨old, hold, rfl⟩ := exists_phrase_of_findExistingKey hsingle hkey
      exact ⟨old, hold, rfl⟩
  | @add output hkey houtput position =>
      exact ⟨output.secretPhrase, entries_add position _ hkey hsingle, hhonest _ _ _ houtput⟩
  | @overwrite found output hkey houtput position =>
      obtain ⟨old, hold, rfl⟩ := exists_phrase_of_findExistingKey hsingle hkey
      have hname := hfresh output houtput _ (hold ▸ List.mem_cons_self)
      exact ⟨output.secretPhrase,
        (entries_overwrite position old output.secretPhrase hold).trans (if_neg hname),
        hhonest _ _ _ houtput⟩

/-- The public key of a step belongs to the file that is kept. -/
theorem kept (hhonest : Honest node lib) {c : Prop}
    (h : KeyStep node lib first path keyDef disk key disk')
    (hsingle : c → Single node keyDef (disk.2 path))
    (hfresh : Fresh node lib first keyDef (disk.2 path)) :
    Kept node c keyDef (disk'.2 path) key :=
  ⟨h.present hhonest hfresh, fun hc => h.holds hhonest (hsingle hc) hfresh⟩

end KeyStep

/-! ## Runs -/

/-- No keystore has two keys of a type. -/
def Sound (node : Node CborBytes Text) (keystores : String → List (KeyFile Text)) : Prop :=
  ∀ path, ∀ keyDef ∈ keyDefinitions, Single node keyDef (keystores path)

/-- A step keeps a keystore sound. -/
theorem KeyStep.sound {path key : String} {keyDef : KeyDefinition} {disk disk' : Disk Text}
    (h : KeyStep node lib first path keyDef disk key disk') (hdef : keyDef ∈ keyDefinitions)
    (hsound : Sound node disk.2) : Sound node disk'.2 := by
  intro path' keyDef' hdef'
  by_cases hsame : path' = path ∧ keyDef' = keyDef
  · obtain ⟨rfl, rfl⟩ := hsame
    exact h.single (hsound _ _ hdef)
  · rw [Single, h.entries hdef hdef' (not_and_or.mp hsame)]
    exact hsound path' keyDef' hdef'

/-- A path that does not end in 9 is not the one of the network key. -/
theorem networkKeyPath_ne {path : String} (h : path.toList.getLast? ≠ some '9')
    (basePath chainName : String) : path ≠ networkKeyPath basePath chainName := by
  rintro rfl
  refine h ?_
  rw [networkKeyPath, String.toList_append, List.getLast?_append]
  rfl

private theorem keeps_runGenerateNetworkKey (hcommands : KeyCommands node)
    {config : GenerateKeysConfig} (hchain : config.chainName = defaultChainName) {path : String}
    (hpath : path ≠ config.networkKeyPath) :
    Keeps (fun machine => (machine.world.files path, machine.keystores))
      (runGenerateNetworkKey node config) := by
  rw [GenerateKeysConfig.networkKeyPath, hchain] at hpath
  refine Keeps.bind (Keeps.bind (fun _ => rfl) fun n machine => ?_) fun _ => Keeps.pure _
  exact Prod.ext (hcommands.networkKey_files _ _ _ _ path hpath)
    (hcommands.networkKey_keystores _ _ _ _)

/-- The network key is written to its own path only. -/
theorem keeps_generateNetworkKey (hcommands : KeyCommands node) {config : GenerateKeysConfig}
    (hchain : config.chainName = defaultChainName) {path : String}
    (hpath : path ≠ config.networkKeyPath) :
    Keeps (fun machine => (machine.world.files path, machine.keystores))
      (generateNetworkKey node lib config) := by
  refine Keeps.bind (fun _ => rfl) fun file => ?_
  rcases file.map fun content => decodeNetworkKey lib (lib.asString content) with
    _ | (_ | key)
  · exact keeps_runGenerateNetworkKey hcommands hchain hpath
  · refine Keeps.bind (Keeps.bind (fun _ => rfl) fun n => Keeps.bind (Keeps.lift _) fun _ =>
      Keeps.change ?_) fun _ => keeps_runGenerateNetworkKey hcommands hchain hpath
    intro machine machine' h
    rw [← Except.ok.inj h]
    exact Prod.ext (Function.update_of_ne hpath _ _) rfl
  · exact Keeps.pure _

/-- Asking changes nothing. -/
theorem keeps_promptCanWrite (name path : String) :
    Keeps Machine.disk (promptCanWrite node name path) :=
  Keeps.bind (Keeps.attempt _) fun _ => Keeps.ite (Keeps.pure _) fun _ => rfl

/-- The base path that is loaded is also the one that is stored. -/
theorem load_eq_ok {config : GenerateKeysConfig} {world world' : World Text}
    (h : GenerateKeysConfig.load node lib world = (.ok config, world')) :
    config.chainName = defaultChainName ∧
      stored lib.toJsonText substrateNodeDataBasePath.toConfigFieldDefinition world' =
        .ok (some config.substrateNodeBasePath) := by
  obtain ⟨executable, world₁, -, h⟩ := run_bind.mp h
  obtain ⟨basePath, world₂, hload, h⟩ := run_bind.mp h
  obtain ⟨rfl, rfl⟩ := run_pure.mp h
  exact ⟨rfl, stored_loadOrPromptAndSave (fun _ => stringField_roundTrips _ _ _) hload⟩

private theorem keeps_load {path : String} (hpath : path ≠ resourcesConfigFilePath) :
    Keeps (fun world => world.files path) (GenerateKeysConfig.load node lib) :=
  Keeps.bind (keeps_file_saveIfEmpty hpath _) fun _ =>
    Keeps.bind (keeps_file_loadOrPromptAndSave hpath) fun _ => Keeps.pure _

private theorem maintains_requests_load :
    Maintains (fun world => first ≤ world.requests) (GenerateKeysConfig.load node lib) :=
  Maintains.bind (maintains_requests_saveIfEmpty _ _) fun _ =>
    Maintains.bind (maintains_requests_loadOrPromptAndSave _) fun _ => fun _ h => h

private theorem maintains_requests_promptCanWrite (name path : String) :
    Maintains (fun machine => first ≤ machine.world.requests) (promptCanWrite node name path) :=
  Maintains.bind (fun _ h => h) fun _ =>
    Maintains.ite (fun _ h => h) fun _ h => h.trans (Nat.le_succ _)

/-- Only a file that is there can be refused. -/
theorem ne_missing_of_promptCanWrite {name path : String} {machine machine' : Machine Text}
    (h : promptCanWrite node name path machine = (.ok false, machine')) :
    machine.world.files path ≠ .missing := by
  intro hmissing
  obtain ⟨missing, machine₁, hattempt, hanswer⟩ := run_bind.mp h
  obtain ⟨hvalue, -⟩ := run_attempt.mp hattempt
  simp only [hmissing, Except.ok.injEq] at hvalue
  rw [if_pos hvalue.symm] at hanswer
  cases hanswer

/-- `read_generated_keys`. -/
def readGeneratedKeys (lib : Libraries Text) (files : Files Text) :
    Option PermissionedCandidateKeys :=
  match files keysFilePath with
  | .content content => (lib.fromStr content).bind permissionedCandidateKeysFromValue
  | _ => none

/-- What holds of the three keys in the file and the keystore of the node. -/
structure Records (Holding : KeyDefinition → List (KeyFile Text) → String → Prop)
    (lib : Libraries Text) (machine : Machine Text) (basePath : String)
    (keys : PermissionedCandidateKeys) : Prop where
  stored : stored lib.toJsonText substrateNodeDataBasePath.toConfigFieldDefinition machine.world =
    .ok (some basePath)
  file : readGeneratedKeys lib machine.world.files = some keys
  crossChain : Holding crossChain (machine.keystores (keystorePath basePath defaultChainName))
    keys.sidechainPubKey
  grandpa : Holding grandpa (machine.keystores (keystorePath basePath defaultChainName))
    keys.grandpaPubKey
  aura : Holding aura (machine.keystores (keystorePath basePath defaultChainName))
    keys.auraPubKey

/-- The keys file records the weaker property as well. -/
theorem Records.imp {P Q : KeyDefinition → List (KeyFile Text) → String → Prop}
    {machine : Machine Text} {basePath : String} {keys : PermissionedCandidateKeys}
    (h : Records P lib machine basePath keys)
    (himp : ∀ keyDef files publicKey, P keyDef files publicKey → Q keyDef files publicKey) :
    Records Q lib machine basePath keys :=
  ⟨h.stored, h.file, himp _ _ _ h.crossChain, himp _ _ _ h.grandpa, himp _ _ _ h.aura⟩

/-- The keys in the file are those in the keystore of the node, and there are no
others. -/
abbrev Agrees (node : Node CborBytes Text) (lib : Libraries Text) (machine : Machine Text)
    (basePath : String) (keys : PermissionedCandidateKeys) : Prop :=
  Records (Holds node) lib machine basePath keys

section Runs

variable (hcommands : KeyCommands node)

include hcommands

private theorem maintains_generateOrLoadKey (hclean : CleanFailures node)
    {config : GenerateKeysConfig}
    (hchain : config.chainName = defaultChainName) {keyDef : KeyDefinition}
    (hdef : keyDef ∈ keyDefinitions) :
    Maintains (fun machine => Sound node machine.keystores)
      (generateOrLoadKey node lib config keyDef) := by
  intro machine hsound
  have htriple : Triple (At 0 machine.disk) (generateOrLoadKey node lib config keyDef) _ _ :=
    triple_generateOrLoadKey hcommands machine.disk hchain keyDef
  have hat : At 0 machine.disk machine := ⟨rfl, Nat.zero_le _⟩
  rcases hrun : generateOrLoadKey node lib config keyDef machine with ⟨result, machine'⟩
  cases result with
  | error e =>
      have hkeystores : machine'.keystores = machine.keystores :=
        congrArg Prod.snd (htriple.error hat hrun hclean).1
      rw [hkeystores]
      exact hsound
  | ok key =>
      obtain ⟨_, ⟨rfl, -⟩, hstep⟩ := htriple.ok hat hrun
      exact hstep.sound hdef hsound

private theorem maintains_generateSpoKeys (hclean : CleanFailures node)
    {config : GenerateKeysConfig} (hchain : config.chainName = defaultChainName) :
    Maintains (fun machine => Sound node machine.keystores)
      (generateSpoKeys node lib config) := by
  refine Maintains.bind ((keeps_promptCanWrite _ _).maintains fun disk => Sound node disk.2)
    fun canWrite => Maintains.ite ?_ fun _ hsound => hsound
  have hkey {keyDef : KeyDefinition} (hdef : keyDef ∈ keyDefinitions) :
      Maintains (fun machine => Sound node machine.keystores)
        (generateOrLoadKey node lib config keyDef) :=
    maintains_generateOrLoadKey hcommands hclean hchain hdef
  refine Maintains.bind (hkey (by decide)) fun _ => Maintains.bind (hkey (by decide)) fun _ => ?_
  exact Maintains.bind (hkey (by decide)) fun _ _ hsound => hsound

/-- However a run ends, no keystore gets a second key of a type. -/
theorem maintains_generateKeysCmd (hclean : CleanFailures node) :
    Maintains (fun machine => Sound node machine.keystores) (generateKeysCmd node lib) := by
  refine Triple.maintains (Triple.bind (Q := fun config machine =>
    Sound node machine.keystores ∧ config.chainName = defaultChainName) ?_ fun config =>
      Triple.assuming fun hchain => Triple.of_maintains (Maintains.bind
        (maintains_generateSpoKeys hcommands hclean hchain) fun _ => ?_))
  · refine ⟨fun hsound hrun => ?_, fun hsound hrun => ?_⟩
    · obtain ⟨world, hload, rfl⟩ := run_within.mp hrun
      exact ⟨hsound, (load_eq_ok hload).1⟩
    · obtain ⟨-, rfl⟩ := Prod.mk.inj hrun
      exact hsound
  · have hpath : keysFilePath ≠ config.networkKeyPath := networkKeyPath_ne (by decide) _ _
    exact (keeps_generateNetworkKey hcommands hchain hpath).maintains fun view =>
      Sound node view.2

private theorem generateAllKeys_eq_ok (hhonest : Honest node lib) {config : GenerateKeysConfig}
    (hchain : config.chainName = defaultChainName) {machine machine' : Machine Text}
    (hfirst : first ≤ machine.world.requests)
    (hfresh : ∀ keyDef ∈ keyDefinitions,
      Fresh node lib first keyDef (machine.keystores config.keystorePath)) {u : Unit}
    (h : generateAllKeys node lib config machine = (.ok u, machine')) :
    ∃ keys, machine'.world.files = Function.update machine.world.files keysFilePath
        (.content (lib.toStringPretty (keysFileValue keys))) ∧
      Kept node (Sound node machine.keystores) crossChain
        (machine'.keystores config.keystorePath) keys.sidechainPubKey ∧
      Kept node (Sound node machine.keystores) grandpa
        (machine'.keystores config.keystorePath) keys.grandpaPubKey ∧
      Kept node (Sound node machine.keystores) aura
        (machine'.keystores config.keystorePath) keys.auraPubKey := by
  have hcross : crossChain ∈ keyDefinitions := by decide
  have hgrandpa : grandpa ∈ keyDefinitions := by decide
  have haura : aura ∈ keyDefinitions := by decide
  obtain ⟨crossChainKey, machine₁, hrun₁, h⟩ := run_bind.mp h
  obtain ⟨grandpaKey, machine₂, hrun₂, h⟩ := run_bind.mp h
  obtain ⟨auraKey, machine₃, hrun₃, h⟩ := run_bind.mp h
  obtain ⟨_, ⟨rfl, hfirst₁⟩, hstep₁⟩ :=
    (triple_generateOrLoadKey hcommands _ hchain _).ok ⟨rfl, hfirst⟩ hrun₁
  obtain ⟨_, ⟨rfl, hfirst₂⟩, hstep₂⟩ :=
    (triple_generateOrLoadKey hcommands _ hchain _).ok ⟨rfl, hfirst₁⟩ hrun₂
  obtain ⟨_, ⟨rfl, -⟩, hstep₃⟩ :=
    (triple_generateOrLoadKey hcommands _ hchain _).ok ⟨rfl, hfirst₂⟩ hrun₃
  have hsound₁ := hstep₁.sound hcross
  have hsound₂ := hstep₂.sound hgrandpa
  -- a step leaves the keys of the other types alone
  have hkeys₁ := hstep₁.kept hhonest
    (fun hsound : Sound node machine.keystores => hsound _ _ hcross) (hfresh _ hcross)
  have hkeys₂ := hstep₂.kept hhonest
    (fun hsound : Sound node machine.keystores => hsound₁ hsound _ _ hgrandpa)
    ((hfresh _ hgrandpa).of_entriesOf_eq (hstep₁.entries hcross hgrandpa (.inr (by decide))))
  have hkeys₃ := hstep₃.kept hhonest
    (fun hsound : Sound node machine.keystores => hsound₂ (hsound₁ hsound) _ _ haura)
    ((hfresh _ haura).of_entriesOf_eq ((hstep₂.entries hgrandpa haura (.inr (by decide))).trans
      (hstep₁.entries hcross haura (.inr (by decide)))))
  obtain rfl := Except.ok.inj (run_change.mp h)
  refine ⟨⟨crossChainKey, auraKey, grandpaKey⟩, ?_, ?_, ?_, hkeys₃⟩
  · have hfiles : machine₃.world.files = machine.world.files :=
      hstep₃.files.trans (hstep₂.files.trans hstep₁.files)
    rw [setFile, hfiles]
  · exact hkeys₁.of_entriesOf_eq ((hstep₃.entries haura hcross (.inr (by decide))).trans
      (hstep₂.entries hgrandpa hcross (.inr (by decide))))
  · exact hkeys₂.of_entriesOf_eq (hstep₃.entries haura hgrandpa (.inr (by decide)))

omit hcommands in
private theorem readGeneratedKeys_of_file {files : Files Text} {keys : PermissionedCandidateKeys}
    (h : files keysFilePath = .content (lib.toStringPretty (keysFileValue keys))) :
    readGeneratedKeys lib files = some keys := by
  simp only [readGeneratedKeys, h, lib.fromStr_toStringPretty, Option.bind_some]
  rfl

/-- The machine after some runs, each of which may have failed. -/
def afterRuns (node : Node CborBytes Text) (lib : Libraries Text) (runs : Nat)
    (machine : Machine Text) : Machine Text :=
  (fun machine => (generateKeysCmd node lib machine).2)^[runs] machine

private theorem sound_afterRuns (hclean : CleanFailures node) {machine : Machine Text}
    (hsound : Sound node machine.keystores) (runs : Nat) :
    Sound node (afterRuns node lib runs machine).keystores := by
  induction runs with
  | zero => exact hsound
  | succ runs ih =>
      rw [afterRuns, Function.iterate_succ_apply']
      exact maintains_generateKeysCmd hcommands hclean _ ih

end Runs

end Step

/-! ## A machine with keys

The node numbers its secret phrases by the requests; the keys are from earlier
requests, and the user overwrites them.  In the first run the cross-chain key
cannot be inserted. -/

/-- Each generated phrase is longer than the ones before. -/
def examplePhrase (n : Nat) : String := String.ofList (List.replicate n 'a')

/-- The public key has a byte for each letter. -/
def examplePublicKey (phrase : String) : Bytes := phrase.toList.map fun _ => 0

/-- A node that counts its keys and stores them as it is asked to. -/
def exampleCommand (n : Nat) (command : NodeCommand) (disk : Disk JValue) :
    Except String JValue × Disk JValue :=
  match command with
  | .keyGenerate _ => (.ok (.object
      [.mk "publicKey" (.string (String.ofList
          ('0' :: 'x' :: hexEncode (examplePublicKey (examplePhrase n))))),
        .mk "secretPhrase" (.string (examplePhrase n))]), disk)
  | .keyInsert basePath _ keyType suri =>
      if n = 8 then (.error "Failed to run command", disk)
      else (.ok .null, disk.put (keystorePath basePath defaultChainName) 0
        ⟨keyTypeHex keyType ++ hexEncode (examplePublicKey suri), .string suri⟩)
  | .keyGenerateNodeKey basePath =>
      (.ok .null, (Function.update disk.1 (networkKeyPath basePath defaultChainName)
        (.content (.string "00")), disk.2))

/-- A user who agrees to everything, and `exampleCommand`. -/
def exampleNode : Node Unit JValue where
  toOutside := { exampleOutside with promptYesNo := fun _ _ _ => true }
  runCommand n _ command := exampleCommand n command
  publicKey _ := examplePublicKey
  seed phrase := .string phrase
  readDir _ := .ok ()
  removeFile _ := .ok ()

/-- The three keys of the first run. -/
def exampleKeys : List (KeyFile JValue) :=
  [keyFile exampleNode crossChain.scheme crossChain.keyType (examplePhrase 1),
    keyFile exampleNode grandpa.scheme grandpa.keyType (examplePhrase 2),
    keyFile exampleNode aura.scheme aura.keyType (examplePhrase 3)]

/-- A keystore with keys and no keys file. -/
def exampleMachine : Machine JValue := ⟨⟨fun _ => .missing, 4⟩, fun _ => exampleKeys⟩

private theorem keyCommands_example : KeyCommands exampleNode where
  generate _ _ _ _ := rfl
  insert {n executable basePath scheme keyType suri disk output disk'} h := by
    simp only [exampleNode, exampleCommand] at h
    split_ifs at h
    · cases h
    · exact ⟨0, (Prod.mk.inj h).2.symm⟩
  networkKey_keystores _ _ _ _ := rfl
  networkKey_files _ _ _ _ _ hpath := Function.update_of_ne hpath _ _

private theorem cleanFailures_example : CleanFailures exampleNode where
  insert {n executable basePath scheme keyType suri disk message disk'} h := by
    simp only [exampleNode, exampleCommand] at h
    split_ifs at h
    · exact (Prod.mk.inj h).2.symm
    · cases h
  remove _ := rfl

theorem generated_example {first : Nat} {scheme : String} {output : KeyGenerationOutput}
    (h : Generated exampleNode exampleLibraries first scheme output) :
    ∃ n, first ≤ n ∧ output = ⟨String.ofList
      ('0' :: 'x' :: hexEncode (examplePublicKey (examplePhrase n))), examplePhrase n⟩ := by
  obtain ⟨n, hfirst, executable, disk, text, hrun, hparse⟩ := h
  obtain rfl := Except.ok.inj hrun
  exact ⟨n, hfirst, (Option.some.inj hparse).symm⟩

private theorem honest_example : Honest exampleNode exampleLibraries := by
  intro first scheme output h
  obtain ⟨n, -, rfl⟩ := generated_example h
  rfl

private theorem sound_example : Sound exampleNode exampleMachine.keystores := by
  intro path keyDef hdef
  simp only [keyDefinitions, List.mem_cons, List.not_mem_nil, or_false] at hdef
  rcases hdef with rfl | rfl | rfl
  · exact Or.inr ⟨examplePhrase 1, rfl⟩
  · exact Or.inr ⟨examplePhrase 2, rfl⟩
  · exact Or.inr ⟨examplePhrase 3, rfl⟩

private theorem length_hexEncode (bytes : Bytes) : (hexEncode bytes).length = 2 * bytes.length := by
  induction bytes with
  | nil => rfl
  | cons b bytes ih =>
      rw [List.length_cons, Nat.mul_succ, ← ih]
      rfl

private theorem length_examplePublicKey (n : Nat) :
    (examplePublicKey (examplePhrase n)).length = n := by
  simp [examplePublicKey, examplePhrase]

/-- The machine after the run that fails. -/
def failedMachine : Machine JValue := afterRuns exampleNode exampleLibraries 1 exampleMachine

/-- The names of the later keys are longer. -/
theorem fresh_example (path : String) {keyDef : KeyDefinition} (hdef : keyDef ∈ keyDefinitions) :
    Fresh exampleNode exampleLibraries failedMachine.world.requests keyDef
      (failedMachine.keystores path) := by
  intro output houtput file hfile heq
  obtain ⟨n, hfirst, rfl⟩ := generated_example houtput
  have hlong : file.name.length = 8 + 2 * n := by
    rw [← heq, keyFile, List.length_append, length_hexEncode]
    exact congrArg₂ (· + 2 * ·) (length_keyTypeHex keyDef hdef) (length_examplePublicKey n)
  have hshort : ∀ file ∈ exampleKeys, file.name.length ≤ 14 := by decide
  have hlength := hshort file (List.mem_filter.mp hfile).1
  have hrequests : failedMachine.world.requests = 9 := rfl
  omega

private theorem generateKeysCmd_example :
    ∃ machine', generateKeysCmd exampleNode exampleLibraries failedMachine =
      (.ok (), machine') := by
  have hok : (generateKeysCmd exampleNode exampleLibraries failedMachine).1 = .ok () := rfl
  exact ⟨_, Prod.ext hok rfl⟩

end PartnerChains.Ports.GenerateKeys
