import PartnerChains.Ports.UtxoText
import PartnerChains.Ports.WizardIo

/-!
# The fields of the config files

The port of `config_fields` and of `pc_contracts_cli_resources.rs`.  A field has
the serde implementation of its type; each of these reads back what it writes.
-/

namespace PartnerChains.Ports.ConfigFields

open PartnerChains.Ports.CardanoEras
open PartnerChains.Ports.Domain
open PartnerChains.Ports.SerdeJson
open PartnerChains.Ports.UtxoText
open PartnerChains.Ports.WizardConfig
open PartnerChains.Ports.WizardIo
open PartnerChains.Verified.Fallible
open PartnerChains.Verified.Interactive

def keysFilePath : String := "partner-chains-public-keys.json"

def chainConfigFilePath : String := "partner-chains-cli-chain-config.json"

def resourcesConfigFilePath : String := "partner-chains-cli-resources-config.json"

/-! ## Values -/

/-- The `Display` of `NetworkType`, which is also its serialized name. -/
def NetworkType.toString : NetworkType → String
  | .mainnet => "mainnet"
  | .testnet => "testnet"

/-- The derived `Deserialize` of `NetworkType`. -/
def networkTypeFromValue (json : JValue) : Option NetworkType := do
  match ← json.asStr with
  | "mainnet" => some .mainnet
  | "testnet" => some .testnet
  | _ => none

/-- `NetworkProtocol`, how a service is reached. -/
inductive NetworkProtocol where
  | http
  | https
deriving DecidableEq

/-- The `Display` of `NetworkProtocol`. -/
def NetworkProtocol.toString : NetworkProtocol → String
  | .http => "http"
  | .https => "https"

/-- `FromStr`: any other text is refused with the message shown to the user. -/
def NetworkProtocol.fromStr : String → Except Failure NetworkProtocol
  | "http" => .ok .http
  | "https" => .ok .https
  | other => .error
      (.error ("Invalid security protocol " ++ other ++ ", please provide http or https"))

/-- The `SelectOptions` of the type, in the order they are offered. -/
def NetworkProtocol.selectOptions : List String :=
  [NetworkProtocol.http.toString, NetworkProtocol.https.toString]

/-- The derived `Deserialize` of `NetworkProtocol`. -/
def networkProtocolFromValue (json : JValue) : Option NetworkProtocol := do
  match ← json.asStr with
  | "http" => some .http
  | "https" => some .https
  | _ => none

/-- The keys are hexadecimal texts. -/
structure PermissionedCandidateKeys where
  sidechainPubKey : String
  auraPubKey : String
  grandpaPubKey : String
deriving DecidableEq

/-- The members in the order of their keys. -/
def PermissionedCandidateKeys.toValue (keys : PermissionedCandidateKeys) : JValue :=
  .object
    [.mk "aura_pub_key" (.string keys.auraPubKey),
      .mk "grandpa_pub_key" (.string keys.grandpaPubKey),
      .mk "sidechain_pub_key" (.string keys.sidechainPubKey)]

/-- The derived `Deserialize` of `PermissionedCandidateKeys`; further members are
ignored. -/
def permissionedCandidateKeysFromValue (json : JValue) : Option PermissionedCandidateKeys := do
  let sidechainPubKey ← (← json.get "sidechain_pub_key").asStr
  let auraPubKey ← (← json.get "aura_pub_key").asStr
  let grandpaPubKey ← (← json.get "grandpa_pub_key").asStr
  some ⟨sidechainPubKey, auraPubKey, grandpaPubKey⟩

/-- The serde implementation of a float, given by its bits. -/
structure SerdeF64 where
  toValue : UInt64 → JValue
  fromValue : JValue → Option UInt64

/-- `Vec<T>` from a JSON array. -/
def arrayFromValue {α : Type} (fromValue : JValue → Option α) : JValue → Option (List α)
  | .array items => items.mapM fromValue
  | _ => none

/-- `u32` from a JSON number in range. -/
def u32FromValue (json : JValue) : Option UInt32 :=
  (json.asU64.filter fun n => decide (n.toNat < 2 ^ 32)).map UInt64.toUInt32

/-- `u16` from a JSON number in range. -/
def u16FromValue (json : JValue) : Option UInt16 :=
  (json.asU64.filter fun n => decide (n.toNat < 2 ^ 16)).map UInt64.toUInt16

/-- `u16::from_str` on what the user typed. -/
def u16FromStr (value : String) : Except Failure UInt16 :=
  match parseU16 value.toList with
  | some n => .ok (UInt16.ofNat n)
  | none => .error (.parseInt value)

/-! ## Fields -/

/-- A field that holds a text as it is. -/
def stringField (configFile : String) (path : List String) : ConfigFieldDefinition String :=
  ⟨configFile, path, fun s => some (.string s), JValue.asStr⟩

/-- A field that holds an unsigned number. -/
def u64Field (configFile : String) (path : List String) : ConfigFieldDefinition UInt64 :=
  ⟨configFile, path, fun n => some (.number (.posInt n)), JValue.asU64⟩

/-- A text the user is asked for; every text parses. -/
def stringPrompt (configFile : String) (path : List String) (name : String)
    (default : Option String) : PromptField String :=
  ⟨stringField configFile path, name, default, .ok, id⟩

/-- A protocol the user chooses, kept among the resources. -/
def protocolPrompt (path : List String) (name default : String) : PromptField NetworkProtocol :=
  ⟨⟨resourcesConfigFilePath, path, fun protocol => some (.string protocol.toString),
      networkProtocolFromValue⟩,
    name, some default, NetworkProtocol.fromStr, NetworkProtocol.toString⟩

/-- A port the user is asked for, kept among the resources. -/
def u16Prompt (path : List String) (name default : String) : PromptField UInt16 :=
  ⟨⟨resourcesConfigFilePath, path, fun n => some (.number (.posInt n.toUInt64)), u16FromValue⟩,
    name, some default, u16FromStr, fun n => String.ofList (Nat.toDigits 10 n.toNat)⟩

def nativeTokenPolicy : PromptField String :=
  stringPrompt chainConfigFilePath ["cardano_addresses", "native_token", "asset", "policy_id"]
    "native token policy ID" none

def nativeTokenAssetName : PromptField String :=
  stringPrompt chainConfigFilePath ["cardano_addresses", "native_token", "asset", "asset_name"]
    "native token asset name in hex" none

def illiquidSupplyAddress : ConfigFieldDefinition String :=
  stringField chainConfigFilePath ["cardano_addresses", "native_token", "illiquid_supply_address"]

def substrateNodeDataBasePath : PromptField String :=
  stringPrompt resourcesConfigFilePath ["substrate_node_base_path"] "node base path"
    (some "./data")

/-- The path offered for the node's executable. -/
def nodeExecutableDefault : String := "./partner-chains-node"

def nodeExecutable : PromptField String :=
  stringPrompt resourcesConfigFilePath ["substrate_node_executable_path"]
    "Partner Chains node executable" (some nodeExecutableDefault)

def cardanoPaymentVerificationKeyFile : PromptField String :=
  stringPrompt resourcesConfigFilePath ["cardano_payment_verification_key_file"]
    "path to the payment verification file" (some "payment.vkey")

def cardanoNetwork : ConfigFieldDefinition NetworkType :=
  ⟨chainConfigFilePath, ["cardano", "network"],
    fun network => some (.string (NetworkType.toString network)), networkTypeFromValue⟩

/-- `GENESIS_UTXO`, stored as the text `hash#index`. -/
def genesisUtxo (hex : HexDecoder) : ConfigFieldDefinition UtxoId :=
  ⟨chainConfigFilePath, ["chain_parameters", "genesis_utxo"],
    fun utxoId => some (.string (utxoIdToString utxoId)),
    fun json => json.asStr.bind fun s => (utxoIdFromStr hex s.toList).toOption⟩

def bootnodes : ConfigFieldDefinition (List String) :=
  ⟨chainConfigFilePath, ["bootnodes"], fun nodes => some (.array (nodes.map .string)),
    arrayFromValue JValue.asStr⟩

def initialPermissionedCandidates : ConfigFieldDefinition (List PermissionedCandidateKeys) :=
  ⟨chainConfigFilePath, ["initial_permissioned_candidates"],
    fun candidates => some (.array (candidates.map PermissionedCandidateKeys.toValue)),
    arrayFromValue permissionedCandidateKeysFromValue⟩

def ogmiosProtocol : PromptField NetworkProtocol :=
  protocolPrompt ["ogmios", "protocol"] "Ogmios protocol (http/https)" "http"

def ogmiosHostname : PromptField String :=
  stringPrompt resourcesConfigFilePath ["ogmios", "hostname"] "Ogmios hostname" (some "localhost")

def ogmiosPort : PromptField UInt16 := u16Prompt ["ogmios", "port"] "Ogmios port" "1337"

def committeeCandidatesAddress : ConfigFieldDefinition String :=
  stringField chainConfigFilePath ["cardano_addresses", "committee_candidates_address"]

def dParameterPolicyId : ConfigFieldDefinition String :=
  stringField chainConfigFilePath ["cardano_addresses", "d_parameter_policy_id"]

def permissionedCandidatesPolicyId : ConfigFieldDefinition String :=
  stringField chainConfigFilePath ["cardano_addresses", "permissioned_candidates_policy_id"]

def cardanoSecurityParameter : ConfigFieldDefinition UInt64 :=
  u64Field chainConfigFilePath ["cardano", "security_parameter"]

/-- `CARDANO_ACTIVE_SLOTS_COEFF`; the only field that holds a float. -/
def cardanoActiveSlotsCoeff (f64 : SerdeF64) : ConfigFieldDefinition UInt64 :=
  ⟨chainConfigFilePath, ["cardano", "active_slots_coeff"], fun bits => some (f64.toValue bits),
    f64.fromValue⟩

def cardanoFirstEpochNumber : ConfigFieldDefinition UInt32 :=
  ⟨chainConfigFilePath, ["cardano", "first_epoch_number"],
    fun n => some (.number (.posInt n.toUInt64)), u32FromValue⟩

def cardanoFirstSlotNumber : ConfigFieldDefinition UInt64 :=
  u64Field chainConfigFilePath ["cardano", "first_slot_number"]

def cardanoEpochDurationMillis : ConfigFieldDefinition UInt64 :=
  u64Field chainConfigFilePath ["cardano", "epoch_duration_millis"]

def cardanoFirstEpochTimestampMillis : ConfigFieldDefinition UInt64 :=
  u64Field chainConfigFilePath ["cardano", "first_epoch_timestamp_millis"]

/-! ## Reading back -/

section RoundTrips

variable (configFile : String) (path : List String)

theorem stringField_roundTrips (s : String) : RoundTrips (stringField configFile path) s :=
  ⟨_, rfl, rfl⟩

theorem u64Field_roundTrips (n : UInt64) : RoundTrips (u64Field configFile path) n :=
  ⟨_, rfl, rfl⟩

theorem cardanoFirstEpochNumber_roundTrips (n : UInt32) :
    RoundTrips cardanoFirstEpochNumber n := by
  refine ⟨_, rfl, ?_⟩
  simpa [cardanoFirstEpochNumber, u32FromValue, JValue.asU64, Option.filter] using n.toNat_lt

theorem cardanoNetwork_roundTrips (network : NetworkType) : RoundTrips cardanoNetwork network := by
  cases network with
  | mainnet => exact ⟨_, rfl, rfl⟩
  | testnet => exact ⟨_, rfl, rfl⟩

/-- The index is parsed as an `i16`, so larger ones do not come back. -/
theorem genesisUtxo_roundTrips (hex : HexDecoder) {utxoId : UtxoId}
    (hindex : utxoId.index < 2 ^ 15) : RoundTrips (genesisUtxo hex) utxoId := by
  refine ⟨_, rfl, ?_⟩
  simp only [genesisUtxo, JValue.asStr, Option.bind_some,
    utxoIdFromStr_utxoIdToString hex hindex, Except.toOption]

/-- The candidates come back as they were written. -/
theorem initialPermissionedCandidates_roundTrips (candidates : List PermissionedCandidateKeys) :
    RoundTrips initialPermissionedCandidates candidates := by
  refine ⟨_, rfl, ?_⟩
  show (candidates.map PermissionedCandidateKeys.toValue).mapM permissionedCandidateKeysFromValue =
    some candidates
  induction candidates with
  | nil => rfl
  | cons keys candidates ih =>
      have hkeys : permissionedCandidateKeysFromValue keys.toValue = some keys := rfl
      simp [hkeys, ih]

/-- A genesis UTXO that is loaded can be printed and parsed. -/
theorem genesisUtxo_index_lt {Text : Type} {text : JsonText Text} {hex : HexDecoder}
    {world : World Text} {genesis : UtxoId}
    (h : stored text (genesisUtxo hex) world = .ok (some genesis)) : genesis.index < 2 ^ 15 := by
  obtain ⟨json, -, h⟩ := bind_eq_ok.mp h
  obtain ⟨json, -, h⟩ := Option.bind_eq_some_iff.mp (Except.ok.inj h)
  obtain ⟨value, -, h⟩ := Option.bind_eq_some_iff.mp h
  obtain ⟨s, -, h⟩ := Option.bind_eq_some_iff.mp h
  cases hparsed : utxoIdFromStr hex s.toList with
  | error e => simp [hparsed, Except.toOption] at h
  | ok utxoId =>
      simp only [hparsed, Except.toOption, Option.some.injEq] at h
      exact h ▸ utxoIdFromStr_index_lt hex hparsed

end RoundTrips

/-! ## Ogmios -/

/-- How to reach a service: protocol, host and port. -/
structure ServiceConfig where
  protocol : NetworkProtocol
  hostname : String
  port : UInt16

/-- `Display`. -/
def ServiceConfig.toString (config : ServiceConfig) : String :=
  config.protocol.toString ++ "://" ++ config.hostname ++ ":" ++
    String.ofList (Nat.toDigits 10 config.port.toNat)

variable {Text CborBytes : Type} (outside : Outside CborBytes) (text : JsonText Text)

/-- `prompt_ogmios_configuration`: each answer is saved before the next question. -/
def promptOgmiosConfiguration : Wizard Text ServiceConfig := do
  let protocol ← selectOptionsWithDefaultFromFileAndSave outside text ogmiosProtocol
    NetworkProtocol.selectOptions ogmiosProtocol.name
  let hostname ← promptWithDefaultFromFileAndSave outside text ogmiosHostname
  let port ← promptWithDefaultFromFileParseAndSave outside text ogmiosPort
  pure ⟨protocol, hostname, port⟩

/-- The places the Ogmios questions may write. -/
def ogmiosPlaces : List Place :=
  [placeOf ogmiosProtocol.toConfigFieldDefinition, placeOf ogmiosHostname.toConfigFieldDefinition,
    placeOf ogmiosPort.toConfigFieldDefinition]

/-- Nothing but the Ogmios fields is written. -/
theorem touches_promptOgmiosConfiguration :
    Touches text ogmiosPlaces (promptOgmiosConfiguration outside text) := by
  refine Touches.bind ?_ fun protocol => Touches.bind ?_ fun hostname => Touches.bind ?_
    fun port => Touches.pure _
  · exact touches_selectOptionsWithDefaultFromFileAndSave _ _ _ (by simp [ogmiosPlaces])
  · exact touches_promptWithDefaultFromFileAndSave _ (by simp [ogmiosPlaces])
  · exact touches_promptWithDefaultFromFileParseAndSave _ (by simp [ogmiosPlaces])

end PartnerChains.Ports.ConfigFields
