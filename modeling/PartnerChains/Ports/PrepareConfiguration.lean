import PartnerChains.Ports.ConfigFields
import PartnerChains.Ports.InitGovernance

/-!
# Preparing the configuration

The port of `prepare_configuration`, `select_utxo.rs` and `cardano_key.rs`.  The
wizard asks for a bootnode, lets the user select a genesis UTXO and writes the
chain config: the parameters of the main chain, and the addresses and policies
that belong to the genesis UTXO.

A genesis UTXO that is in the file already stays there, and nevertheless the
addresses of the selected one are written.  `prepareConfiguration_consistent_iff`
says when the file fits together.  The file has two readers: `load_chain_config`
of the commands that work on the main chain, and `CreateChainSpecConfig::load`,
which also parses the initial candidates.
-/

namespace PartnerChains.Ports.PrepareConfiguration

open PartnerChains.Ports.CardanoEras
open PartnerChains.Ports.ConfigFields
open PartnerChains.Ports.Domain
open PartnerChains.Ports.ScriptDerivation
open PartnerChains.Ports.SerdeJson
open PartnerChains.Ports.TransactionBuilding
open PartnerChains.Ports.UtxoText
open PartnerChains.Ports.WizardConfig
open PartnerChains.Ports.WizardIo
open PartnerChains.Verified.Fallible
open PartnerChains.Verified.Interactive
open PartnerChains.Verified.StableSort

/-- The libraries that the wizard uses. -/
structure Libraries (Text : Type) extends JsonText Text where
  asString : Text → String
  hex : HexDecoder
  f64 : SerdeF64
  /-- The peer id of an Ed25519 key. -/
  peerId : Bytes → Option String
  blake2b : Bytes → ScriptHash
  uplc : Uplc
  rawScripts : RawScripts

variable {Text CborBytes : Type}

section Wizard

variable (outside : Outside CborBytes) (lib : Libraries Text)

/-- `read_file`. -/
def readFile (path : String) : Wizard Text (Option Text) :=
  attempt fun world =>
    match world.files path with
    | .content content => .ok (some content)
    | _ => .ok none

/-! ## The bootnode -/

/-- How a bootnode is addressed. -/
inductive Protocol where
  | dns
  | ipv4
deriving DecidableEq

/-- The address offered for the protocol. -/
def Protocol.defaultAddress : Protocol → String
  | .dns => "localhost"
  | .ipv4 => "127.0.0.1"

/-- The conversion into a `String`. -/
def Protocol.toString : Protocol → String
  | .dns => "hostname"
  | .ipv4 => "IP address"

/-- `FromStr`, which knows the text of the menu and the one of the multiaddress. -/
def Protocol.fromStr : String → Option Protocol
  | "hostname" => some .dns
  | "dns" => some .dns
  | "IP address" => some .ipv4
  | "ip4" => some .ipv4
  | _ => none

def defaultPort : UInt16 := 3033

/-- The multiaddress of a host. -/
def dnsBootnode (hostname : String) (port : UInt16) (peerId : String) : String :=
  "/dns/" ++ hostname ++ "/tcp/" ++ String.ofList (Nat.toDigits 10 port.toNat) ++ "/p2p/" ++ peerId

/-- The multiaddress of an address in dotted form. -/
def ipv4Bootnode (ipAddress : String) (port : UInt16) (peerId : String) : String :=
  "/ip4/" ++ ipAddress ++ "/tcp/" ++ String.ofList (Nat.toDigits 10 port.toNat) ++ "/p2p/" ++ peerId

/-- One of the four numbers of an `Ipv4Addr`; there are no leading zeros. -/
def isOctet (s : UtxoText.Text) : Bool :=
  ((parseDigits s).filter fun n => decide (n < 256)).isSome && s.length ≤ 3 &&
    (s.length = 1 || s.head? ≠ some '0')

/-- `Ipv4Addr::from_str` succeeds. -/
def isIpv4Addr (s : String) : Bool :=
  let parts := s.toList.splitOn '.'
  parts.length = 4 && parts.all isOctet

/-- `deconstruct_bootnode`: protocol, address and port from the parts of a
multiaddress. -/
def deconstructBootnode (bootnode : Option String) : Option (Protocol × String × UInt16) := do
  let bootnode ← bootnode
  match (bootnode.toList.splitOn '/').drop 1 with
  | protocol :: hostname :: _ :: port :: _ => do
      let protocol ← Protocol.fromStr (String.ofList protocol)
      let port ← parseU16 port
      some (protocol, String.ofList hostname, UInt16.ofNat port)
  | _ => none

/-- `read_bootnode_defaults`: the first configured bootnode, if it can be taken
apart. -/
def readBootnodeDefaults : Wizard Text (Protocol × String × UInt16) := do
  let nodes ← loadFromFile lib.toJsonText bootnodes
  pure ((deconstructBootnode (nodes.bind List.head?)).getD
    (.dns, Protocol.dns.defaultAddress, defaultPort))

/-- `choose_protocol`: the default is offered first. -/
def chooseProtocol (defaultProtocol : Protocol) : Wizard Text Protocol := do
  let protocols := sortByKey (fun protocol => if protocol ≠ defaultProtocol.toString then 1 else 0)
    [Protocol.dns.toString, Protocol.ipv4.toString]
  let chosen ← ask fun n =>
    outside.promptMultiOption n "Your bootnode should be accessible via:" protocols
  lift (okOr (Protocol.fromStr chosen)
    (.panic "Invalid protocol cannot be chosen from valid options only"))

def networkKeyPath (substrateNodeBasePath chainName : String) : String :=
  substrateNodeBasePath ++ "/chains/" ++ chainName ++ "/network/secret_ed25519"

/-- `peer_id_from_network_key`: the key is a hexadecimal text. -/
def peerIdFromNetworkKey (keyStr : String) : Except Failure String := do
  let bytes ← okOr (lib.hex.fromHex keyStr.toList) (.error "Invalid hex")
  okOr (lib.peerId bytes) (.error "Invalid Ed25519 bytes")

/-- `peer_id_from_config`: the base path is asked for and saved. -/
def peerIdFromConfig : Wizard Text String := do
  let basePath ← promptWithDefaultFromFileAndSave outside lib.toJsonText substrateNodeDataBasePath
  let path := networkKeyPath basePath "partner_chains_template"
  let content ← readFile path
  let key ← lift (okOr content (.error ("⚠️ Network key not found under " ++ path ++
    ". Please run the `generate-keys` command first")))
  lift (peerIdFromNetworkKey lib (lib.asString key))

/-- The address is asked for. -/
def promptBootnode (protocol : Protocol) (defaultAddress : String) (port : UInt16)
    (peerId : String) : Wizard Text String :=
  match protocol with
  | .dns => do
      let hostname ← ask fun n => outside.prompt n "Enter bootnode hostname" (some defaultAddress)
      pure (dnsBootnode hostname port peerId)
  | .ipv4 => do
      let address ← ask fun n => outside.prompt n "Enter bootnode IP address" (some defaultAddress)
      if isIpv4Addr address then pure (ipv4Bootnode address port peerId)
      else fail (.error "⚠️ Invalid IP address")

/-- `establish_bootnodes`: the configured bootnodes are replaced by the one
entered. -/
def establishBootnodes : Wizard Text Unit := do
  let peerId ← peerIdFromConfig outside lib
  let (defaultProtocol, defaultHostnameOrIp, defaultPort) ← readBootnodeDefaults lib
  let protocol ← chooseProtocol outside defaultProtocol
  let port ← ask fun n => outside.prompt n "Enter bootnode TCP port"
    (some (String.ofList (Nat.toDigits 10 defaultPort.toNat)))
  let port ← lift (okOr ((parseU16 port.toList).map UInt16.ofNat)
    (.error "⚠️ Port must be a valid number"))
  let bootnode ← promptBootnode outside protocol
    (if defaultProtocol = protocol then defaultHostnameOrIp else protocol.defaultAddress) port
    peerId
  saveToFile lib.toJsonText bootnodes [bootnode]

/-! ## The genesis UTXO -/

/-- The prefix of the CBOR of 32 bytes. -/
def cborKeyPrefix : String := "5820"

/-- The key in the content of a file. -/
def keyBytes (path : String) (content : Text) : Except Failure (FixedBytes 32) := do
  let cborHex ← okOr
    ((lib.fromStr content).bind fun json => (json.get "cborHex").bind JValue.asStr)
    (.error ("Failed to parse Cardano key file " ++ path))
  let vkey ← okOr (cborKeyPrefix.toList.isPrefixOf? cborHex.toList)
    (.error ("Invalid cbor value of Cardano key - missing prefix 5820: " ++ cborHex))
  let bytes ← okOr (lib.hex.fromHex vkey)
    (.error ("Invalid cbor value of Cardano key - not valid hex: " ++ cborHex))
  okOr (FixedBytes.tryFrom 32 bytes)
    (.error ("Invalid cbor value of Cardano key - incorrect length: " ++ cborHex))

/-- `get_key_bytes_from_file` for 32 bytes. -/
def getKeyBytesFromFile (path : String) : Wizard Text (FixedBytes 32) := do
  let file ← readFile path
  let content ← lift (okOr file (.error ("Failed to read Cardano key file " ++ path)))
  lift (keyBytes lib path content)

/-- `NetworkTypeExt::to_csl`. -/
def toCsl : NetworkType → NetworkIdKind
  | .mainnet => .mainnet
  | .testnet => .testnet

/-- The address of a verification key without a stake part. -/
def paymentAddress (keyBytes : FixedBytes 32) (network : NetworkIdKind) : Address :=
  keyHashAddress (lib.blake2b keyBytes.bytes) network

/-- `derive_address`: from the verification key in a file the user names. -/
def deriveAddress (cardanoNetwork : NetworkType) : Wizard Text String := do
  let keyFile ← promptWithDefaultFromFileAndSave outside lib.toJsonText
    cardanoPaymentVerificationKeyFile
  let keyBytes ← getKeyBytesFromFile lib keyFile
  lift ((lib.uplc.toBech32 (paymentAddress lib keyBytes (toCsl cardanoNetwork))).mapError .error)

/-- The answer has to be one to the request. -/
def expectResponse {α : Type} (query : String)
    (expected : OgmiosResponse CborBytes → Option α)
    (response : Except String (OgmiosResponse CborBytes)) : Except Failure α := do
  let response ← response.mapError .error
  okOr (expected response) (.unexpectedResponse query)

/-- `get_shelley_config`: asks Ogmios for the Shelley genesis. -/
def getShelleyConfig (addr : String) : Wizard Text ShelleyGenesisConfiguration := do
  let response ← ask fun n => outside.ogmiosRpc n addr .queryNetworkShelleyGenesis
  lift (expectResponse "shelley genesis configuration"
    (fun | .queryNetworkShelleyGenesis shelleyConfig => some shelleyConfig | _ => none) response)

/-- `get_eras_summaries`: asks Ogmios for the eras of the ledger. -/
def getErasSummaries (addr : String) : Wizard Text (List EraSummary) := do
  let response ← ask fun n => outside.ogmiosRpc n addr .queryLedgerStateEraSummaries
  lift (expectResponse "era summaries"
    (fun | .queryLedgerStateEraSummaries erasSummaries => some erasSummaries | _ => none)
    response)

/-- `query_utxos`: asks Ogmios for the outputs of the address. -/
def queryUtxos (ogmiosConfig : ServiceConfig) (address : String) :
    Wizard Text (List (OgmiosUtxo CborBytes)) := do
  let response ← ask fun n => outside.ogmiosRpc n ogmiosConfig.toString (.queryUtxo address)
  lift (expectResponse "utxos" (fun | .queryUtxo utxos => some utxos | _ => none) response)

structure ValidUtxo where
  utxoId : UtxoId
  lovelace : Nat

/-- `to_display_string`, by which the chosen output is found again. -/
def ValidUtxo.toDisplayString (utxo : ValidUtxo) : String :=
  utxoIdToString utxo.utxoId ++ " (" ++ String.ofList (Nat.toDigits 10 utxo.lovelace) ++
    " lovelace)"

/-- The UTXOs without tokens, those with most lovelace first. -/
def filterUtxos (utxos : List (OgmiosUtxo CborBytes)) : List ValidUtxo :=
  sortByKey (fun utxo => OrderDual.toDual utxo.lovelace)
    ((utxos.filter fun utxo => utxo.value.nativeTokens = []).map
      fun utxo => ⟨utxo.utxoId, utxo.value.lovelace⟩)

/-- `select_from_utxos`: the answer is matched with the texts that were offered. -/
def selectFromUtxos (prompt : String) (utxos : List ValidUtxo) : Wizard Text UtxoId := do
  let selected ← ask fun n =>
    outside.promptMultiOption n prompt (utxos.map ValidUtxo.toDisplayString)
  let utxo ← lift (okOr (utxos.find? fun utxo => utxo.toDisplayString = selected)
    (.error "⚠️ Failed to find selected UTXO"))
  lift ((utxoIdFromStr lib.hex (utxoIdToString utxo.utxoId).toList).mapError .error)

/-- `save_if_missing`: an existing value stays. -/
def saveIfMissing {T : Type} (field : ConfigFieldDefinition T) (newValue : T) :
    Wizard Text Unit := do
  let loaded ← loadFromFile lib.toJsonText field
  if loaded.isNone then saveToFile lib.toJsonText field newValue else pure ()

/-- `prepare_chain_params`: the genesis UTXO is chosen among the user's outputs
and stays if there is one already. -/
def prepareChainParams : Wizard Text (UtxoId × ServiceConfig) := do
  let ogmiosConfiguration ← promptOgmiosConfiguration outside lib.toJsonText
  let shelleyConfig ← getShelleyConfig outside ogmiosConfiguration.toString
  let address ← deriveAddress outside lib shelleyConfig.network
  let utxos ← queryUtxos outside ogmiosConfiguration address
  let validUtxos := filterUtxos utxos
  if validUtxos.isEmpty then
    fail (.error "No UTXOs found")
  else do
    let selected ← selectFromUtxos outside lib "Select an UTXO to use as the genesis UTXO"
      validUtxos
    saveIfMissing lib (genesisUtxo lib.hex) selected
    pure (selected, ogmiosConfiguration)

/-! ## The main chain -/

/-- `prepare_cardano_params`: the eras are asked for before the genesis. -/
def prepareCardanoParams (ogmiosConfig : ServiceConfig) : Wizard Text CardanoParameters := do
  let erasSummaries ← getErasSummaries outside ogmiosConfig.toString
  let shelleyConfig ← getShelleyConfig outside ogmiosConfig.toString
  lift ((caradanoParameters erasSummaries shelleyConfig).mapError .error)

/-- `save` of `CardanoParameters`, field by field. -/
def CardanoParameters.save (params : CardanoParameters) : Wizard Text Unit := do
  saveToFile lib.toJsonText cardanoNetwork params.network
  saveToFile lib.toJsonText cardanoSecurityParameter params.securityParameter
  saveToFile lib.toJsonText (cardanoActiveSlotsCoeff lib.f64) params.activeSlotsCoeff
  saveToFile lib.toJsonText cardanoFirstEpochNumber params.firstEpochNumber
  saveToFile lib.toJsonText cardanoFirstSlotNumber params.firstSlotNumber
  saveToFile lib.toJsonText cardanoEpochDurationMillis params.epochDurationMillis
  saveToFile lib.toJsonText cardanoFirstEpochTimestampMillis params.firstEpochTimestampMillis

/-- `GetScriptsData` for a client of Ogmios. -/
def getScriptsDataFrom (network : Except String NetworkType) (genesis : UtxoId) :
    Except OffchainError ScriptsData := do
  let network ← network.mapError .ogmiosError
  (getScriptsData lib.uplc lib.rawScripts lib.blake2b genesis (toCsl network)).mapError
    .internalError

/-- `set_up_cardano_addresses`: the scripts are derived from the genesis UTXO, and
their addresses saved. -/
def setUpCardanoAddresses (genesis : UtxoId) (ogmiosConfig : ServiceConfig) :
    Wizard Text Unit := do
  let built ← ask fun n => outside.offchainImpl n ogmiosConfig.toString
  if built then do
    let network ← ask fun n => outside.shelleyNetwork n ogmiosConfig.toString
    let data ← lift ((getScriptsDataFrom lib network genesis).mapError .offchainCallFailed)
    saveToFile lib.toJsonText committeeCandidatesAddress data.addresses.committeeCandidateValidator
    saveToFile lib.toJsonText dParameterPolicyId
      (String.ofList (hexEncode data.policyIds.dParameter.bytes))
    saveToFile lib.toJsonText permissionedCandidatesPolicyId
      (String.ofList (hexEncode data.policyIds.permissionedCandidates.bytes))
    saveToFile lib.toJsonText illiquidSupplyAddress
      data.addresses.illiquidCirculationSupplyValidator
  else
    fail (.error ("Couldn't open connection to Ogmios at " ++ ogmiosConfig.toString))

/-- The hexadecimal text of 28 zeros. -/
def noPolicy : String := "0x" ++ String.ofList (hexEncode (List.replicate 28 0))

/-- `prepare_native_token`: without a native token the fields are filled with
zeros. -/
def prepareNativeToken : Wizard Text Unit := do
  let configure ← ask fun n => outside.promptYesNo n
    "Do you want to configure a native token for you Partner Chain?" true
  if configure then do
    let _ ← promptWithDefaultFromFileAndSave outside lib.toJsonText nativeTokenPolicy
    let _ ← promptWithDefaultFromFileAndSave outside lib.toJsonText nativeTokenAssetName
    pure ()
  else do
    saveToFile lib.toJsonText nativeTokenPolicy.toConfigFieldDefinition noPolicy
    saveToFile lib.toJsonText nativeTokenAssetName.toConfigFieldDefinition "0x"

/-- `prepare_main_chain_config`: the candidates are only written when there are
none yet. -/
def prepareMainChainConfig (ogmiosConfig : ServiceConfig) (genesis : UtxoId) :
    Wizard Text Unit := do
  let params ← prepareCardanoParams outside ogmiosConfig
  CardanoParameters.save lib params
  setUpCardanoAddresses outside lib genesis ogmiosConfig
  saveIfMissing lib initialPermissionedCandidates []
  prepareNativeToken outside lib

/-- `PrepareConfigurationCmd::run`. -/
def prepareConfiguration : Wizard Text Unit := do
  establishBootnodes outside lib
  let (chainParams, ogmiosConfig) ← prepareChainParams outside lib
  prepareMainChainConfig outside lib ogmiosConfig chainParams

end Wizard

section Touches

variable {outside : Outside CborBytes} {lib : Libraries Text} {places : List Place}

/-- What `establishBootnodes` may write. -/
def bootnodePlaces : List Place :=
  [placeOf substrateNodeDataBasePath.toConfigFieldDefinition, placeOf bootnodes]

private theorem touches_peerIdFromConfig :
    Touches lib.toJsonText bootnodePlaces (peerIdFromConfig outside lib) := by
  refine Touches.bind ?_ fun basePath => ?_
  · exact touches_promptWithDefaultFromFileAndSave _ List.mem_cons_self
  · exact Touches.bind (Touches.attempt _) fun content => Touches.bind (Touches.lift _)
      fun key => Touches.lift _

private theorem touches_promptBootnode (protocol : Protocol) (defaultAddress : String)
    (port : UInt16) (peerId : String) :
    Touches lib.toJsonText places
      (promptBootnode outside protocol defaultAddress port peerId) := by
  cases protocol with
  | dns => exact Touches.bind (Touches.ask _) fun hostname => Touches.pure _
  | ipv4 =>
      exact Touches.bind (Touches.ask _) fun address =>
        Touches.ite (Touches.pure _) (Touches.fail _)

/-- Nothing but the base path and the bootnodes is written. -/
theorem touches_establishBootnodes :
    Touches lib.toJsonText bootnodePlaces (establishBootnodes outside lib) := by
  refine Touches.bind touches_peerIdFromConfig fun peerId => ?_
  refine Touches.bind (Touches.bind (Touches.attempt _) fun _ => Touches.pure _) fun defaults => ?_
  refine Touches.bind (Touches.bind (Touches.ask _) fun _ => Touches.lift _) fun protocol => ?_
  refine Touches.bind (Touches.ask _) fun answer => Touches.bind (Touches.lift _) fun port => ?_
  refine Touches.bind (touches_promptBootnode _ _ _ _) fun bootnode => ?_
  exact Touches.save _ _ (List.mem_cons_of_mem _ List.mem_cons_self)

theorem touches_getShelleyConfig (addr : String) :
    Touches lib.toJsonText places (getShelleyConfig outside addr) :=
  Touches.bind (Touches.ask _) fun _ => Touches.lift _

theorem touches_queryUtxos (config : ServiceConfig) (address : String) :
    Touches lib.toJsonText places (queryUtxos outside config address) :=
  Touches.bind (Touches.ask _) fun _ => Touches.lift _

theorem touches_prepareCardanoParams (config : ServiceConfig) :
    Touches lib.toJsonText places (prepareCardanoParams outside config) :=
  Touches.bind (Touches.bind (Touches.ask _) fun _ => Touches.lift _) fun _ =>
    Touches.bind (touches_getShelleyConfig _) fun _ => Touches.lift _

theorem touches_deriveAddress (network : NetworkType)
    (h : placeOf cardanoPaymentVerificationKeyFile.toConfigFieldDefinition ∈ places) :
    Touches lib.toJsonText places (deriveAddress outside lib network) := by
  refine Touches.bind (touches_promptWithDefaultFromFileAndSave _ h) fun keyFile => ?_
  refine Touches.bind (Touches.bind (Touches.attempt _) fun file => ?_) fun keyBytes => ?_
  · exact Touches.bind (Touches.lift _) fun content => Touches.lift _
  · exact Touches.lift _

theorem touches_selectFromUtxos (prompt : String) (utxos : List ValidUtxo) :
    Touches lib.toJsonText places (selectFromUtxos outside lib prompt utxos) :=
  Touches.bind (Touches.ask _) fun _ => Touches.bind (Touches.lift _) fun _ => Touches.lift _

theorem touches_saveIfMissing {T : Type} (field : ConfigFieldDefinition T) (newValue : T)
    (h : placeOf field ∈ places) :
    Touches lib.toJsonText places (saveIfMissing lib field newValue) :=
  Touches.bind (Touches.attempt _) fun _ => Touches.ite (Touches.save _ _ h) (Touches.pure _)

/-- Where the path of the payment key is kept. -/
def keyFilePlace : Place := placeOf cardanoPaymentVerificationKeyFile.toConfigFieldDefinition

/-- What `prepareChainParams` may write. -/
def chainParamsPlaces (lib : Libraries Text) : List Place :=
  ogmiosPlaces ++ [keyFilePlace, placeOf (genesisUtxo lib.hex)]

theorem touches_prepareChainParams :
    Touches lib.toJsonText (chainParamsPlaces lib) (prepareChainParams outside lib) := by
  refine Touches.bind ((touches_promptOgmiosConfiguration _ _).mono
    (List.subset_append_left _ _)) fun config => ?_
  refine Touches.bind (touches_getShelleyConfig _) fun shelley => ?_
  refine Touches.bind (touches_deriveAddress _ (List.mem_append_right _ List.mem_cons_self))
    fun address => ?_
  refine Touches.bind (touches_queryUtxos _ _) fun utxos => Touches.ite (Touches.fail _) ?_
  refine Touches.bind (touches_selectFromUtxos _ _) fun selected => ?_
  refine Touches.bind (touches_saveIfMissing _ _ ?_) fun _ => Touches.pure _
  exact List.mem_append_right _ (List.mem_cons_of_mem _ List.mem_cons_self)

end Touches

/-! ## What is in the chain config -/

section ChainConfig

variable (lib : Libraries Text)

/-- What the config says about the contracts of a genesis UTXO. -/
structure ContractAddresses where
  committeeCandidatesAddress : String
  dParameterPolicyId : String
  permissionedCandidatesPolicyId : String
  illiquidSupplyAddress : String
deriving DecidableEq

/-- The addresses of the main chain are in `addresses`. -/
structure ChainConfig where
  cardano : CardanoParameters
  genesisUtxo : UtxoId
  addresses : ContractAddresses
  nativeTokenPolicyId : String
  nativeTokenAssetName : String

/-- A struct is read field by field. -/
def cardanoParametersFromValue (json : JValue) : Option CardanoParameters := do
  let securityParameter ← extractFromJsonObject cardanoSecurityParameter json
  let activeSlotsCoeff ← extractFromJsonObject (cardanoActiveSlotsCoeff lib.f64) json
  let firstEpochNumber ← extractFromJsonObject cardanoFirstEpochNumber json
  let firstSlotNumber ← extractFromJsonObject cardanoFirstSlotNumber json
  let epochDurationMillis ← extractFromJsonObject cardanoEpochDurationMillis json
  let firstEpochTimestampMillis ← extractFromJsonObject cardanoFirstEpochTimestampMillis json
  let network ← extractFromJsonObject cardanoNetwork json
  some ⟨securityParameter, activeSlotsCoeff, firstEpochNumber, firstSlotNumber,
    epochDurationMillis, firstEpochTimestampMillis, network⟩

/-- The fields `load_chain_config` reads from the chain configuration. -/
def chainConfigFromValue (json : JValue) : Option ChainConfig := do
  let cardano ← cardanoParametersFromValue lib json
  let genesis ← extractFromJsonObject (ConfigFields.genesisUtxo lib.hex) json
  let committeeCandidates ← extractFromJsonObject committeeCandidatesAddress json
  let dParameter ← extractFromJsonObject dParameterPolicyId json
  let permissionedCandidates ← extractFromJsonObject permissionedCandidatesPolicyId json
  let policy ← extractFromJsonObject nativeTokenPolicy.toConfigFieldDefinition json
  let assetName ← extractFromJsonObject nativeTokenAssetName.toConfigFieldDefinition json
  let illiquidSupply ← extractFromJsonObject illiquidSupplyAddress json
  some ⟨cardano, genesis,
    ⟨committeeCandidates, dParameter, permissionedCandidates, illiquidSupply⟩, policy, assetName⟩

/-- The error of the parser is left out. -/
def loadChainConfig : Wizard Text ChainConfig := do
  let file ← readFile chainConfigFilePath
  let content ← lift (okOr file (.error ("⚠️ Chain config file " ++ chainConfigFilePath ++
    " does not exists. Run prepare-configuration wizard first.")))
  lift (okOr ((lib.fromStr content).bind (chainConfigFromValue lib)) (.error
    ("⚠️ Chain config file " ++ chainConfigFilePath ++
      " is invalid. Run prepare-configuration wizard or fix errors manually.")))

/-- The four addresses and policies the wizard keeps. -/
def ContractAddresses.ofScriptsData (data : ScriptsData) : ContractAddresses where
  committeeCandidatesAddress := data.addresses.committeeCandidateValidator
  dParameterPolicyId := String.ofList (hexEncode data.policyIds.dParameter.bytes)
  permissionedCandidatesPolicyId :=
    String.ofList (hexEncode data.policyIds.permissionedCandidates.bytes)
  illiquidSupplyAddress := data.addresses.illiquidCirculationSupplyValidator

/-- The addresses that belong to a genesis UTXO. -/
def contractAddresses (genesis : UtxoId) (network : NetworkType) :
    Except String ContractAddresses :=
  (getScriptsData lib.uplc lib.rawScripts lib.blake2b genesis (toCsl network)).map
    ContractAddresses.ofScriptsData

/-- The addresses of the config are those of its genesis UTXO. -/
def ChainConfig.Consistent (config : ChainConfig) : Prop :=
  contractAddresses lib config.genesisUtxo config.cardano.network = .ok config.addresses

/-! ## What create-chain-spec reads -/

/-- `load_from_file` of a field that has to be there. -/
def loadOrFail {T : Type} (field : ConfigFieldDefinition T) (message : String) :
    Wizard Text T := do
  let loaded ← loadFromFile lib.toJsonText field
  lift (okOr loaded (.error message))

/-- `load_config_field` of `create_chain_spec`. -/
def loadConfigField {T : Type} (field : ConfigFieldDefinition T) : Wizard Text T :=
  loadOrFail lib field ("failed to read '" ++ ".".intercalate field.path ++ "'")

/-- The keys as bytes. -/
structure ParsedPermissionedCandidatesKeys where
  sidechain : FixedBytes 33
  aura : FixedBytes 32
  grandpa : FixedBytes 32
deriving DecidableEq

/-- A public key of `n` bytes. -/
def parsePublicKey (n : Nat) (value : String) : Option (FixedBytes n) := do
  let bytes ← lib.hex.fromHex value.toList
  FixedBytes.tryFrom n bytes

/-- A compressed ECDSA key. -/
def parseEcdsa (value : String) : Option (FixedBytes 33) := parsePublicKey lib 33 value

/-- A key of Aura. -/
def parseSr25519 (value : String) : Option (FixedBytes 32) := parsePublicKey lib 32 value

/-- A key of Grandpa. -/
def parseEd25519 (value : String) : Option (FixedBytes 32) := parsePublicKey lib 32 value

/-- `try_from`: the first key that does not parse is the one reported. -/
def ParsedPermissionedCandidatesKeys.tryFrom (value : PermissionedCandidateKeys) :
    Except Failure ParsedPermissionedCandidatesKeys := do
  let sidechain ← okOr (parseEcdsa lib value.sidechainPubKey)
    (.error (value.sidechainPubKey ++ " is invalid ECDSA public key"))
  let aura ← okOr (parseSr25519 lib value.auraPubKey)
    (.error (value.auraPubKey ++ " is invalid sr25519 public key"))
  let grandpa ← okOr (parseEd25519 lib value.grandpaPubKey)
    (.error (value.grandpaPubKey ++ " is invalid Ed25519 public key"))
  .ok ⟨sidechain, aura, grandpa⟩

/-- The addresses and policies of the contracts are in `addresses`. -/
structure CreateChainSpecConfig where
  genesisUtxo : UtxoId
  initialPermissionedCandidatesRaw : List PermissionedCandidateKeys
  initialPermissionedCandidatesParsed : List ParsedPermissionedCandidatesKeys
  addresses : ContractAddresses
  nativeTokenPolicy : String
  nativeTokenAssetName : String
deriving DecidableEq

/-- `load` of `CreateChainSpecConfig`. -/
def CreateChainSpecConfig.load : Wizard Text CreateChainSpecConfig := do
  let raw ← loadConfigField lib initialPermissionedCandidates
  let parsed ← lift (raw.mapM (ParsedPermissionedCandidatesKeys.tryFrom lib))
  let genesis ← loadConfigField lib (ConfigFields.genesisUtxo lib.hex)
  let committeeCandidates ← loadConfigField lib committeeCandidatesAddress
  let dParameter ← loadConfigField lib dParameterPolicyId
  let permissionedCandidates ← loadConfigField lib permissionedCandidatesPolicyId
  let policy ← loadConfigField lib ConfigFields.nativeTokenPolicy.toConfigFieldDefinition
  let assetName ← loadConfigField lib ConfigFields.nativeTokenAssetName.toConfigFieldDefinition
  let illiquidSupply ← loadConfigField lib illiquidSupplyAddress
  pure ⟨genesis, raw, parsed,
    ⟨committeeCandidates, dParameter, permissionedCandidates, illiquidSupply⟩, policy, assetName⟩

/-- What the chain config says to create-chain-spec, with the initial candidates. -/
def ChainConfig.forChainSpec (config : ChainConfig) (raw : List PermissionedCandidateKeys)
    (parsed : List ParsedPermissionedCandidatesKeys) : CreateChainSpecConfig :=
  ⟨config.genesisUtxo, raw, parsed, config.addresses, config.nativeTokenPolicyId,
    config.nativeTokenAssetName⟩

end ChainConfig

/-! ## What the wizard writes -/

section Writes

variable {outside : Outside CborBytes} {lib : Libraries Text} {world world' : World Text}

/-- Afterwards the field has its previous value, or the new one. -/
theorem stored_saveIfMissing {T : Type} {field : ConfigFieldDefinition T} {newValue : T}
    (hvalue : RoundTrips field newValue) {u : Unit}
    (h : saveIfMissing lib field newValue world = (.ok u, world')) :
    ∃ previous, stored lib.toJsonText field world = .ok previous ∧
      stored lib.toJsonText field world' = .ok (some (previous.getD newValue)) := by
  obtain ⟨loaded, world₁, hload, h⟩ := run_bind.mp h
  obtain ⟨hstored, rfl⟩ := loadFromFile_eq_ok.mp hload
  refine ⟨loaded, hstored, ?_⟩
  cases loaded with
  | none => exact stored_saveToFile hvalue h
  | some previous =>
      obtain ⟨-, rfl⟩ := run_pure.mp h
      exact hstored

private theorem keeps_requests_saveIfMissing {T : Type} (field : ConfigFieldDefinition T)
    (newValue : T) : Keeps World.requests (saveIfMissing lib field newValue) :=
  Keeps.bind (Keeps.attempt _) fun _ => Keeps.ite (keeps_requests_saveToFile _ _) (Keeps.pure _)

/-- The UTXO is the user's answer to the last request so far.  It is one of those
that Ogmios had reported for an address at the request before, and no tokens are
in it. -/
def Selected (outside : Outside CborBytes) (requests : Nat) (utxoId : UtxoId) : Prop :=
  ∃ n addr address utxos, requests = n + 2 ∧
    outside.ogmiosRpc n addr (.queryUtxo address) = .ok (.queryUtxo utxos) ∧
    ∃ utxo ∈ utxos, utxo.utxoId = utxoId ∧ utxo.value.nativeTokens = [] ∧
      outside.promptMultiOption (n + 1) "Select an UTXO to use as the genesis UTXO"
          ((filterUtxos utxos).map ValidUtxo.toDisplayString) =
        (ValidUtxo.mk utxo.utxoId utxo.value.lovelace).toDisplayString

/-- The selected output is one whose text the user chose. -/
theorem selectFromUtxos_eq_ok {prompt : String} {utxos : List ValidUtxo} {selected : UtxoId}
    (h : selectFromUtxos outside lib prompt utxos world = (.ok selected, world')) :
    selected.index < 2 ^ 15 ∧ world'.requests = world.requests + 1 ∧
      ∃ utxo ∈ utxos, utxo.utxoId = selected ∧
        outside.promptMultiOption world.requests prompt (utxos.map ValidUtxo.toDisplayString) =
          utxo.toDisplayString := by
  obtain ⟨answer, world₁, hask, h⟩ := run_bind.mp h
  obtain ⟨rfl, rfl⟩ := ask_eq_ok.mp hask
  obtain ⟨utxo, world₂, hlift, h⟩ := run_bind.mp h
  obtain ⟨hfound, rfl⟩ := run_lift.mp hlift
  obtain ⟨hparsed, rfl⟩ := run_lift.mp h
  obtain ⟨hindex, rfl⟩ :=
    (utxoIdFromStr_utxoIdToString_iff lib.hex).mp (mapError_eq_ok.mp hparsed)
  have hfind := okOr_eq_ok.mp hfound
  have hdisplay := List.find?_some hfind
  exact ⟨hindex, rfl, utxo, List.mem_of_find?_eq_some hfind, rfl,
    (of_decide_eq_true hdisplay).symm⟩

private theorem mem_filterUtxos {utxos : List (OgmiosUtxo CborBytes)} {valid : ValidUtxo}
    (h : valid ∈ filterUtxos utxos) :
    ∃ utxo ∈ utxos, valid = ⟨utxo.utxoId, utxo.value.lovelace⟩ ∧ utxo.value.nativeTokens = [] := by
  have hmem := (sortByKey_perm _ _).mem_iff.mp h
  obtain ⟨utxo, hutxo, rfl⟩ := List.mem_map.mp hmem
  obtain ⟨hmem, htokens⟩ := List.mem_filter.mp hutxo
  exact ⟨utxo, hmem, rfl, of_decide_eq_true htokens⟩

private theorem queryUtxos_eq_ok {config : ServiceConfig} {address : String}
    {utxos : List (OgmiosUtxo CborBytes)}
    (h : queryUtxos outside config address world = (.ok utxos, world')) :
    outside.ogmiosRpc world.requests config.toString (.queryUtxo address) =
      .ok (.queryUtxo utxos) ∧ world'.requests = world.requests + 1 := by
  obtain ⟨response, world₁, hask, h⟩ := run_bind.mp h
  obtain ⟨rfl, rfl⟩ := ask_eq_ok.mp hask
  obtain ⟨hresponse, rfl⟩ := run_lift.mp h
  obtain ⟨answer, hanswer, hexpected⟩ := bind_eq_ok.mp hresponse
  refine ⟨(mapError_eq_ok.mp hanswer).trans ?_, rfl⟩
  cases answer with
  | queryUtxo found => rw [Option.some.inj (okOr_eq_ok.mp hexpected)]
  | queryLedgerStateEraSummaries eras => cases okOr_eq_ok.mp hexpected
  | queryNetworkShelleyGenesis config => cases okOr_eq_ok.mp hexpected

private theorem prepareChainParams_eq_ok {selected : UtxoId} {config : ServiceConfig}
    (h : prepareChainParams outside lib world = (.ok (selected, config), world')) :
    Selected outside world'.requests selected ∧ ∃ previous,
      stored lib.toJsonText (genesisUtxo lib.hex) world = .ok previous ∧
      stored lib.toJsonText (genesisUtxo lib.hex) world' = .ok (some (previous.getD selected)) := by
  obtain ⟨config', world₁, hogmios, h⟩ := run_bind.mp h
  obtain ⟨shelley, world₂, hshelley, h⟩ := run_bind.mp h
  obtain ⟨address, world₃, haddress, h⟩ := run_bind.mp h
  obtain ⟨utxos, world₄, hutxos, h⟩ := run_bind.mp h
  by_cases hempty : (filterUtxos utxos).isEmpty
  · rw [if_pos hempty] at h
    exact absurd h fail_ne_ok
  rw [if_neg hempty] at h
  obtain ⟨selected', world₅, hselected, h⟩ := run_bind.mp h
  obtain ⟨_, world₆, hsaved, h⟩ := run_bind.mp h
  obtain ⟨heq, rfl⟩ := run_pure.mp h
  obtain ⟨rfl, rfl⟩ := Prod.mk.inj heq
  obtain ⟨hindex, hrequests₅, valid, hvalid, rfl, hchoice⟩ := selectFromUtxos_eq_ok hselected
  obtain ⟨utxo, hutxo, rfl, htokens⟩ := mem_filterUtxos hvalid
  obtain ⟨hanswer, hrequests₄⟩ := queryUtxos_eq_ok hutxos
  have hrequests : world'.requests = world₃.requests + 2 := by
    rw [(keeps_requests_saveIfMissing _ _).of_run hsaved, hrequests₅, hrequests₄]
  rw [hrequests₄] at hchoice
  refine ⟨⟨_, _, address, utxos, hrequests, hanswer, utxo, hutxo, rfl, htokens, hchoice⟩, ?_⟩
  -- nothing before the selection touches the field
  have hbefore : stored lib.toJsonText (genesisUtxo lib.hex) world₅ =
      stored lib.toJsonText (genesisUtxo lib.hex) world := by
    have hkeyFile : Touches lib.toJsonText
        [placeOf cardanoPaymentVerificationKeyFile.toConfigFieldDefinition]
        (deriveAddress outside lib shelley.network) :=
      touches_deriveAddress _ List.mem_cons_self
    rw [((touches_selectFromUtxos _ _ : Touches _ [] _).keeps _ rfl).of_run hselected,
      ((touches_queryUtxos _ _ : Touches _ [] _).keeps _ rfl).of_run hutxos,
      (hkeyFile.keeps _ rfl).of_run haddress,
      ((touches_getShelleyConfig _ : Touches _ [] _).keeps _ rfl).of_run hshelley,
      ((touches_promptOgmiosConfiguration _ _).keeps _ rfl).of_run hogmios]
  obtain ⟨previous, hprevious, hstored⟩ :=
    stored_saveIfMissing (genesisUtxo_roundTrips lib.hex hindex) hsaved
  exact ⟨previous, hbefore.symm.trans hprevious, hstored⟩

/-- The outside is about one network, and its active slots coefficient is a number
that JSON can express. -/
structure Answers (outside : Outside CborBytes) (lib : Libraries Text) (network : NetworkType) :
    Prop where
  shelley : ∀ {n addr config}, outside.ogmiosRpc n addr .queryNetworkShelleyGenesis =
      .ok (.queryNetworkShelleyGenesis config) → config.network = network ∧
    RoundTrips (cardanoActiveSlotsCoeff lib.f64) config.activeSlotsCoefficient
  client : ∀ {n addr reported}, outside.shelleyNetwork n addr = .ok reported → reported = network

private theorem getShelleyConfig_eq_ok {addr : String} {config : ShelleyGenesisConfiguration}
    (h : getShelleyConfig outside addr world = (.ok config, world')) :
    ∃ n, outside.ogmiosRpc n addr .queryNetworkShelleyGenesis =
      .ok (.queryNetworkShelleyGenesis config) := by
  obtain ⟨response, world₁, hask, h⟩ := run_bind.mp h
  obtain ⟨rfl, -⟩ := ask_eq_ok.mp hask
  obtain ⟨answer, hanswer, hexpected⟩ := bind_eq_ok.mp (run_lift.mp h).1
  refine ⟨_, (mapError_eq_ok.mp hanswer).trans ?_⟩
  cases answer with
  | queryNetworkShelleyGenesis found => rw [Option.some.inj (okOr_eq_ok.mp hexpected)]
  | queryLedgerStateEraSummaries eras => cases okOr_eq_ok.mp hexpected
  | queryUtxo utxos => cases okOr_eq_ok.mp hexpected

private theorem prepareCardanoParams_eq_ok {network : NetworkType}
    (hanswers : Answers outside lib network)
    {ogmiosConfig : ServiceConfig} {params : CardanoParameters}
    (h : prepareCardanoParams outside ogmiosConfig world = (.ok params, world')) :
    params.network = network ∧
      RoundTrips (cardanoActiveSlotsCoeff lib.f64) params.activeSlotsCoeff ∧
      ∃ eras shelley, caradanoParameters eras shelley = .ok params := by
  obtain ⟨eras, world₁, -, h⟩ := run_bind.mp h
  obtain ⟨shelley, world₂, hshelley, h⟩ := run_bind.mp h
  obtain ⟨n, hanswer⟩ := getShelleyConfig_eq_ok hshelley
  obtain ⟨hnetwork, hcoeff⟩ := hanswers.shelley hanswer
  have hparams := mapError_eq_ok.mp (run_lift.mp h).1
  obtain ⟨era, -, h'⟩ := bind_eq_ok.mp hparams
  obtain ⟨duration, -, h'⟩ := bind_eq_ok.mp h'
  obtain ⟨timestamp, -, h'⟩ := bind_eq_ok.mp h'
  obtain rfl := Except.ok.inj h'
  exact ⟨hnetwork, hcoeff, eras, shelley, hparams⟩

/-- What `CardanoParameters.save` writes, in its order. -/
def cardanoWrites (lib : Libraries Text) (params : CardanoParameters) : List Write :=
  [⟨cardanoNetwork, params.network⟩,
    ⟨cardanoSecurityParameter, params.securityParameter⟩,
    ⟨cardanoActiveSlotsCoeff lib.f64, params.activeSlotsCoeff⟩,
    ⟨cardanoFirstEpochNumber, params.firstEpochNumber⟩,
    ⟨cardanoFirstSlotNumber, params.firstSlotNumber⟩,
    ⟨cardanoEpochDurationMillis, params.epochDurationMillis⟩,
    ⟨cardanoFirstEpochTimestampMillis, params.firstEpochTimestampMillis⟩]

/-- Where it writes. -/
def cardanoPlaces (lib : Libraries Text) : List Place :=
  [placeOf cardanoNetwork, placeOf cardanoSecurityParameter,
    placeOf (cardanoActiveSlotsCoeff lib.f64), placeOf cardanoFirstEpochNumber,
    placeOf cardanoFirstSlotNumber, placeOf cardanoEpochDurationMillis,
    placeOf cardanoFirstEpochTimestampMillis]

/-- Saving the parameters is a list of writes. -/
theorem save_eq_saveAll (lib : Libraries Text) (params : CardanoParameters) :
    CardanoParameters.save lib params = saveAll lib.toJsonText (cardanoWrites lib params) := by
  simp only [CardanoParameters.save, cardanoWrites, saveAll, bind_pure_unit]

private theorem cardanoWrites_roundTrip {params : CardanoParameters}
    (hcoeff : RoundTrips (cardanoActiveSlotsCoeff lib.f64) params.activeSlotsCoeff) :
    ∀ write ∈ cardanoWrites lib params, RoundTrips write.field write.value := by
  simp only [cardanoWrites, List.forall_mem_cons]
  exact ⟨cardanoNetwork_roundTrips _, u64Field_roundTrips _ _ _, hcoeff,
    cardanoFirstEpochNumber_roundTrips _, u64Field_roundTrips _ _ _, u64Field_roundTrips _ _ _,
    u64Field_roundTrips _ _ _, fun _ h => absurd h List.not_mem_nil⟩

/-- What `setUpCardanoAddresses` writes, in its order. -/
def addressWrites (addresses : ContractAddresses) : List Write :=
  [⟨committeeCandidatesAddress, addresses.committeeCandidatesAddress⟩,
    ⟨dParameterPolicyId, addresses.dParameterPolicyId⟩,
    ⟨permissionedCandidatesPolicyId, addresses.permissionedCandidatesPolicyId⟩,
    ⟨illiquidSupplyAddress, addresses.illiquidSupplyAddress⟩]

/-- Where it writes. -/
def addressPlaces : List Place :=
  [placeOf committeeCandidatesAddress, placeOf dParameterPolicyId,
    placeOf permissionedCandidatesPolicyId, placeOf illiquidSupplyAddress]

private theorem addressWrites_roundTrip (addresses : ContractAddresses) :
    ∀ write ∈ addressWrites addresses, RoundTrips write.field write.value := by
  simp only [addressWrites, List.forall_mem_cons]
  exact ⟨stringField_roundTrips _ _ _, stringField_roundTrips _ _ _, stringField_roundTrips _ _ _,
    stringField_roundTrips _ _ _, fun _ h => absurd h List.not_mem_nil⟩

private theorem setUpCardanoAddresses_eq_ok {network : NetworkType}
    (hanswers : Answers outside lib network) {genesis : UtxoId} {config : ServiceConfig} {u : Unit}
    (h : setUpCardanoAddresses outside lib genesis config world = (.ok u, world')) :
    ∃ addresses, contractAddresses lib genesis network = .ok addresses ∧
      ∃ world₁, world₁.files = world.files ∧
        saveAll lib.toJsonText (addressWrites addresses) world₁ = (.ok u, world') := by
  obtain ⟨built, world₁, hbuilt, h⟩ := run_bind.mp h
  obtain ⟨-, rfl⟩ := ask_eq_ok.mp hbuilt
  by_cases hbuilt' : built
  · rw [if_pos hbuilt'] at h
    obtain ⟨reported, world₂, hask, h⟩ := run_bind.mp h
    obtain ⟨hreported, rfl⟩ := ask_eq_ok.mp hask
    obtain ⟨data, world₃, hlift, h⟩ := run_bind.mp h
    obtain ⟨hdata, rfl⟩ := run_lift.mp hlift
    obtain ⟨network', hnetwork', hdata⟩ := bind_eq_ok.mp (mapError_eq_ok.mp hdata)
    obtain rfl := hanswers.client (hreported.symm.trans (mapError_eq_ok.mp hnetwork'))
    refine ⟨.ofScriptsData data, ?_, ⟨world.files, world.requests + 1 + 1⟩, rfl, ?_⟩
    · rw [contractAddresses, mapError_eq_ok.mp hdata]
      rfl
    · simp only [addressWrites, saveAll, bind_pure_unit]
      exact h
  · rw [if_neg hbuilt'] at h
    exact absurd h fail_ne_ok

/-- The fields of the native token. -/
theorem prepareNativeToken_eq_ok {u : Unit}
    (h : prepareNativeToken outside lib world = (.ok u, world')) :
    ∃ policy assetName,
      stored lib.toJsonText nativeTokenPolicy.toConfigFieldDefinition world' =
          .ok (some policy) ∧
        stored lib.toJsonText nativeTokenAssetName.toConfigFieldDefinition world' =
          .ok (some assetName) := by
  obtain ⟨configure, world₁, -, h⟩ := run_bind.mp h
  by_cases hconfigure : configure
  · rw [if_pos hconfigure] at h
    obtain ⟨policy, world₂, hpolicy, h⟩ := run_bind.mp h
    obtain ⟨assetName, world₃, hassetName, h⟩ := run_bind.mp h
    obtain ⟨-, rfl⟩ := run_pure.mp h
    have htouches : Touches lib.toJsonText [placeOf nativeTokenAssetName.toConfigFieldDefinition]
        (promptWithDefaultFromFileAndSave outside lib.toJsonText nativeTokenAssetName) :=
      touches_promptWithDefaultFromFileAndSave _ List.mem_cons_self
    refine ⟨policy, assetName, ?_, ?_⟩
    · rw [(htouches.keeps _ rfl).of_run hassetName]
      exact stored_promptWithDefaultFromFileAndSave (stringField_roundTrips _ _) hpolicy
    · exact stored_promptWithDefaultFromFileAndSave (stringField_roundTrips _ _) hassetName
  · rw [if_neg hconfigure] at h
    obtain ⟨_, world₂, hpolicy, hassetName⟩ := run_bind.mp h
    have htouches : Touches lib.toJsonText [placeOf nativeTokenAssetName.toConfigFieldDefinition]
        (saveToFile lib.toJsonText nativeTokenAssetName.toConfigFieldDefinition "0x") :=
      Touches.save _ _ List.mem_cons_self
    refine ⟨noPolicy, "0x", ?_, ?_⟩
    · rw [(htouches.keeps _ rfl).of_run hassetName]
      exact stored_saveToFile (stringField_roundTrips _ _ _) hpolicy
    · exact stored_saveToFile (stringField_roundTrips _ _ _) hassetName

/-- Everything that `load_chain_config` reads is stored. -/
structure Written (lib : Libraries Text) (config : ChainConfig) (world : World Text) : Prop where
  cardano : ∀ write ∈ cardanoWrites lib config.cardano,
    stored lib.toJsonText write.field world = .ok (some write.value)
  genesis : stored lib.toJsonText (genesisUtxo lib.hex) world = .ok (some config.genesisUtxo)
  addresses : ∀ write ∈ addressWrites config.addresses,
    stored lib.toJsonText write.field world = .ok (some write.value)
  policy : stored lib.toJsonText nativeTokenPolicy.toConfigFieldDefinition world =
    .ok (some config.nativeTokenPolicyId)
  assetName : stored lib.toJsonText nativeTokenAssetName.toConfigFieldDefinition world =
    .ok (some config.nativeTokenAssetName)

theorem touches_setUpCardanoAddresses (genesis : UtxoId) (config : ServiceConfig) :
    Touches lib.toJsonText addressPlaces
      (setUpCardanoAddresses outside lib genesis config) := by
  refine Touches.bind (Touches.ask _) fun built => Touches.ite ?_ (Touches.fail _)
  refine Touches.bind (Touches.ask _) fun network => Touches.bind (Touches.lift _) fun data => ?_
  have haddresses := @touches_saveAll _ lib.toJsonText (addressWrites (.ofScriptsData data))
  simp only [addressWrites, saveAll, bind_pure_unit] at haddresses
  exact haddresses

/-- What `prepareNativeToken` may write. -/
def nativeTokenPlaces : List Place :=
  [placeOf nativeTokenPolicy.toConfigFieldDefinition,
    placeOf nativeTokenAssetName.toConfigFieldDefinition]

/-- Nothing but the fields of the native token is written. -/
theorem touches_prepareNativeToken :
    Touches lib.toJsonText nativeTokenPlaces (prepareNativeToken outside lib) := by
  refine Touches.bind (Touches.ask _) fun configure => Touches.ite ?_ ?_
  · refine Touches.bind (touches_promptWithDefaultFromFileAndSave _ ?_) fun _ => ?_
    · exact List.mem_cons_self
    · exact Touches.bind (touches_promptWithDefaultFromFileAndSave _
        (List.mem_cons_of_mem _ List.mem_cons_self)) fun _ => Touches.pure _
  · exact Touches.bind (Touches.save _ _ List.mem_cons_self) fun _ =>
      Touches.save _ _ (List.mem_cons_of_mem _ List.mem_cons_self)

private theorem prepareMainChainConfig_written {network : NetworkType}
    (hanswers : Answers outside lib network) {ogmiosConfig : ServiceConfig}
    {selected genesis : UtxoId}
    (hgenesis : stored lib.toJsonText (genesisUtxo lib.hex) world = .ok (some genesis)) {u : Unit}
    (h : prepareMainChainConfig outside lib ogmiosConfig selected world = (.ok u, world')) :
    ∃ config candidates, Written lib config world' ∧
      stored lib.toJsonText initialPermissionedCandidates world = .ok candidates ∧
      stored lib.toJsonText initialPermissionedCandidates world' =
        .ok (some (candidates.getD [])) ∧
      config.genesisUtxo = genesis ∧ config.cardano.network = network ∧
      (∃ eras shelley, caradanoParameters eras shelley = .ok config.cardano) ∧
      contractAddresses lib selected network = .ok config.addresses := by
  obtain ⟨params, world₁, hparams, h⟩ := run_bind.mp h
  obtain ⟨_, world₂, hsaved, h⟩ := run_bind.mp h
  obtain ⟨_, world₃, hset, h⟩ := run_bind.mp h
  obtain ⟨_, world₄, hcandidates, hnative⟩ := run_bind.mp h
  obtain ⟨hnetwork, hcoeff, heras⟩ := prepareCardanoParams_eq_ok hanswers hparams
  obtain ⟨addresses, haddresses, world₅, hfiles, hwrites⟩ :=
    setUpCardanoAddresses_eq_ok hanswers hset
  obtain ⟨policy, assetName, hpolicy, hassetName⟩ := prepareNativeToken_eq_ok hnative
  rw [save_eq_saveAll] at hsaved
  have hcandidates' : Touches lib.toJsonText [placeOf initialPermissionedCandidates]
      (saveIfMissing lib initialPermissionedCandidates []) :=
    touches_saveIfMissing _ _ List.mem_cons_self
  have hset' := @touches_setUpCardanoAddresses _ _ outside lib selected ogmiosConfig
  have hnative' := @touches_prepareNativeToken _ _ outside lib
  obtain ⟨candidates, hbefore, hafter⟩ := stored_saveIfMissing
    (initialPermissionedCandidates_roundTrips _) hcandidates
  rw [(hset'.keeps _ rfl).of_run hset, ((touches_saveAll _).keeps _ rfl).of_run hsaved,
    ((touches_prepareCardanoParams _ : Touches _ [] _).keeps _ rfl).of_run hparams] at hbefore
  rw [← (hnative'.keeps _ rfl).of_run hnative] at hafter
  refine ⟨⟨params, genesis, addresses, policy, assetName⟩, candidates,
    ⟨?_, ?_, ?_, hpolicy, hassetName⟩, hbefore, hafter, rfl, hnetwork, heras, haddresses⟩
  · have hcardano := stored_saveAll rfl (cardanoWrites_roundTrip hcoeff) hsaved
    exact hnative'.stored rfl hnative
      (hcandidates'.stored rfl hcandidates (hset'.stored rfl hset hcardano))
  · rw [(hnative'.keeps _ rfl).of_run hnative, (hcandidates'.keeps _ rfl).of_run hcandidates,
      (hset'.keeps _ rfl).of_run hset, ((touches_saveAll _).keeps _ rfl).of_run hsaved,
      ((touches_prepareCardanoParams _ : Touches _ [] _).keeps _ rfl).of_run hparams]
    exact hgenesis
  · have haddress := stored_saveAll rfl (addressWrites_roundTrip addresses) hwrites
    exact hnative'.stored rfl hnative (hcandidates'.stored rfl hcandidates haddress)

/-- All fields are in the one JSON value of the file. -/
theorem extract_of_stored {T : Type} {field : ConfigFieldDefinition T} {value : T} {content : Text}
    {json : JValue} (hfile : field.configFile = chainConfigFilePath)
    (hcontent : world.files chainConfigFilePath = .content content)
    (hjson : lib.fromStr content = some json)
    (h : stored lib.toJsonText field world = .ok (some value)) :
    extractFromJsonObject field json = some value := by
  obtain ⟨root, hroot, h⟩ := bind_eq_ok.mp h
  rw [loadFile, hfile, hcontent] at hroot
  dsimp only at hroot
  rw [hjson] at hroot
  obtain rfl := Except.ok.inj hroot
  exact Except.ok.inj h

private theorem exists_content {T : Type} {field : ConfigFieldDefinition T} {value : T}
    (h : stored lib.toJsonText field world = .ok (some value)) :
    ∃ content json, world.files field.configFile = .content content ∧
      lib.fromStr content = some json := by
  obtain ⟨root, hroot, h⟩ := bind_eq_ok.mp h
  unfold loadFile at hroot
  split at hroot
  next =>
    obtain rfl := Except.ok.inj hroot
    cases h
  next => cases hroot
  next content hcontent =>
    cases hjson : lib.fromStr content with
    | none =>
        rw [hjson] at hroot
        cases hroot
    | some json => exact ⟨content, json, hcontent, hjson⟩

private theorem loadChainConfig_of_written {config : ChainConfig} (h : Written lib config world) :
    loadChainConfig lib world = (.ok config, world) := by
  obtain ⟨content, json, hcontent, hjson⟩ :
      ∃ content json, world.files chainConfigFilePath = .content content ∧
        lib.fromStr content = some json := exists_content h.genesis
  have hextract {T : Type} (field : ConfigFieldDefinition T) (value : T)
      (hfile : field.configFile = chainConfigFilePath)
      (hstored : stored lib.toJsonText field world = .ok (some value)) :
      extractFromJsonObject field json = some value :=
    extract_of_stored hfile hcontent hjson hstored
  have hcardano := h.cardano
  have haddresses := h.addresses
  simp only [cardanoWrites, addressWrites, List.forall_mem_cons] at hcardano haddresses
  obtain ⟨h₁, h₂, h₃, h₄, h₅, h₆, h₇, -⟩ := hcardano
  obtain ⟨h₈, h₉, h₁₀, h₁₁, -⟩ := haddresses
  have hconfig : chainConfigFromValue lib json = some config := by
    simp only [chainConfigFromValue, cardanoParametersFromValue, hextract _ _ rfl h₁,
      hextract _ _ rfl h₂, hextract _ _ rfl h₃, hextract _ _ rfl h₄, hextract _ _ rfl h₅,
      hextract _ _ rfl h₆, hextract _ _ rfl h₇, hextract _ _ rfl h₈, hextract _ _ rfl h₉,
      hextract _ _ rfl h₁₀, hextract _ _ rfl h₁₁, hextract _ _ rfl h.genesis,
      hextract _ _ rfl h.policy, hextract _ _ rfl h.assetName, Option.bind_eq_bind,
      Option.bind_some]
  refine run_bind.mpr ⟨some content, world, ?_, run_bind.mpr ⟨content, world, ?_, ?_⟩⟩
  · exact run_attempt.mpr ⟨by rw [hcontent], rfl⟩
  · exact run_lift.mpr ⟨rfl, rfl⟩
  · refine run_lift.mpr ⟨okOr_eq_ok.mpr ?_, rfl⟩
    rw [hjson]
    exact hconfig

private theorem loadConfigField_of_stored {T : Type} {field : ConfigFieldDefinition T} {value : T}
    (h : stored lib.toJsonText field world = .ok (some value)) :
    loadConfigField lib field world = (.ok value, world) :=
  run_bind.mpr ⟨some value, world, loadFromFile_eq_ok.mpr ⟨h, rfl⟩, run_lift.mpr ⟨rfl, rfl⟩⟩

/-- Only the initial candidates can be unreadable. -/
theorem createChainSpecConfig_load_of_written {config : ChainConfig}
    {candidates : List PermissionedCandidateKeys} (h : Written lib config world)
    (hcandidates : stored lib.toJsonText initialPermissionedCandidates world =
      .ok (some candidates)) :
    CreateChainSpecConfig.load lib world =
      ((candidates.mapM (ParsedPermissionedCandidatesKeys.tryFrom lib)).map
        (config.forChainSpec candidates), world) := by
  have haddresses := h.addresses
  simp only [addressWrites, List.forall_mem_cons] at haddresses
  obtain ⟨hcommittee, hdParameter, hpermissioned, hilliquid, -⟩ := haddresses
  rw [CreateChainSpecConfig.load, bind_of_ok (loadConfigField_of_stored hcandidates)]
  cases hparsed : candidates.mapM (ParsedPermissionedCandidatesKeys.tryFrom lib) with
  | error e => exact bind_of_error rfl
  | ok parsed =>
      rw [bind_of_ok (run_lift.mpr ⟨rfl, rfl⟩),
        bind_of_ok (loadConfigField_of_stored h.genesis),
        bind_of_ok (loadConfigField_of_stored hcommittee),
        bind_of_ok (loadConfigField_of_stored hdParameter),
        bind_of_ok (loadConfigField_of_stored hpermissioned),
        bind_of_ok (loadConfigField_of_stored h.policy),
        bind_of_ok (loadConfigField_of_stored h.assetName),
        bind_of_ok (loadConfigField_of_stored hilliquid)]
      rfl

/-- The UTXO that `prepare_chain_params` returns in the run of the wizard that
starts in this world. -/
def SelectedInRun (outside : Outside CborBytes) (lib : Libraries Text) (world : World Text)
    (selected : UtxoId) : Prop :=
  ∃ world₁ world₂ ogmiosConfig, establishBootnodes outside lib world = (.ok (), world₁) ∧
    prepareChainParams outside lib world₁ = (.ok (selected, ogmiosConfig), world₂) ∧
    Selected outside world₂.requests selected

/-- After a successful run the chain config can be loaded.  Its addresses are
those of the UTXO selected in the run, and they belong to the genesis UTXO of the
config unless another one was there before.  Create-chain-spec reads the same, if
the initial candidates parse that were there before. -/
theorem prepareConfiguration_consistent_iff {network : NetworkType}
    (hanswers : Answers outside lib network) {u : Unit}
    (h : prepareConfiguration outside lib world = (.ok u, world')) :
    ∃ previous candidates selected config,
      stored lib.toJsonText (genesisUtxo lib.hex) world = .ok previous ∧
      stored lib.toJsonText initialPermissionedCandidates world = .ok candidates ∧
      SelectedInRun outside lib world selected ∧
      loadChainConfig lib world' = (.ok config, world') ∧
      CreateChainSpecConfig.load lib world' =
        (((candidates.getD []).mapM (ParsedPermissionedCandidatesKeys.tryFrom lib)).map
          (config.forChainSpec (candidates.getD [])), world') ∧
      config.genesisUtxo = previous.getD selected ∧
      config.cardano.network = network ∧
      (∃ eras shelley, caradanoParameters eras shelley = .ok config.cardano) ∧
      contractAddresses lib selected network = .ok config.addresses ∧
      (config.Consistent lib ↔ ∀ earlier, previous = some earlier →
        contractAddresses lib earlier network = contractAddresses lib selected network) := by
  obtain ⟨_, world₁, hbootnodes, h⟩ := run_bind.mp h
  obtain ⟨⟨selected, ogmiosConfig⟩, world₂, hparams, h⟩ := run_bind.mp h
  obtain ⟨hselected, previous, hprevious, hgenesis⟩ := prepareChainParams_eq_ok hparams
  obtain ⟨config, candidates, hwritten, hbefore, hafter, hstored, hnetwork, heras, haddresses⟩ :=
    prepareMainChainConfig_written hanswers hgenesis h
  rw [(touches_establishBootnodes.keeps _ rfl).of_run hbootnodes] at hprevious
  rw [(touches_prepareChainParams.keeps _ rfl).of_run hparams,
    (touches_establishBootnodes.keeps _ rfl).of_run hbootnodes] at hbefore
  refine ⟨previous, candidates, selected, config, hprevious, hbefore,
    ⟨world₁, world₂, ogmiosConfig, hbootnodes, hparams, hselected⟩,
    loadChainConfig_of_written hwritten, createChainSpecConfig_load_of_written hwritten hafter,
    hstored, hnetwork, heras, haddresses, ?_⟩
  rw [ChainConfig.Consistent, hstored, hnetwork, ← haddresses]
  cases previous with
  | none => simp
  | some earlier => simp

/-! ## What the wizard leaves alone -/

/-- A field that has a value keeps it. -/
theorem maintains_saveIfMissing {T : Type} (field : ConfigFieldDefinition T) (newValue value : T) :
    Maintains (fun world => stored lib.toJsonText field world = .ok (some value))
      (saveIfMissing lib field newValue) := by
  intro world hstored
  rw [saveIfMissing, bind_of_ok (loadFromFile_eq_ok.mpr ⟨hstored, rfl⟩)]
  exact hstored

private theorem maintains_prepareChainParams (genesis : UtxoId) :
    Maintains (fun world => stored lib.toJsonText (genesisUtxo lib.hex) world =
      .ok (some genesis)) (prepareChainParams outside lib) := by
  refine Maintains.bind ((touches_promptOgmiosConfiguration _ _).maintains rfl) fun config => ?_
  refine Maintains.bind ((touches_getShelleyConfig _ : Touches _ [] _).maintains rfl)
    fun shelley => ?_
  refine Maintains.bind ((touches_deriveAddress _ List.mem_cons_self :
    Touches _ [keyFilePlace] _).maintains rfl) fun address => ?_
  refine Maintains.bind ((touches_queryUtxos _ _ : Touches _ [] _).maintains rfl) fun utxos => ?_
  refine Maintains.ite ((Touches.fail _ : Touches _ [] _).maintains rfl) ?_
  refine Maintains.bind ((touches_selectFromUtxos _ _ : Touches _ [] _).maintains rfl)
    fun selected => ?_
  exact Maintains.bind (maintains_saveIfMissing _ _ _) fun _ =>
    (Touches.pure _ : Touches _ [] _).maintains rfl

theorem touches_save (params : CardanoParameters) :
    Touches lib.toJsonText (cardanoPlaces lib) (CardanoParameters.save lib params) := by
  rw [save_eq_saveAll]
  exact touches_saveAll (cardanoWrites lib params)

private theorem maintains_prepareMainChainConfig (ogmiosConfig : ServiceConfig) (selected : UtxoId)
    (candidates : List PermissionedCandidateKeys) :
    Maintains (fun world => stored lib.toJsonText initialPermissionedCandidates world =
      .ok (some candidates)) (prepareMainChainConfig outside lib ogmiosConfig selected) := by
  refine Maintains.bind ((touches_prepareCardanoParams _ : Touches _ [] _).maintains rfl)
    fun params => ?_
  refine Maintains.bind ((touches_save params).maintains rfl) fun _ => ?_
  refine Maintains.bind ((touches_setUpCardanoAddresses _ _).maintains rfl) fun _ => ?_
  exact Maintains.bind (maintains_saveIfMissing _ _ _) fun _ =>
    touches_prepareNativeToken.maintains rfl

/-- What `prepareMainChainConfig` may write. -/
def mainChainPlaces (lib : Libraries Text) : List Place :=
  cardanoPlaces lib ++ addressPlaces ++ placeOf initialPermissionedCandidates :: nativeTokenPlaces

/-- All fields that the wizard saves. -/
def configPlaces (lib : Libraries Text) : List Place :=
  bootnodePlaces ++ chainParamsPlaces lib ++ mainChainPlaces lib

/-- Nothing but the fields of the main chain is written. -/
theorem touches_prepareMainChainConfig (ogmiosConfig : ServiceConfig) (selected : UtxoId) :
    Touches lib.toJsonText (mainChainPlaces lib)
      (prepareMainChainConfig outside lib ogmiosConfig selected) := by
  refine Touches.bind (touches_prepareCardanoParams _) fun params => ?_
  refine Touches.bind ((touches_save params).mono ?_) fun _ => ?_
  · exact List.Subset.trans (List.subset_append_left _ _) (List.subset_append_left _ _)
  refine Touches.bind ((touches_setUpCardanoAddresses _ _).mono ?_) fun _ => ?_
  · exact List.Subset.trans (List.subset_append_right _ _) (List.subset_append_left _ _)
  refine Touches.bind (touches_saveIfMissing _ _ ?_) fun _ => ?_
  · exact List.mem_append_right _ List.mem_cons_self
  exact touches_prepareNativeToken.mono
    (List.Subset.trans (List.subset_cons_self _ _) (List.subset_append_right _ _))

private theorem touches_prepareConfiguration :
    Touches lib.toJsonText (configPlaces lib) (prepareConfiguration outside lib) := by
  refine Touches.bind (touches_establishBootnodes.mono ?_) fun _ => ?_
  · exact List.Subset.trans (List.subset_append_left _ _) (List.subset_append_left _ _)
  refine Touches.bind (touches_prepareChainParams.mono ?_) fun params => ?_
  · exact List.Subset.trans (List.subset_append_right _ _) (List.subset_append_left _ _)
  exact (touches_prepareMainChainConfig _ _).mono (List.subset_append_right _ _)

/-- However a run ends: a genesis UTXO and initial candidates that are there stay,
and no field but those of the wizard changes. -/
theorem prepareConfiguration_leaves (outside : Outside CborBytes) (lib : Libraries Text)
    (world : World Text) :
    (∀ genesis, stored lib.toJsonText (genesisUtxo lib.hex) world = .ok (some genesis) →
        stored lib.toJsonText (genesisUtxo lib.hex) (prepareConfiguration outside lib world).2 =
          .ok (some genesis)) ∧
      (∀ candidates, stored lib.toJsonText initialPermissionedCandidates world =
          .ok (some candidates) →
        stored lib.toJsonText initialPermissionedCandidates
          (prepareConfiguration outside lib world).2 = .ok (some candidates)) ∧
      ∀ (T : Type) (field : ConfigFieldDefinition T),
        (∀ place ∈ configPlaces lib, Apart place (placeOf field)) →
        stored lib.toJsonText field (prepareConfiguration outside lib world).2 =
          stored lib.toJsonText field world := by
  refine ⟨fun genesis hstored => ?_, fun candidates hstored => ?_, fun T field hfield => ?_⟩
  · have hmaintains : Maintains (fun world => stored lib.toJsonText (genesisUtxo lib.hex) world =
        .ok (some genesis)) (prepareConfiguration outside lib) :=
      Maintains.bind (touches_establishBootnodes.maintains rfl) fun _ =>
        Maintains.bind (maintains_prepareChainParams genesis) fun params =>
          (touches_prepareMainChainConfig _ _).maintains rfl
    exact hmaintains world hstored
  · have hmaintains : Maintains (fun world => stored lib.toJsonText initialPermissionedCandidates
        world = .ok (some candidates)) (prepareConfiguration outside lib) :=
      Maintains.bind (touches_establishBootnodes.maintains rfl) fun _ =>
        Maintains.bind (touches_prepareChainParams.maintains rfl) fun params =>
          maintains_prepareMainChainConfig _ _ candidates
    exact hmaintains world hstored
  · exact touches_prepareConfiguration T field hfield world

end Writes

/-! ## A second run

A genesis UTXO and a candidate were configured earlier.  The user takes the
proposed values and another UTXO. -/

/-- Data is applied by appending its bytes. -/
def appendUplc : Uplc where
  Program := Bytes
  decode bytes := .ok (.bytes bytes)
  plutusData bytes := some (.bytes bytes)
  fromCbor := .ok
  applyData program data :=
    match data with
    | .bytes argument => program ++ argument
    | _ => program
  toCbor := some
  addressData _ := .ok (.bytes [])
  toBech32 _ := .ok "addr"

/-- The hash of a script is the first byte of the genesis UTXO in it. -/
def exampleLibraries : Libraries JValue where
  toJsonText := treeText
  asString json := json.asStr.getD ""
  hex := lowerHex
  f64 := ⟨fun bits => .number (.float bits), fun | .number (.float bits) => some bits | _ => none⟩
  peerId _ := some "peer"
  blake2b bytes := FixedBytes.replicate 28 (bytes.getD 10 0)
  uplc := appendUplc
  rawScripts := InitGovernance.exampleRawScripts

/-- The one output of the user. -/
def exampleUtxo : OgmiosUtxo Unit :=
  ⟨⟨FixedBytes.replicate 32 1, 0⟩, keyHashAddress (FixedBytes.replicate 28 0) .testnet,
    ⟨5, []⟩, none⟩

/-- A user who accepts every default. -/
def exampleOutside : Outside Unit where
  prompt _ _ default := default.getD "policy"
  promptYesNo _ _ default := default
  promptMultiOption _ prompt _ :=
    if prompt = "Ogmios protocol (http/https)" then "http"
    else if prompt = "Your bootnode should be accessible via:" then "hostname"
    else (ValidUtxo.mk exampleUtxo.utxoId 5).toDisplayString
  ogmiosRpc _ _ request :=
    match request with
    | .queryLedgerStateEraSummaries => .ok (.queryLedgerStateEraSummaries preprodEras)
    | .queryNetworkShelleyGenesis => .ok (.queryNetworkShelleyGenesis preprodGenesis)
    | .queryUtxo _ => .ok (.queryUtxo [exampleUtxo])
  offchainImpl _ _ := true
  shelleyNetwork _ _ := .ok .testnet

/-- A network key and a payment key, and no configuration. -/
def exampleWorld : World JValue where
  files path :=
    if path = "./data/chains/partner_chains_template/network/secret_ed25519" then
      .content (.string "00")
    else if path = "payment.vkey" then
      .content (.object [.mk "cborHex"
        (.string (String.ofList ("5820".toList ++ hexEncode (List.replicate 32 0))))])
    else .missing
  requests := 0

theorem filterUtxos_example : filterUtxos [exampleUtxo] = [⟨exampleUtxo.utxoId, 5⟩] := by
  simp [filterUtxos, sortByKey, exampleUtxo]

/-- The genesis UTXO of an earlier run. -/
def earlierUtxo : UtxoId := ⟨FixedBytes.replicate 32 2, 0⟩

/-- The keys of a permissioned candidate. -/
def exampleParsed : ParsedPermissionedCandidatesKeys :=
  ⟨FixedBytes.replicate 33 2, FixedBytes.replicate 32 3, FixedBytes.replicate 32 4⟩

/-- `exampleParsed` as the configuration has them. -/
def exampleCandidate : PermissionedCandidateKeys where
  sidechainPubKey := String.ofList (hexEncode exampleParsed.sidechain.bytes)
  auraPubKey := String.ofList (hexEncode exampleParsed.aura.bytes)
  grandpaPubKey := String.ofList (hexEncode exampleParsed.grandpa.bytes)

/-- The files after an earlier run. -/
def configuredWorld : World JValue :=
  (saveAll treeText [⟨genesisUtxo lowerHex, earlierUtxo⟩,
    ⟨initialPermissionedCandidates, [exampleCandidate]⟩] exampleWorld).2

theorem configuredWorld_stored :
    stored treeText (genesisUtxo lowerHex) configuredWorld = .ok (some earlierUtxo) ∧
      stored treeText initialPermissionedCandidates configuredWorld =
        .ok (some [exampleCandidate]) := by
  have hsaved : saveAll treeText [⟨genesisUtxo lowerHex, earlierUtxo⟩,
      ⟨initialPermissionedCandidates, [exampleCandidate]⟩] exampleWorld =
        (.ok (), configuredWorld) := rfl
  have hvalues : ∀ write ∈ ([⟨genesisUtxo lowerHex, earlierUtxo⟩,
      ⟨initialPermissionedCandidates, [exampleCandidate]⟩] : List Write),
      RoundTrips write.field write.value := by
    simp only [List.forall_mem_cons]
    exact ⟨genesisUtxo_roundTrips lowerHex (by decide), initialPermissionedCandidates_roundTrips _,
      fun _ h => absurd h List.not_mem_nil⟩
  have hstored := stored_saveAll rfl hvalues hsaved
  simp only [List.forall_mem_cons] at hstored
  exact ⟨hstored.1, hstored.2.1⟩

private theorem tryFrom_exampleCandidate :
    ParsedPermissionedCandidatesKeys.tryFrom exampleLibraries exampleCandidate =
      .ok exampleParsed := by
  have hkey {n : Nat} (key : FixedBytes n) :
      parsePublicKey exampleLibraries n (String.ofList (hexEncode key.bytes)) = some key := by
    simp [parsePublicKey, exampleLibraries, lowerHex.fromHex_hexEncode]
  simp only [ParsedPermissionedCandidatesKeys.tryFrom, exampleCandidate, parseEcdsa, parseSr25519,
    parseEd25519, hkey]
  rfl

private theorem prepareConfiguration_example :
    ∃ world', prepareConfiguration exampleOutside exampleLibraries configuredWorld =
      (.ok (), world') := by
  refine ⟨?_, run_bind.mpr ⟨(), _, rfl, run_bind.mpr
    ⟨(exampleUtxo.utxoId, ⟨.http, "localhost", 1337⟩), ?_, run_bind.mpr ⟨_, _, rfl, run_bind.mpr
      ⟨_, _, rfl, run_bind.mpr ⟨_, _, rfl, run_bind.mpr ⟨[exampleUtxo], _, rfl, ?_⟩⟩⟩⟩, ?_⟩⟩⟩
  rotate_left 2
  · -- the sorted list is not computed by unfolding
    rw [filterUtxos_example]
    rfl
  · rfl

private theorem answers_example : Answers exampleOutside exampleLibraries .testnet where
  shelley h := by
    cases h
    exact ⟨rfl, _, rfl, rfl⟩
  client h := by
    cases h
    rfl

private theorem selected_example {world : World JValue} {selected : UtxoId}
    (h : SelectedInRun exampleOutside exampleLibraries world selected) :
    selected = exampleUtxo.utxoId := by
  obtain ⟨_, _, _, -, -, n, addr, address, utxos, -, hutxos, utxo, hutxo, rfl, -⟩ := h
  cases hutxos
  rw [List.mem_singleton.mp hutxo]

/-- The config has the earlier genesis UTXO and the addresses of the other one. -/
theorem prepareConfiguration_consistent_example :
    ∃ world' config, prepareConfiguration exampleOutside exampleLibraries configuredWorld =
        (.ok (), world') ∧
      loadChainConfig exampleLibraries world' = (.ok config, world') ∧
      CreateChainSpecConfig.load exampleLibraries world' =
        (.ok (config.forChainSpec [exampleCandidate] [exampleParsed]), world') ∧
      config.genesisUtxo = earlierUtxo ∧ ¬ config.Consistent exampleLibraries := by
  obtain ⟨world', h⟩ := prepareConfiguration_example
  obtain ⟨previous, candidates, selected, config, hprevious, hcandidates, hselected, hload, hspec,
    hgenesis, -, -, -, hiff⟩ := prepareConfiguration_consistent_iff answers_example h
  obtain rfl := Except.ok.inj (configuredWorld_stored.1.symm.trans hprevious)
  obtain rfl := Except.ok.inj (configuredWorld_stored.2.symm.trans hcandidates)
  obtain rfl := selected_example hselected
  refine ⟨world', config, h, hload, ?_, hgenesis, fun hconsistent => ?_⟩
  · rw [hspec]
    simp only [Option.getD_some, List.mapM_cons, List.mapM_nil, tryFrom_exampleCandidate]
    rfl
  · have haddresses := hiff.mp hconsistent earlierUtxo rfl
    exact absurd haddresses (by decide)

/-- A second run leaves the genesis and the candidates of the first one. -/
theorem prepareConfiguration_leaves_example :
    stored treeText (genesisUtxo lowerHex)
        (prepareConfiguration exampleOutside exampleLibraries configuredWorld).2 =
          .ok (some earlierUtxo) ∧
      stored treeText initialPermissionedCandidates
        (prepareConfiguration exampleOutside exampleLibraries configuredWorld).2 =
          .ok (some [exampleCandidate]) := by
  obtain ⟨hgenesis, hcandidates, -⟩ :=
    prepareConfiguration_leaves exampleOutside exampleLibraries configuredWorld
  exact ⟨hgenesis _ configuredWorld_stored.1, hcandidates _ configuredWorld_stored.2⟩

end PartnerChains.Ports.PrepareConfiguration
