import Mathlib.Data.List.DropRight
import PartnerChains.Ports.CandidateFilter
import PartnerChains.Ports.GenerateKeys

/-!
# Registering a candidate

The port of `register1`, `register2` and `register3`, with the messages and
signatures of `cli_commands`.  A candidate registers in three steps on up to three
machines.  The first one signs with the cross-chain key of the keystore, the second
one with the cold key of the stake pool, and the third one submits both signatures.
What a step has to tell the next one it prints as the command to run, so everything
goes through text.

`registration_valid` joins the ends: when the file with the keys agrees with the
keystore, what the third step submits passes the check that the chain makes of a
registration, and the candidate has the keys of the keystore.
-/

namespace PartnerChains.Ports.Registration

open PartnerChains.Ports.CandidateFilter
open PartnerChains.Ports.CardanoEras (NetworkType)
open PartnerChains.Ports.ConfigFields
open PartnerChains.Ports.Domain
open PartnerChains.Ports.GenerateKeys
open PartnerChains.Ports.PlutusDatum
open PartnerChains.Ports.PrepareConfiguration
open PartnerChains.Ports.SerdeJson
open PartnerChains.Ports.UtxoText
open PartnerChains.Ports.WizardConfig
open PartnerChains.Ports.WizardIo
open PartnerChains.Verified.Fallible
open PartnerChains.Verified.Interactive

variable {Text CborBytes T : Type}

/-! ## Messages and signatures -/

/-- `RegisterValidatorMessage`, which the node and the contracts both build. -/
structure RegisterValidatorMessage where
  genesisUtxo : UtxoId
  sidechainPubKey : Bytes
  inputUtxo : UtxoId

/-- `ToDatum` of `RegisterValidatorMessage`. -/
def RegisterValidatorMessage.toDatum (message : RegisterValidatorMessage) : Datum :=
  .constructorDatum 0
    [utxoIdToDatum message.genesisUtxo, .byteStringDatum message.sidechainPubKey,
      utxoIdToDatum message.inputUtxo]

/-- The libraries that sign: `sp_core`, `secp256k1` and `ed25519_zebra`. -/
structure Signing where
  /-- The seed of `ecdsa::Pair::from_string`. -/
  pairFromString : UtxoText.Text → Except String (FixedBytes 32)
  /-- `SecretKey::from_slice`. -/
  secretKeyFromSlice : FixedBytes 32 → Except String Unit
  /-- `PublicKey::from_secret_key_global`. -/
  publicKey : FixedBytes 32 → FixedBytes 33
  /-- `PublicKey::from_str`. -/
  publicKeyFromStr : UtxoText.Text → Option (FixedBytes 33)
  signEcdsa : FixedBytes 32 → FixedBytes 32 → FixedBytes 64
  blake2b256 : Bytes → FixedBytes 32
  /-- `VerificationKey::from`. -/
  verificationKey : FixedBytes 32 → FixedBytes 32
  signEd25519 : FixedBytes 32 → Bytes → FixedBytes 64
  /-- `sp_core::bytes::from_hex`. -/
  fromHex : UtxoText.Text → Except String Bytes

section Signatures

variable (signing : Signing)

/-- The hash of the encoded message, which ECDSA signs. -/
def hash (message : RegisterValidatorMessage) : FixedBytes 32 :=
  signing.blake2b256 (encodeDatum message.toDatum)

/-- `sc_public_key_and_signature`, of a message that is hashed already. -/
def scPublicKeyAndSignature (key hashed : FixedBytes 32) : FixedBytes 33 × FixedBytes 64 :=
  (signing.publicKey key, signing.signEcdsa key hashed)

/-- `sc_public_key_and_signature_for_datum`, which hashes the message first. -/
def scPublicKeyAndSignatureForDatum (key : FixedBytes 32) (message : RegisterValidatorMessage) :
    FixedBytes 33 × FixedBytes 64 :=
  scPublicKeyAndSignature signing key (hash signing message)

/-- `mainchain_public_key_and_signature`, which signs the message and not its
hash. -/
def mainchainPublicKeyAndSignature (key : FixedBytes 32) (message : RegisterValidatorMessage) :
    FixedBytes 32 × FixedBytes 64 :=
  (signing.verificationKey key, signing.signEd25519 key (encodeDatum message.toDatum))

end Signatures

/-! ## Texts -/

/-- Bytes in lower case hexadecimal. -/
def hexText (bytes : Bytes) : String := String.ofList (hexEncode bytes)

/-- `0x` and the digits. -/
def prefixedHex (bytes : Bytes) : String := String.ofList ('0' :: 'x' :: hexEncode bytes)

/-- `replace("0x", "")`. -/
def replace0x : UtxoText.Text → UtxoText.Text
  | '0' :: 'x' :: rest => replace0x rest
  | c :: rest => c :: replace0x rest
  | [] => []

/-- `trim_start_matches("0x")`. -/
def trimStart0x : UtxoText.Text → UtxoText.Text
  | '0' :: 'x' :: rest => trimStart0x rest
  | text => text

/-- The character around a secret phrase in its file. -/
def quote : Char := '\x22'

/-- `trim_matches` with a quote. -/
def trimQuotes (text : UtxoText.Text) : UtxoText.Text :=
  (text.dropWhile (· = quote)).rdropWhile (· = quote)

/-! ## The first step -/

/-- The arguments of the second step, as they are printed. -/
structure Register2Args where
  genesisUtxo : String
  registrationUtxo : String
  auraPubKey : String
  grandpaPubKey : String
  sidechainPubKey : String
  sidechainSignature : String

section Register1

variable (node : Node CborBytes Text) (lib : Libraries Text) (signing : Signing)

/-- `load_chain_config_field`: the error names the path of the field. -/
def loadChainConfigField (field : ConfigFieldDefinition T) : Wizard Text T :=
  loadOrFail lib field ("failed to read " ++ ".".intercalate field.path)

/-- The UTXO that the registration will spend. -/
def selectRegistrationUtxo (cardanoNetwork : NetworkType) : Wizard Text UtxoId := do
  let address ← deriveAddress node.toOutside lib cardanoNetwork
  let ogmiosConfiguration ← promptOgmiosConfiguration node.toOutside lib.toJsonText
  let utxos ← queryUtxos node.toOutside ogmiosConfiguration address
  let validUtxos := filterUtxos utxos
  if validUtxos.isEmpty then
    fail (.error "No UTXOs found")
  else
    selectFromUtxos node.toOutside lib "Select UTXO to use for registration" validUtxos

/-- The seed of the pair. -/
def getEcdsaPairFromFile (keystorePath sidechainPubKey : String) :
    KeyWizard Text (FixedBytes 32) := do
  let seedPhraseFileName := crossChain.keyTypeHex ++ replace0x sidechainPubKey.toList
  let file ← attempt fun machine =>
    okOr ((machine.keystores keystorePath).find? fun file => file.name = seedPhraseFileName)
      (.error "seed phrase file not found")
  lift ((signing.pairFromString (trimQuotes (lib.asString file.content).toList)).mapError .error)

/-- `sign_registration_message_with_sidechain_key`: the signature in hexadecimal. -/
def signRegistrationMessageWithSidechainKey (message : RegisterValidatorMessage)
    (seed : FixedBytes 32) : Except Failure String := do
  (signing.secretKeyFromSlice seed).mapError .error
  .ok (hexText (scPublicKeyAndSignatureForDatum signing seed message).2.bytes)

/-- `Register1Cmd::run`.  A keys file that does not parse is not told from one that
is not there. -/
def register1 : KeyWizard Text Register2Args := do
  let genesis ← onWorld (loadChainConfigField lib (genesisUtxo lib.hex))
  let network ← onWorld (loadOrFail lib cardanoNetwork "failed to read cardano network")
  let basePath ← onWorld (loadOrFail lib substrateNodeDataBasePath.toConfigFieldDefinition
    "⚠️ Keystore not found. Please run the `generate-keys` command first")
  let keys ← attempt fun machine =>
    okOr (readGeneratedKeys lib machine.world.files) (.error "failed to read keys file")
  let inputUtxo ← onWorld (selectRegistrationUtxo node lib network)
  let sidechainPubKey ← lift ((signing.fromHex keys.sidechainPubKey.toList).mapError .error)
  let seed ← getEcdsaPairFromFile lib signing (keystorePath basePath defaultChainName)
    keys.sidechainPubKey
  let sidechainSignature ← lift
    (signRegistrationMessageWithSidechainKey signing ⟨genesis, sidechainPubKey, inputUtxo⟩ seed)
  pure ⟨utxoIdToString genesis, utxoIdToString inputUtxo, keys.auraPubKey, keys.grandpaPubKey,
    keys.sidechainPubKey, sidechainSignature⟩

end Register1

/-! ## The second step -/

/-- The arguments after parsing. -/
structure Register2Cmd where
  genesisUtxo : UtxoId
  registrationUtxo : UtxoId
  sidechainPubKey : FixedBytes 33
  auraPubKey : String
  grandpaPubKey : String
  sidechainSignature : String

/-- The arguments of the third step, as they are printed. -/
structure Register3Args extends Register2Args where
  spoPublicKey : String
  spoSignature : String

section Register2

variable (outside : Outside CborBytes) (lib : Libraries Text) (signing : Signing)

/-- `FromStr` of `SidechainPublicKeyParam`. -/
def sidechainPublicKeyParamFromStr (s : String) : Option (FixedBytes 33) :=
  signing.publicKeyFromStr (trimStart0x s.toList)

/-- The arguments of the second step as the command line parser reads them. -/
def Register2Args.parse (args : Register2Args) : Option Register2Cmd := do
  let genesisUtxo ← (utxoIdFromStr lib.hex args.genesisUtxo.toList).toOption
  let registrationUtxo ← (utxoIdFromStr lib.hex args.registrationUtxo.toList).toOption
  let sidechainPubKey ← sidechainPublicKeyParamFromStr signing args.sidechainPubKey
  some ⟨genesisUtxo, registrationUtxo, sidechainPubKey, args.auraPubKey, args.grandpaPubKey,
    args.sidechainSignature⟩

/-- The arguments as they are printed again. -/
def Register2Cmd.toArgs (cmd : Register2Cmd) : Register2Args :=
  ⟨utxoIdToString cmd.genesisUtxo, utxoIdToString cmd.registrationUtxo, cmd.auraPubKey,
    cmd.grandpaPubKey, prefixedHex cmd.sidechainPubKey.bytes, cmd.sidechainSignature⟩

/-- `Register2Cmd::run`. -/
def register2 (cmd : Register2Cmd) : Wizard Text Register3Args := do
  let mainchainSigningKeyPath ← ask fun n =>
    outside.prompt n "Path to mainchain signing key file" (some "cold.skey")
  let mainchainSigningKey ← getKeyBytesFromFile lib mainchainSigningKeyPath
  let signed := mainchainPublicKeyAndSignature signing mainchainSigningKey
    ⟨cmd.genesisUtxo, cmd.sidechainPubKey.bytes, cmd.registrationUtxo⟩
  pure ⟨cmd.toArgs, hexText signed.1.bytes, hexText signed.2.bytes⟩

end Register2

/-! ## The third step -/

/-- The arguments of the third step. -/
structure Register3Cmd extends Register2Cmd where
  spoPublicKey : String
  spoSignature : String

def kupoProtocol : PromptField NetworkProtocol :=
  protocolPrompt ["kupo", "protocol"] "Kupo protocol (http/https)" "http"

def kupoHostname : PromptField String :=
  stringPrompt resourcesConfigFilePath ["kupo", "hostname"] "Kupo hostname" (some "localhost")

def kupoPort : PromptField UInt16 := u16Prompt ["kupo", "port"] "Kupo port" "1442"

/-- The services `pc-contracts-cli` connects to. -/
structure PcContractsCliResources where
  kupo : ServiceConfig
  ogmios : ServiceConfig

/-- What `pc-contracts-cli register` is run with. -/
structure RegisterCommand where
  network : NetworkType
  args : Register3Args
  resources : PcContractsCliResources
  paymentSigningKeyPath : String

/-- The arguments that say where a service is. -/
def serviceArguments (name : String) (config : ServiceConfig) : String :=
  "--" ++ name ++ "-host " ++ config.hostname ++ " --" ++ name ++ "-port " ++
    String.ofList (Nat.toDigits 10 config.port.toNat) ++ " " ++
    (if config.protocol = .https then "--" ++ name ++ "-secure" else "")

/-- `runtime_config_arguments`: Kupo, Ogmios and the key that pays. -/
def runtimeConfigArguments (resources : PcContractsCliResources)
    (paymentSigningKeyPath : String) : String :=
  serviceArguments "kupo" resources.kupo ++ " " ++ serviceArguments "ogmios" resources.ogmios ++
    " --payment-signing-key-file " ++ paymentSigningKeyPath

/-- The command line of `pc-contracts-cli register`. -/
def RegisterCommand.toString (command : RegisterCommand) : String :=
  "./pc-contracts-cli register --network " ++ NetworkType.toString command.network ++
    " --genesis-utxo " ++ command.args.genesisUtxo ++
    " --registration-utxo " ++ command.args.registrationUtxo ++
    " --sidechain-public-keys " ++ command.args.sidechainPubKey ++ ":" ++
      command.args.auraPubKey ++ ":" ++ command.args.grandpaPubKey ++
    " --sidechain-signature " ++ command.args.sidechainSignature ++
    " --spo-public-key " ++ command.args.spoPublicKey ++
    " --spo-signature " ++ command.args.spoSignature ++ " --ada-based-staking " ++
    runtimeConfigArguments command.resources command.paymentSigningKeyPath

section Register3

variable (outside : Outside CborBytes) (lib : Libraries Text) (signing : Signing)
  (pcContractsCli : Nat → String → Except String Unit)

/-- The arguments of the third step as the command line parser reads them. -/
def Register3Args.parse (args : Register3Args) : Option Register3Cmd := do
  let cmd ← args.toRegister2Args.parse lib signing
  some ⟨cmd, args.spoPublicKey, args.spoSignature⟩

/-- `establish_pc_contracts_cli_configuration`: asks for Kupo, then for Ogmios. -/
def establishPcContractsCliConfiguration : Wizard Text PcContractsCliResources := do
  let protocol ← selectOptionsWithDefaultFromFileAndSave outside lib.toJsonText kupoProtocol
    NetworkProtocol.selectOptions kupoProtocol.name
  let hostname ← promptWithDefaultFromFileAndSave outside lib.toJsonText kupoHostname
  let port ← promptWithDefaultFromFileParseAndSave outside lib.toJsonText kupoPort
  let ogmios ← promptOgmiosConfiguration outside lib.toJsonText
  pure ⟨⟨protocol, hostname, port⟩, ogmios⟩

/-- `get_cardano_network_from_file`: only `prepare-main-chain-config` writes it. -/
def getCardanoNetworkFromFile : Wizard Text NetworkType :=
  loadOrFail lib cardanoNetwork
    "Cardano network not configured. Please run prepare-main-chain-config command first."

/-- `Register3Cmd::run` up to the registration status, which it shows on request.
The genesis UTXO of the chain configuration has to be there and is not used. -/
def register3 (cmd : Register3Cmd) : Wizard Text RegisterCommand := do
  let _ ← loadOrFail lib (genesisUtxo lib.hex) "Chain config missing or invalid"
  let paymentSigningKeyPath ← ask fun n =>
    outside.prompt n "Path to mainchain payment signing key file" (some "payment.skey")
  let resources ← establishPcContractsCliConfiguration outside lib
  let network ← getCardanoNetworkFromFile lib
  let command : RegisterCommand :=
    ⟨network, ⟨cmd.toArgs, cmd.spoPublicKey, cmd.spoSignature⟩, resources, paymentSigningKeyPath⟩
  let n ← ask id
  lift ((pcContractsCli n command.toString).mapError fun _ =>
    .error "The registration transaction could not be submitted")
  pure command

end Register3

/-! ## The texts are read back -/

theorem x_not_mem_hexEncode (bytes : Bytes) : 'x' ∉ hexEncode bytes :=
  not_mem_hexEncode (by decide) bytes

private theorem replace0x_of_not_mem {text : UtxoText.Text} (h : 'x' ∉ text) :
    replace0x text = text := by
  fun_induction replace0x text with
  | case1 rest ih => simp at h
  | case2 c rest hne ih => rw [ih fun hmem => h (List.mem_cons_of_mem _ hmem)]
  | case3 => rfl

theorem trimStart0x_of_not_mem {text : UtxoText.Text} (h : 'x' ∉ text) :
    trimStart0x text = text := by
  fun_cases trimStart0x text with
  | case1 rest => simp at h
  | case2 hne => rfl

private theorem replace0x_prefixedHex (bytes : Bytes) :
    replace0x (prefixedHex bytes).toList = hexEncode bytes := by
  rw [prefixedHex, String.toList_ofList, replace0x]
  exact replace0x_of_not_mem (x_not_mem_hexEncode bytes)

/-- Hexadecimal digits contain no further 0x that would be trimmed. -/
theorem trimStart0x_prefixedHex (bytes : Bytes) :
    trimStart0x (prefixedHex bytes).toList = hexEncode bytes := by
  rw [prefixedHex, String.toList_ofList, trimStart0x]
  exact trimStart0x_of_not_mem (x_not_mem_hexEncode bytes)

/-- The quotes around a text without quotes. -/
theorem trimQuotes_quoted {text : UtxoText.Text} (h : quote ∉ text) :
    trimQuotes (quote :: (text ++ [quote])) = text := by
  have hleft : (quote :: (text ++ [quote])).dropWhile (· = quote) =
      if text = [] then [] else text ++ [quote] := by
    cases text with
    | nil => simp
    | cons c text =>
        have hc : c ≠ quote := fun hc => h (hc ▸ List.mem_cons_self)
        simp [hc]
  rw [trimQuotes, hleft]
  by_cases htext : text = []
  · simp [htext]
  · rw [if_neg htext, List.rdropWhile_concat_pos _ _ _ (by simp)]
    refine List.rdropWhile_eq_self_iff.mpr fun hne => ?_
    simp only [decide_eq_true_eq]
    exact fun hlast => h (hlast ▸ List.getLast_mem hne)

/-! ## Laws of the libraries -/

/-- A secret phrase that is generated has words of small letters. -/
def Mnemonic (phrase : String) : Prop := ∀ c ∈ phrase.toList, c.isLower = true ∨ c = '\x20'

/-- What the documentation of the libraries says: the node and the wizard make the
same key out of a phrase, keys are read back from hexadecimal text, and what is
signed with a secret key verifies with its public key. -/
structure Laws (node : Node CborBytes Text) (lib : Libraries Text) (signing : Signing)
    (verification : SignatureVerification) : Prop where
  publicKey : ∀ {phrase : String} {seed : FixedBytes 32},
    signing.pairFromString phrase.toList = .ok seed →
      node.publicKey crossChain.scheme phrase = (signing.publicKey seed).bytes
  aura : ∀ phrase, (node.publicKey aura.scheme phrase).length = 32
  grandpa : ∀ phrase, (node.publicKey grandpa.scheme phrase).length = 32
  /-- The content of a key file is a JSON string. -/
  seed : ∀ phrase, Mnemonic phrase →
    (lib.asString (node.seed phrase)).toList = quote :: (phrase.toList ++ [quote])
  publicKeyFromStr : ∀ seed, signing.publicKeyFromStr (hexEncode (signing.publicKey seed).bytes) =
    some (signing.publicKey seed)
  fromHex : ∀ bytes, signing.fromHex (hexEncode bytes) = .ok bytes
  fromPrefixedHex : ∀ bytes, signing.fromHex (prefixedHex bytes).toList = .ok bytes
  /-- The last byte of the signature is one of the two that are tried. -/
  ecdsa : ∀ seed message, signing.secretKeyFromSlice seed = .ok () →
    ∃ v ∈ [negativePointSign, positivePointSign], verification.ecdsa
      (signatureWithV (signing.signEcdsa seed (signing.blake2b256 message)) v) message
        (signing.publicKey seed) = true
  ed25519 : ∀ key message, verification.ed25519 (signing.signEd25519 key message) message
    (signing.verificationKey key) = true

section Flow

variable {node : Node CborBytes Text} {lib : Libraries Text} {signing : Signing}
  {verification : SignatureVerification}

/-- What is printed in hexadecimal is read back. -/
theorem Laws.fromHex_hexText (laws : Laws node lib signing verification) (bytes : Bytes) :
    signing.fromHex (hexText bytes).toList = .ok bytes := by
  rw [hexText, String.toList_ofList, laws.fromHex]

private theorem Laws.fromHex_inj (laws : Laws node lib signing verification) {bytes bytes' : Bytes}
    (h : signing.fromHex (hexText bytes).toList = .ok bytes') : bytes' = bytes :=
  (Except.ok.inj ((laws.fromHex_hexText bytes).symm.trans h)).symm

theorem Laws.fromPrefixedHex_inj (laws : Laws node lib signing verification)
    {bytes bytes' : Bytes} {text : String} (htext : text = prefixedHex bytes)
    (h : signing.fromHex text.toList = .ok bytes') : bytes' = bytes := by
  rw [htext, laws.fromPrefixedHex] at h
  exact (Except.ok.inj h).symm

private theorem quote_not_mem {phrase : String} (h : Mnemonic phrase) : quote ∉ phrase.toList := by
  intro hmem
  rcases h quote hmem with hlower | hspace
  · exact absurd hlower (by decide)
  · exact absurd hspace (by decide)

/-- The file of the key is found under the name that is made from the public key. -/
theorem find_keyFile {keyDef : KeyDefinition} {files : List (KeyFile Text)} {phrase : String}
    (h : entriesOf keyDef files = [keyFile node keyDef.scheme keyDef.keyType phrase]) :
    (files.find? fun file => file.name =
        keyDef.keyTypeHex ++ hexEncode (node.publicKey keyDef.scheme phrase)) =
      some (keyFile node keyDef.scheme keyDef.keyType phrase) := by
  have hfilter : (entriesOf keyDef files).find? (fun file => file.name =
        keyDef.keyTypeHex ++ hexEncode (node.publicKey keyDef.scheme phrase)) =
      files.find? fun file => file.name =
        keyDef.keyTypeHex ++ hexEncode (node.publicKey keyDef.scheme phrase) := by
    rw [entriesOf, List.find?_filter]
    congr 1
    funext file
    by_cases hname : file.name =
      keyDef.keyTypeHex ++ hexEncode (node.publicKey keyDef.scheme phrase)
    · simp [hname, isOf_append]
    · simp [hname]
  rw [← hfilter, h, List.find?_cons_of_pos]
  exact decide_eq_true rfl

/-- The key is read from the keystore that the file agrees with. -/
theorem getEcdsaPairFromFile_of_holds (laws : Laws node lib signing verification)
    (machine : Machine Text) {path key phrase : String} (hphrase : Mnemonic phrase)
    (hentries : entriesOf crossChain (machine.keystores path) =
      [keyFile node crossChain.scheme crossChain.keyType phrase])
    (hkey : key = prefixedHex (node.publicKey crossChain.scheme phrase)) :
    getEcdsaPairFromFile lib signing path key machine =
      ((signing.pairFromString phrase.toList).mapError .error, machine) := by
  have hfile : (attempt fun machine : Machine Text => okOr
      ((machine.keystores path).find? fun file => file.name =
        crossChain.keyTypeHex ++ replace0x key.toList)
      (Failure.error "seed phrase file not found")) machine =
        (.ok (keyFile node crossChain.scheme crossChain.keyType phrase), machine) := by
    refine run_attempt.mpr ⟨?_, rfl⟩
    rw [hkey, replace0x_prefixedHex, find_keyFile hentries]
    rfl
  rw [getEcdsaPairFromFile, bind_of_ok hfile, keyFile, laws.seed phrase hphrase,
    trimQuotes_quoted (quote_not_mem hphrase)]
  rfl

/-- The arguments that a step prints are the ones that the next step gets. -/
theorem parse_toArgs (laws : Laws node lib signing verification) {cmd : Register2Cmd}
    (hgenesis : cmd.genesisUtxo.index < 2 ^ 15)
    (hregistration : cmd.registrationUtxo.index < 2 ^ 15) {seed : FixedBytes 32}
    (hkey : cmd.sidechainPubKey = signing.publicKey seed) :
    cmd.toArgs.parse lib signing = some cmd := by
  have hparsed : sidechainPublicKeyParamFromStr signing (prefixedHex cmd.sidechainPubKey.bytes) =
      some cmd.sidechainPubKey := by
    rw [sidechainPublicKeyParamFromStr, trimStart0x_prefixedHex, hkey, laws.publicKeyFromStr]
  simp only [Register2Args.parse, Register2Cmd.toArgs, utxoIdFromStr_utxoIdToString _ hgenesis,
    utxoIdFromStr_utxoIdToString _ hregistration, hparsed, Except.toOption,
    Option.bind_eq_bind, Option.bind_some]

/-- The field is there, and the machine stays as it is. -/
theorem onWorld_loadOrFail_eq_ok {field : ConfigFieldDefinition T} {message : String}
    {machine machine' : Machine Text} {value : T}
    (h : onWorld (loadOrFail lib field message) machine = (.ok value, machine')) :
    stored lib.toJsonText field machine.world = .ok (some value) ∧ machine' = machine := by
  obtain ⟨world, hrun, rfl⟩ := run_within.mp h
  obtain ⟨loaded, world₁, hload, hlift⟩ := run_bind.mp hrun
  obtain ⟨hvalue, hworld⟩ := run_lift.mp hlift
  obtain ⟨hstored, hworld₁⟩ := loadFromFile_eq_ok.mp hload
  rw [hworld, hworld₁, hstored, okOr_eq_ok.mp hvalue]
  exact ⟨rfl, rfl⟩

private theorem selectRegistrationUtxo_index_lt {network : NetworkType} {world world' : World Text}
    {inputUtxo : UtxoId}
    (h : selectRegistrationUtxo node lib network world = (.ok inputUtxo, world')) :
    inputUtxo.index < 2 ^ 15 := by
  obtain ⟨address, world₁, -, h⟩ := run_bind.mp h
  obtain ⟨ogmiosConfiguration, world₂, -, h⟩ := run_bind.mp h
  obtain ⟨utxos, world₃, -, h⟩ := run_bind.mp h
  split at h
  · exact absurd h fail_ne_ok
  · exact (selectFromUtxos_eq_ok h).1

/-- What the first step prints. -/
def signedCmd (signing : Signing) (seed : FixedBytes 32) (genesis inputUtxo : UtxoId)
    (keys : PermissionedCandidateKeys) : Register2Cmd :=
  ⟨genesis, inputUtxo, signing.publicKey seed, keys.auraPubKey, keys.grandpaPubKey,
    hexText (scPublicKeyAndSignatureForDatum signing seed
      ⟨genesis, (signing.publicKey seed).bytes, inputUtxo⟩).2.bytes⟩

private theorem signRegistrationMessage_eq_ok {message : RegisterValidatorMessage}
    {seed : FixedBytes 32} {signature : String}
    (h : signRegistrationMessageWithSidechainKey signing message seed = .ok signature) :
    signing.secretKeyFromSlice seed = .ok () ∧
      signature = hexText (scPublicKeyAndSignatureForDatum signing seed message).2.bytes := by
  obtain ⟨_, hseed, h⟩ := bind_eq_ok.mp h
  exact ⟨mapError_eq_ok.mp hseed, (Except.ok.inj h).symm⟩

/-- All phrases of cross-chain keys are generated. -/
def Mnemonics (node : Node CborBytes Text) (files : List (KeyFile Text)) : Prop :=
  ∀ phrase, keyFile node crossChain.scheme crossChain.keyType phrase ∈ files → Mnemonic phrase

private theorem register1_eq_ok (laws : Laws node lib signing verification) {machine : Machine Text}
    {basePath : String} {keys : PermissionedCandidateKeys}
    (hagrees : Agrees node lib machine basePath keys)
    (hmnemonics : Mnemonics node (machine.keystores (keystorePath basePath defaultChainName)))
    {args : Register2Args} {machine' : Machine Text}
    (h : register1 node lib signing machine = (.ok args, machine')) :
    ∃ genesis inputUtxo seed,
      stored lib.toJsonText (genesisUtxo lib.hex) machine.world = .ok (some genesis) ∧
      inputUtxo.index < 2 ^ 15 ∧ signing.secretKeyFromSlice seed = .ok () ∧
      keys.sidechainPubKey = prefixedHex (signing.publicKey seed).bytes ∧
      args = (signedCmd signing seed genesis inputUtxo keys).toArgs := by
  obtain ⟨genesis, machine₁, hrun₁, h₁⟩ := run_bind.mp h
  obtain ⟨hgenesis, rfl⟩ := onWorld_loadOrFail_eq_ok hrun₁
  obtain ⟨network, machine₂, hrun₂, h₂⟩ := run_bind.mp h₁
  obtain ⟨-, rfl⟩ := onWorld_loadOrFail_eq_ok hrun₂
  obtain ⟨basePath', machine₃, hrun₃, h₃⟩ := run_bind.mp h₂
  obtain ⟨hstored, rfl⟩ := onWorld_loadOrFail_eq_ok hrun₃
  obtain rfl := Option.some.inj (Except.ok.inj (hstored.symm.trans hagrees.stored))
  obtain ⟨keys', machine₄, hrun₄, h₄⟩ := run_bind.mp h₃
  obtain ⟨hkeys, rfl⟩ := run_attempt.mp hrun₄
  obtain rfl := Option.some.inj ((okOr_eq_ok.mp hkeys).symm.trans hagrees.file)
  obtain ⟨inputUtxo, machine₅, hrun₅, h₅⟩ := run_bind.mp h₄
  obtain ⟨world, hinput, rfl⟩ := run_within.mp hrun₅
  obtain ⟨sidechainPubKey, machine₆, hrun₆, h₆⟩ := run_bind.mp h₅
  obtain ⟨hpubKey, rfl⟩ := run_lift.mp hrun₆
  obtain ⟨seed, machine₇, hseed, h₇⟩ := run_bind.mp h₆
  -- the wizard has left the keystore alone
  obtain ⟨phrase, hentries, hkey⟩ := hagrees.crossChain
  have hphrase := hmnemonics phrase
    (List.mem_filter.mp (hentries ▸ List.mem_cons_self)).1
  rw [getEcdsaPairFromFile_of_holds laws ⟨world, _⟩ hphrase hentries hkey] at hseed
  have hpublic := laws.publicKey (mapError_eq_ok.mp (Prod.mk.inj hseed).1)
  rw [hpublic] at hkey
  obtain ⟨signature, machine₈, hsignature, h₈⟩ := run_bind.mp h₇
  obtain ⟨hsecret, rfl⟩ := signRegistrationMessage_eq_ok (run_lift.mp hsignature).1
  obtain ⟨rfl, -⟩ := run_pure.mp h₈
  have hbytes : sidechainPubKey = (signing.publicKey seed).bytes :=
    laws.fromPrefixedHex_inj hkey (mapError_eq_ok.mp hpubKey)
  refine ⟨genesis, inputUtxo, seed, hgenesis, selectRegistrationUtxo_index_lt hinput, hsecret,
    hkey, ?_⟩
  rw [hbytes]
  simp only [Register2Cmd.toArgs, signedCmd]
  rw [← show keys'.sidechainPubKey = prefixedHex _ from hkey]

private theorem register2_eq_ok {outside : Outside CborBytes} {cmd : Register2Cmd}
    {world world' : World Text} {args : Register3Args}
    (h : register2 outside lib signing cmd world = (.ok args, world')) :
    ∃ key, args = ⟨cmd.toArgs, hexText (signing.verificationKey key).bytes,
      hexText (signing.signEd25519 key (encodeDatum (RegisterValidatorMessage.toDatum
        ⟨cmd.genesisUtxo, cmd.sidechainPubKey.bytes, cmd.registrationUtxo⟩))).bytes⟩ := by
  obtain ⟨path, world₁, -, h₁⟩ := run_bind.mp h
  obtain ⟨key, world₂, -, h₂⟩ := run_bind.mp h₁
  exact ⟨key, (run_pure.mp h₂).1⟩

/-- The command of the third step has the arguments it was given. -/
theorem register3_eq_ok {outside : Outside CborBytes}
    {pcContractsCli : Nat → String → Except String Unit} {cmd : Register3Cmd}
    {world world' : World Text} {command : RegisterCommand}
    (h : register3 outside lib pcContractsCli cmd world = (.ok command, world')) :
    command.args = ⟨cmd.toArgs, cmd.spoPublicKey, cmd.spoSignature⟩ := by
  obtain ⟨genesis, world₁, -, h₁⟩ := run_bind.mp h
  obtain ⟨path, world₂, -, h₂⟩ := run_bind.mp h₁
  obtain ⟨resources, world₃, -, h₃⟩ := run_bind.mp h₂
  obtain ⟨network, world₄, -, h₄⟩ := run_bind.mp h₃
  obtain ⟨n, world₅, -, h₅⟩ := run_bind.mp h₄
  obtain ⟨_, world₆, -, h₆⟩ := run_bind.mp h₅
  rw [(run_pure.mp h₆).1]

/-! ## The registration on the chain -/

/-- The registration has what the command was run with, and its transaction spent
the UTXO. -/
structure Registers (lib : Libraries Text) (signing : Signing) (args : Register3Args)
    (mainchainPubKey : MainchainPublicKey) (data : RegistrationData) : Prop where
  consumedInput : utxoIdFromStr lib.hex args.registrationUtxo.toList = .ok data.consumedInput
  spent : data.consumedInput ∈ data.txInputs
  sidechainPubKey : signing.fromHex args.sidechainPubKey.toList = .ok data.sidechainPubKey
  auraPubKey : signing.fromHex args.auraPubKey.toList = .ok data.auraPubKey
  grandpaPubKey : signing.fromHex args.grandpaPubKey.toList = .ok data.grandpaPubKey
  sidechainSignature :
    signing.fromHex args.sidechainSignature.toList = .ok data.sidechainSignature
  spoPublicKey : signing.fromHex args.spoPublicKey.toList = .ok mainchainPubKey.bytes
  spoSignature : signing.fromHex args.spoSignature.toList = .ok data.mainchainSignature

/-- Keys of the right size and both signatures over the message pass the check. -/
theorem validate_of_signed (laws : Laws node lib signing verification) {seed key : FixedBytes 32}
    (hsecret : signing.secretKeyFromSlice seed = .ok ()) {genesis : UtxoId}
    {data : RegistrationData} {aura grandpa : FixedBytes 32}
    (hspent : data.consumedInput ∈ data.txInputs)
    (hsidechain : data.sidechainPubKey = (signing.publicKey seed).bytes)
    (haura : data.auraPubKey = aura.bytes) (hgrandpa : data.grandpaPubKey = grandpa.bytes)
    (hsidechainSignature : data.sidechainSignature = (scPublicKeyAndSignatureForDatum signing seed
      ⟨genesis, (signing.publicKey seed).bytes, data.consumedInput⟩).2.bytes)
    (hmainchainSignature : data.mainchainSignature = (signing.signEd25519 key
      (encodeDatum (RegisterValidatorMessage.toDatum
        ⟨genesis, (signing.publicKey seed).bytes, data.consumedInput⟩))).bytes) :
    validateRegistrationData verification (signing.verificationKey key) data genesis =
      .ok ⟨signing.publicKey seed, (aura, grandpa)⟩ := by
  generalize hmessage : encodeDatum (RegisterValidatorMessage.toDatum
    ⟨genesis, (signing.publicKey seed).bytes, data.consumedInput⟩) = message at *
  have hencoded : encodeDatum (RegisterValidatorSignedMessage.toDatum
      ⟨genesis, (signing.publicKey seed).bytes, data.consumedInput⟩) = message := hmessage
  have hmainchain : verifyMainchainSignature verification (signing.verificationKey key) data
      message = .ok () := by
    rw [verifyMainchainSignature, hmainchainSignature, FixedBytes.tryFrom_bytes]
    exact if_pos (laws.ed25519 key message)
  have hsidechain' : verifySidechainSignature verification (signing.publicKey seed)
      data.sidechainSignature message = .ok () := by
    rw [verifySidechainSignature, hsidechainSignature, FixedBytes.tryFrom_bytes]
    refine if_pos (List.any_eq_true.mpr ?_)
    rw [scPublicKeyAndSignatureForDatum, hash, hmessage]
    exact laws.ecdsa seed message hsecret
  refine bind_eq_ok.mpr ⟨aura, okOr_eq_ok.mpr ?_, bind_eq_ok.mpr ⟨grandpa, okOr_eq_ok.mpr ?_,
    bind_eq_ok.mpr ⟨signing.publicKey seed, okOr_eq_ok.mpr ?_, bind_eq_ok.mpr ⟨(), ?_,
      bind_eq_ok.mpr ⟨(), ?_, bind_eq_ok.mpr ⟨(), if_pos hspent, rfl⟩⟩⟩⟩⟩⟩
  · rw [haura, FixedBytes.tryFrom_bytes]
  · rw [hgrandpa, FixedBytes.tryFrom_bytes]
  · rw [hsidechain, FixedBytes.tryFrom_bytes]
  · rw [hsidechain, hencoded, hmainchain]
  · rw [hsidechain, hencoded, hsidechain']

/-- A registration that goes through the three steps is valid.  The arguments that
a step prints are accepted by the next one, wherever it is run. -/
theorem registration_valid (laws : Laws node lib signing verification) {machine : Machine Text}
    {basePath : String} {keys : PermissionedCandidateKeys}
    (hagrees : Agrees node lib machine basePath keys)
    (hmnemonics : Mnemonics node (machine.keystores (keystorePath basePath defaultChainName)))
    {args₂ : Register2Args} {machine' : Machine Text}
    (h₁ : register1 node lib signing machine = (.ok args₂, machine')) :
    ∃ genesis cmd₂,
      stored lib.toJsonText (genesisUtxo lib.hex) machine.world = .ok (some genesis) ∧
      args₂.parse lib signing = some cmd₂ ∧
      ∀ (outside₂ : Outside CborBytes) (world₂ world₂' : World Text) (args₃ : Register3Args),
        register2 outside₂ lib signing cmd₂ world₂ = (.ok args₃, world₂') →
        ∃ cmd₃, args₃.parse lib signing = some cmd₃ ∧
          ∀ (outside₃ : Outside CborBytes) (pcContractsCli : Nat → String → Except String Unit)
            (world₃ world₃' : World Text) (command : RegisterCommand),
            register3 outside₃ lib pcContractsCli cmd₃ world₃ = (.ok command, world₃') →
            ∀ mainchainPubKey data, Registers lib signing command.args mainchainPubKey data →
              ∃ candidate,
                validateRegistrationData verification mainchainPubKey data genesis =
                  .ok candidate ∧
                prefixedHex candidate.accountId.bytes = keys.sidechainPubKey ∧
                prefixedHex candidate.accountKeys.1.bytes = keys.auraPubKey ∧
                prefixedHex candidate.accountKeys.2.bytes = keys.grandpaPubKey := by
  obtain ⟨genesis, inputUtxo, seed, hgenesis, hinput, hsecret, hkey, rfl⟩ :=
    register1_eq_ok laws hagrees hmnemonics h₁
  have hparse : (signedCmd signing seed genesis inputUtxo keys).toArgs.parse lib signing = some _ :=
    parse_toArgs laws (genesisUtxo_index_lt hgenesis) hinput rfl
  refine ⟨genesis, _, hgenesis, hparse, fun outside₂ world₂ world₂' args₃ h₂ => ?_⟩
  obtain ⟨key, rfl⟩ := register2_eq_ok h₂
  refine ⟨_, by rw [Register3Args.parse, hparse]; rfl, ?_⟩
  intro outside₃ pcContractsCli world₃ world₃' command h₃ mainchainPubKey data hregisters
  rw [register3_eq_ok h₃] at hregisters
  obtain ⟨_, hconsumed⟩ :=
    (utxoIdFromStr_utxoIdToString_iff lib.hex).mp hregisters.consumedInput
  obtain ⟨auraPhrase, -, haura⟩ := hagrees.aura
  obtain ⟨grandpaPhrase, -, hgrandpa⟩ := hagrees.grandpa
  obtain rfl : mainchainPubKey = signing.verificationKey key :=
    FixedBytes.ext (laws.fromHex_inj hregisters.spoPublicKey)
  refine ⟨⟨signing.publicKey seed, (⟨_, laws.aura auraPhrase⟩, ⟨_, laws.grandpa grandpaPhrase⟩)⟩,
    validate_of_signed laws hsecret hregisters.spent ?_ ?_ ?_ ?_ ?_, hkey.symm, haura.symm,
    hgrandpa.symm⟩
  · exact laws.fromPrefixedHex_inj rfl hregisters.sidechainPubKey
  · exact laws.fromPrefixedHex_inj haura hregisters.auraPubKey
  · exact laws.fromPrefixedHex_inj hgrandpa hregisters.grandpaPubKey
  · rw [hconsumed]
    exact laws.fromHex_inj hregisters.sidechainSignature
  · rw [hconsumed]
    exact laws.fromHex_inj hregisters.spoSignature

end Flow

/-! ## A registration

The keys and the signatures are constants, and the answers of the user are the
proposed ones. -/

/-- Constant keys and signatures. -/
def exampleSigning : Signing where
  pairFromString _ := .ok (FixedBytes.replicate 32 0)
  secretKeyFromSlice _ := .ok ()
  publicKey _ := FixedBytes.replicate 33 2
  publicKeyFromStr _ := some (FixedBytes.replicate 33 2)
  signEcdsa _ _ := FixedBytes.replicate 64 4
  blake2b256 _ := FixedBytes.replicate 32 5
  verificationKey _ := FixedBytes.replicate 32 3
  signEd25519 _ _ := FixedBytes.replicate 64 6
  fromHex text := (lowerHex.fromHex (trimStart0x text)).elim (.error "invalid") .ok

/-- Accepts the signatures of `exampleSigning` only. -/
def exampleVerification : SignatureVerification where
  ed25519 signature _ key :=
    signature = FixedBytes.replicate 64 6 ∧ key = FixedBytes.replicate 32 3
  ecdsa signature _ key :=
    signature = signatureWithV (FixedBytes.replicate 64 4) positivePointSign ∧
      key = FixedBytes.replicate 33 2

/-- A node whose keys are constant. -/
def registrant : Node Unit JValue :=
  { exampleNode with
    promptMultiOption := fun n prompt options =>
      if prompt = kupoProtocol.name then "http"
      else exampleOutside.promptMultiOption n prompt options
    publicKey := fun scheme _ =>
      if scheme = "ecdsa" then List.replicate 33 2 else List.replicate 32 1
    seed := fun phrase => .string (String.ofList (quote :: (phrase.toList ++ [quote]))) }

/-- The public keys of the candidate. -/
def registrantKeys : PermissionedCandidateKeys :=
  ⟨prefixedHex (List.replicate 33 2), prefixedHex (List.replicate 32 1),
    prefixedHex (List.replicate 32 1)⟩

/-- The configuration before the registration. -/
def registrantFiles : Files JValue := fun path =>
  if path = chainConfigFilePath then
    .content (.object
      [.mk "cardano" (.object [.mk "network" (.string "testnet")]),
        .mk "chain_parameters" (.object
          [.mk "genesis_utxo" (.string (utxoIdToString exampleUtxo.utxoId))])])
  else if path = resourcesConfigFilePath then
    .content (.object [.mk "substrate_node_base_path" (.string "./data")])
  else if path = keysFilePath then .content (keysFileValue registrantKeys)
  else
    .content (.object [.mk "cborHex"
      (.string (String.ofList ("5820".toList ++ hexEncode (List.replicate 32 0))))])

/-- No question was asked yet. -/
def registrantWorld : World JValue := ⟨registrantFiles, 0⟩

/-- A keystore with the three keys. -/
def registrantMachine : Machine JValue where
  world := registrantWorld
  keystores _ :=
    [keyFile registrant crossChain.scheme crossChain.keyType "word",
      keyFile registrant grandpa.scheme grandpa.keyType "word",
      keyFile registrant aura.scheme aura.keyType "word"]

/-- The libraries of the example satisfy the laws. -/
theorem laws_example : Laws registrant exampleLibraries exampleSigning exampleVerification where
  publicKey _ := rfl
  aura _ := rfl
  grandpa _ := rfl
  seed phrase _ := String.toList_ofList
  publicKeyFromStr _ := rfl
  fromHex bytes := by
    simp only [exampleSigning, trimStart0x_of_not_mem (x_not_mem_hexEncode bytes),
      lowerHex.fromHex_hexEncode, Option.elim_some]
  fromPrefixedHex bytes := by
    simp only [exampleSigning, trimStart0x_prefixedHex, lowerHex.fromHex_hexEncode,
      Option.elim_some]
  ecdsa _ _ _ := ⟨positivePointSign, by decide, by simp [exampleVerification, exampleSigning]⟩
  ed25519 _ _ := by simp [exampleVerification, exampleSigning]

private theorem agrees_example :
    Agrees registrant exampleLibraries registrantMachine "./data" registrantKeys where
  stored := rfl
  file := rfl
  crossChain := ⟨"word", rfl, rfl⟩
  grandpa := ⟨"word", rfl, rfl⟩
  aura := ⟨"word", rfl, rfl⟩

/-- Every key of the example has a phrase. -/
theorem mnemonics_example (path : String) :
    Mnemonics registrant (registrantMachine.keystores path) := by
  intro phrase hmem
  simp only [registrantMachine, List.mem_cons, List.not_mem_nil, or_false] at hmem
  have hname : (keyFile registrant crossChain.scheme crossChain.keyType phrase).name =
    (keyFile registrant crossChain.scheme crossChain.keyType "word").name := rfl
  rcases hmem with h | h | h
  · have htext := congrArg String.toList (JValue.string.inj (congrArg KeyFile.content h))
    simp only [String.toList_ofList, List.cons.injEq, true_and, List.append_left_inj] at htext
    have hlower : "word".toList.all Char.isLower = true := rfl
    intro c hc
    rw [htext] at hc
    exact Or.inl (List.all_eq_true.mp hlower c hc)
  · exact absurd (hname.symm.trans (congrArg KeyFile.name h)) (by decide)
  · exact absurd (hname.symm.trans (congrArg KeyFile.name h)) (by decide)

private theorem selectRegistrationUtxo_example :
    ∃ world', selectRegistrationUtxo registrant exampleLibraries .testnet registrantWorld =
      (.ok exampleUtxo.utxoId, world') := by
  refine ⟨?_, run_bind.mpr ⟨_, _, rfl, run_bind.mpr ⟨_, _, rfl, run_bind.mpr
    ⟨[exampleUtxo], _, rfl, ?_⟩⟩⟩⟩
  rotate_left
  · -- the sorted list is not computed by unfolding
    rw [filterUtxos_example]
    rfl

/-- What the first step prints. -/
def registrantCmd : Register2Cmd :=
  signedCmd exampleSigning (FixedBytes.replicate 32 0) exampleUtxo.utxoId exampleUtxo.utxoId
    registrantKeys

private theorem parse_registrantCmd :
    registrantCmd.toArgs.parse exampleLibraries exampleSigning = some registrantCmd :=
  parse_toArgs laws_example (by decide) (by decide) (Eq.refl (exampleSigning.publicKey
    (FixedBytes.replicate 32 0)))

/-- What the second step prints. -/
def registrantArgs : Register3Args :=
  ⟨registrantCmd.toArgs, hexText (FixedBytes.replicate 32 3).bytes,
    hexText (FixedBytes.replicate 64 6).bytes⟩

private theorem register1_example :
    ∃ machine', register1 registrant exampleLibraries exampleSigning registrantMachine =
      (.ok registrantCmd.toArgs, machine') := by
  obtain ⟨world', hselect⟩ := selectRegistrationUtxo_example
  refine ⟨_, run_bind.mpr ⟨_, _, rfl, run_bind.mpr ⟨_, _, rfl, run_bind.mpr ⟨_, _, rfl,
    run_bind.mpr ⟨_, _, rfl, run_bind.mpr ⟨_, _, run_within.mpr ⟨world', hselect, rfl⟩,
      run_bind.mpr ⟨List.replicate 33 2, _, run_lift.mpr ⟨?_, rfl⟩, run_bind.mpr ⟨_, _,
        getEcdsaPairFromFile_of_holds laws_example _
          (mnemonics_example "" "word" List.mem_cons_self) rfl rfl, rfl⟩⟩⟩⟩⟩⟩⟩⟩
  exact mapError_eq_ok.mpr (laws_example.fromPrefixedHex _)

private theorem register2_example :
    ∃ world', register2 registrant.toOutside exampleLibraries exampleSigning registrantCmd
      registrantWorld = (.ok registrantArgs, world') :=
  ⟨_, run_bind.mpr ⟨"cold.skey", _, rfl, run_bind.mpr ⟨_, _, rfl, rfl⟩⟩⟩

private theorem register3_example (cmd : Register3Cmd) :
    ∃ command world', register3 registrant.toOutside exampleLibraries (fun _ _ => .ok ()) cmd
      registrantWorld = (.ok command, world') :=
  ⟨_, _, run_bind.mpr ⟨_, _, rfl, run_bind.mpr ⟨_, _, rfl, run_bind.mpr ⟨_, _, rfl, run_bind.mpr
    ⟨_, _, rfl, run_bind.mpr ⟨_, _, rfl, run_bind.mpr ⟨_, _, rfl, rfl⟩⟩⟩⟩⟩⟩⟩

/-- The registration the chain reads back. -/
def registrantData : RegistrationData where
  consumedInput := exampleUtxo.utxoId
  sidechainSignature := (FixedBytes.replicate 64 4).bytes
  mainchainSignature := (FixedBytes.replicate 64 6).bytes
  crossChainSignature := []
  sidechainPubKey := List.replicate 33 2
  crossChainPubKey := []
  utxoInfo := ⟨exampleUtxo.utxoId, 0, 0, 0, 0⟩
  txInputs := [exampleUtxo.utxoId]
  auraPubKey := List.replicate 32 1
  grandpaPubKey := List.replicate 32 1

private theorem registers_example : Registers exampleLibraries exampleSigning registrantArgs
    (FixedBytes.replicate 32 3) registrantData where
  consumedInput := utxoIdFromStr_utxoIdToString lowerHex (by decide)
  spent := List.mem_cons_self
  sidechainPubKey := laws_example.fromPrefixedHex _
  auraPubKey := laws_example.fromPrefixedHex _
  grandpaPubKey := laws_example.fromPrefixedHex _
  sidechainSignature := laws_example.fromHex_hexText _
  spoPublicKey := laws_example.fromHex_hexText _
  spoSignature := laws_example.fromHex_hexText _

/-- The registration of the example is valid for the chain. -/
theorem registration_valid_example :
    ∃ genesis candidate,
      stored treeText (genesisUtxo lowerHex) registrantWorld = .ok (some genesis) ∧
      validateRegistrationData exampleVerification (FixedBytes.replicate 32 3) registrantData
        genesis = .ok candidate ∧
      prefixedHex candidate.accountId.bytes = registrantKeys.sidechainPubKey := by
  obtain ⟨machine', h₁⟩ := register1_example
  obtain ⟨genesis, cmd₂, hgenesis, hparse₂, hsteps⟩ :=
    registration_valid laws_example agrees_example (mnemonics_example _) h₁
  obtain rfl := Option.some.inj (parse_registrantCmd.symm.trans hparse₂)
  obtain ⟨world₂', h₂⟩ := register2_example
  obtain ⟨cmd₃, hparse₃, hlast⟩ := hsteps _ _ _ _ h₂
  have hargs : registrantArgs.parse exampleLibraries exampleSigning =
      some ⟨registrantCmd, registrantArgs.spoPublicKey, registrantArgs.spoSignature⟩ := by
    rw [Register3Args.parse, show registrantArgs.toRegister2Args.parse _ _ = _ from
      parse_registrantCmd]
    rfl
  obtain rfl := Option.some.inj (hargs.symm.trans hparse₃)
  obtain ⟨command, world₃', h₃⟩ := register3_example
    ⟨registrantCmd, registrantArgs.spoPublicKey, registrantArgs.spoSignature⟩
  obtain ⟨candidate, hvalid, hkey, -, -⟩ := hlast _ _ _ _ _ h₃ (FixedBytes.replicate 32 3)
    registrantData (by rw [register3_eq_ok h₃]; exact registers_example)
  exact ⟨genesis, candidate, hgenesis, hvalid, hkey⟩

end PartnerChains.Ports.Registration
