import BifrostRelayer.Keystore.KeypairStorage

/-!
# The command that migrates a keystore

`MigrateKeystoreCmd::run` reads every private key of a round's keystore with the old credentials and
writes it back with the new ones.  The old and the new instance have the same directory open: an
entry is rewritten in place while later entries are still to be read with the old credentials.
-/

namespace BifrostRelayer

namespace Keystore

open SolidityAbi

/-! ### The command -/

/-- `KeystoreConfig`. -/
structure KeystoreConfig where
  path : Option String
  password : Option (List UInt8)
  kmsKeyId : Option String

/-- The parts of `Configuration` that the command reads. -/
structure Configuration where
  btcChain : String
  keystoreConfig : Option KeystoreConfig

/-- `MigrateKeystoreCmd`, but for the name of the chain. -/
structure MigrateKeystoreCmd where
  round : UInt32
  newKmsKeyId : Option String
  newPassword : Option (List UInt8)
  version : UInt32

/-- `DEFAULT_KEYSTORE_PATH`. -/
def defaultKeystorePath : String := "./keys"

/-- `keystore_path`. -/
def Configuration.keystorePath (config : Configuration) : String :=
  match config.keystoreConfig with
  | some keystoreConfig => keystoreConfig.path.getD defaultKeystorePath
  | none => defaultKeystorePath

/-- `password`: the one of the configuration, unless it has a KMS key. -/
def Configuration.password (config : Configuration) : Option (List UInt8) :=
  match config.keystoreConfig with
  | some ⟨_, password, none⟩ => password
  | _ => none

/-- `old_keystore`, before it is loaded. -/
def Configuration.oldKeystore (config : Configuration) : KeypairStorage :=
  match config.keystoreConfig with
  | some keystoreConfig =>
    match keystoreConfig.kmsKeyId with
    | some keyId => .new config.keystorePath (.kms keyId)
    | none => .new config.keystorePath (.password config.password)
  | none => .new defaultKeystorePath (.password none)

namespace MigrateKeystoreCmd

/-- `old_keystore`, loaded. -/
def loadOld (cmd : MigrateKeystoreCmd) (config : Configuration) : Option KeypairStorage :=
  if cmd.version = 1 then config.oldKeystore.loadV1 cmd.round config.password
  else some (config.oldKeystore.load cmd.round)

/-- `new_keystore`, loaded. -/
def loadNew (cmd : MigrateKeystoreCmd) (config : Configuration) : KeypairStorage :=
  match cmd.newKmsKeyId with
  | some keyId => (KeypairStorage.new config.keystorePath (.kms keyId)).load cmd.round
  | none =>
    (KeypairStorage.new config.keystorePath (.password cmd.newPassword)).load cmd.round

end MigrateKeystoreCmd

/-- The private key that the stored text of a public key stands for, in version 1. -/
def KeypairStorage.privateKeyV1 (services : Services) (s : KeypairStorage) (disk : Disk)
    (key : List UInt8) : Option (List UInt8) := do
  let db ← s.db
  let publicKey ← publicFromSlice key
  let text ← (disk db.path).lookup publicKey.val
  services.keyPair publicKey.val text db.password

namespace MigrateKeystoreCmd

variable (services : Services) (env : Environment) (cmd : MigrateKeystoreCmd)

/-- The private key that the old credentials give. -/
def oldPrivateKey (old : KeypairStorage) (disk : Disk) (key : List UInt8) : Option (List UInt8) :=
  if cmd.version = 1 then old.privateKeyV1 services disk key else old.privateKey services disk key

/-- One round of the loop of `run`. -/
def migrateKey (old new : KeypairStorage) (call : ℕ) (disk : Disk) (key : List UInt8) :
    Option Disk := do
  let privateKey ← cmd.oldPrivateKey services old disk key
  let encrypted ← new.credentials.encryptKey services env call privateKey
  new.insertKey env call disk key encrypted

/-- The loop of `run`, from the call with a given number on. -/
def migrateKeys (old new : KeypairStorage) : ℕ → Disk → List (List UInt8) → Option Disk
  | _, disk, [] => some disk
  | call, disk, key :: keys => do
      let disk ← cmd.migrateKey services env old new call disk key
      migrateKeys old new (call + 1) disk keys

/-- `run`: the keystore directories behind it; `none` is a panic. -/
def run (config : Configuration) (disk : Disk) : Option Disk :=
  if services.isNetwork config.btcChain then do
    let old ← cmd.loadOld config
    let keys ← old.keys disk
    if env.backedUp then cmd.migrateKeys services env old (cmd.loadNew config) 0 disk keys else none
  else none

end MigrateKeystoreCmd

/-! ### Reading and writing an entry -/

section Entries

variable {services : Services} {env : Environment}

variable {s : KeypairStorage} {db : LocalKeystore} {disk disk' : Disk} {key : List UInt8}

/-- The private key of version 1 in terms of the stored text. -/
lemma privateKeyV1_eq (hdb : s.db = some db) :
    s.privateKeyV1 services disk key =
      if key.length = 33 then ((disk db.path).lookup key).bind fun text =>
        services.keyPair key text db.password
      else none := by
  unfold KeypairStorage.privateKeyV1 publicFromSlice
  by_cases hlen : key.length = 33 <;> simp [hdb, hlen]

variable {cmd : MigrateKeystoreCmd} {old new : KeypairStorage} {oldDb newDb : LocalKeystore}
  {call : ℕ}

/-- What the old credentials give depends on the stored text of the key alone. -/
lemma oldPrivateKey_congr (hold : old.db = some oldDb)
    (hlookup : (disk' oldDb.path).lookup key = (disk oldDb.path).lookup key) :
    cmd.oldPrivateKey services old disk' key = cmd.oldPrivateKey services old disk key := by
  unfold MigrateKeystoreCmd.oldPrivateKey
  rw [privateKey_eq hold, privateKey_eq hold, privateKeyV1_eq hold, privateKeyV1_eq hold, hlookup]

/-- Only the name of a key of the right length is read. -/
lemma length_of_oldPrivateKey {privateKey : List UInt8} (hold : old.db = some oldDb)
    (h : cmd.oldPrivateKey services old disk key = some privateKey) : key.length = 33 := by
  unfold MigrateKeystoreCmd.oldPrivateKey at h
  rw [privateKey_eq hold, privateKeyV1_eq hold] at h
  by_contra hlen
  simp [hlen] at h

/-- One round of the loop: the key is read with the old credentials, its entry is replaced, and the
new credentials read the same from it. -/
lemma migrateKey_spec (hlawful : services.Lawful) (hold : old.db = some oldDb)
    (hnew : new.db = some newDb)
    (h : cmd.migrateKey services env old new call disk key = some disk') :
    ∃ privateKey text, cmd.oldPrivateKey services old disk key = some privateKey ∧
      disk' = Function.update disk newDb.path ((disk newDb.path).insert key text) ∧
      new.privateKey services disk' key = some privateKey := by
  obtain ⟨privateKey, hread, h⟩ := Option.bind_eq_some_iff.1 h
  obtain ⟨encrypted, hencrypt, hinsert⟩ := Option.bind_eq_some_iff.1 h
  have hlen := length_of_oldPrivateKey hold hread
  unfold KeypairStorage.insertKey at hinsert
  rw [hnew] at hinsert
  simp only [Option.bind_eq_bind, Option.bind_some] at hinsert
  split_ifs at hinsert with hok
  obtain rfl := Option.some.inj hinsert
  refine ⟨privateKey, Hex.encode encrypted, hread, rfl, ?_⟩
  rw [privateKey_eq hnew, if_pos hlen, Function.update_self, AList.lookup_insert]
  simp only [Option.bind_some, Hex.decode_encode]
  exact decryptKey_encryptKey hlawful hencrypt

end Entries

/-! ### The loop -/

/-- The keys of a list are migrated, and the rest of the disk is as it was. -/
structure Migrated (services : Services) (cmd : MigrateKeystoreCmd) (old new : KeypairStorage)
    (path : String) (keys : List (List UInt8)) (disk disk' : Disk) : Prop where
  elsewhere : ∀ path' ≠ path, disk' path' = disk path'
  keySet : ∀ key, key ∈ disk' path ↔ key ∈ disk path
  others : ∀ key ∉ keys, (disk' path).lookup key = (disk path).lookup key
  migrated : ∀ key ∈ keys, ∃ privateKey,
    cmd.oldPrivateKey services old disk key = some privateKey ∧
      new.privateKey services disk' key = some privateKey

section Loop

variable {services : Services} {env : Environment} {cmd : MigrateKeystoreCmd}
  {old new : KeypairStorage} {oldDb newDb : LocalKeystore}

/-- The loop migrates the keys of the list, whatever was done to other keys before. -/
lemma migrateKeys_spec (hlawful : services.Lawful) (hold : old.db = some oldDb)
    (hnew : new.db = some newDb) (hpath : oldDb.path = newDb.path) {keys : List (List UInt8)}
    {call : ℕ} {disk disk' : Disk} (hnodup : keys.Nodup)
    (hkeys : ∀ key ∈ keys, key ∈ disk newDb.path)
    (h : cmd.migrateKeys services env old new call disk keys = some disk') :
    Migrated services cmd old new newDb.path keys disk disk' := by
  induction keys generalizing call disk with
  | nil =>
    obtain rfl := Option.some.inj h
    exact ⟨fun _ _ => rfl, fun _ => Iff.rfl, fun _ _ => rfl, fun _ hkey => by cases hkey⟩
  | cons key keys ih =>
    obtain ⟨disk₁, hfirst, hrest⟩ := Option.bind_eq_some_iff.1 h
    obtain ⟨privateKey, text, hread, rfl, hwritten⟩ := migrateKey_spec hlawful hold hnew hfirst
    obtain ⟨hnotMem, hnodup⟩ := List.nodup_cons.1 hnodup
    have hself := hkeys key (List.mem_cons_self ..)
    have hmem : ∀ key', key' ∈ Function.update disk newDb.path
        ((disk newDb.path).insert key text) newDb.path ↔ key' ∈ disk newDb.path := by
      intro key'
      rw [Function.update_self, AList.mem_insert]
      exact ⟨fun h => h.elim (fun heq => heq ▸ hself) id, .inr⟩
    have hne : ∀ key' ≠ key, (Function.update disk newDb.path
        ((disk newDb.path).insert key text) newDb.path).lookup key' =
          (disk newDb.path).lookup key' := by
      intro key' hkey'
      rw [Function.update_self, AList.lookup_insert_ne hkey']
    obtain ⟨helsewhere, hkeySet, hothers, hmigrated⟩ := ih hnodup
      (fun key' hkey' => (hmem key').2 (hkeys key' (List.mem_cons_of_mem key hkey'))) hrest
    refine ⟨?_, ?_, ?_, ?_⟩
    · intro path' hpath'
      rw [helsewhere path' hpath', Function.update_of_ne hpath']
    · intro key'
      rw [hkeySet, hmem]
    · intro key' hkey'
      rw [List.mem_cons, not_or] at hkey'
      rw [hothers key' hkey'.2, hne key' hkey'.1]
    · intro key' hkey'
      rcases List.mem_cons.1 hkey' with rfl | hlater
      · -- the later rounds leave the entry of this key alone
        refine ⟨privateKey, hread, ?_⟩
        rw [privateKey_eq hnew] at hwritten ⊢
        rw [hothers key' hnotMem]
        exact hwritten
      · -- the entry of a later key is still the old one when it is read
        obtain ⟨sk, hsk, hsk'⟩ := hmigrated key' hlater
        have hkey'' : key' ≠ key := by
          rintro rfl
          exact hnotMem hlater
        refine ⟨sk, ?_, hsk'⟩
        rw [← hsk]
        exact (oldPrivateKey_congr hold (by rw [hpath, hne key' hkey''])).symm

end Loop

/-! ### The whole run -/

namespace MigrateKeystoreCmd

variable {services : Services} {env : Environment} {cmd : MigrateKeystoreCmd}
  {config : Configuration}

/-- The old keystore is loaded from the directory of the round. -/
lemma db_of_loadOld {old : KeypairStorage} (h : cmd.loadOld config = some old) :
    ∃ db, old.db = some db ∧ db.path = roundPath config.keystorePath cmd.round := by
  have hpath : config.oldKeystore.path = config.keystorePath := by
    unfold Configuration.oldKeystore
    cases hconfig : config.keystoreConfig with
    | none => simp [Configuration.keystorePath, KeypairStorage.new, hconfig]
    | some keystoreConfig => cases hkms : keystoreConfig.kmsKeyId <;> simp [KeypairStorage.new, hkms]
  unfold loadOld at h
  split_ifs at h with hversion
  · unfold KeypairStorage.loadV1 at h
    split at h
    · obtain rfl := Option.some.inj h
      exact ⟨_, rfl, by rw [hpath]⟩
    · cases h
  · obtain rfl := Option.some.inj h
    exact ⟨_, rfl, by rw [hpath]⟩

/-- The new keystore is loaded from the directory of the round. -/
lemma db_of_loadNew (cmd : MigrateKeystoreCmd) (config : Configuration) :
    (cmd.loadNew config).db = some ⟨roundPath config.keystorePath cmd.round, none⟩ := by
  unfold loadNew
  cases cmd.newKmsKeyId <;> rfl

/-- When `run` returns, the directory of the round has the same public keys as before, and for each
of them the new credentials give exactly the private key that the old ones gave before.  The other
directories are as they were, but for the copy that is the backup. -/
theorem run_preserves_keys {disk disk' : Disk} (hlawful : services.Lawful)
    (hrun : cmd.run services env config disk = some disk') :
    ∃ old, cmd.loadOld config = some old ∧
      (∀ path ≠ roundPath config.keystorePath cmd.round, disk' path = disk path) ∧
      (∀ key, key ∈ disk' (roundPath config.keystorePath cmd.round) ↔
        key ∈ disk (roundPath config.keystorePath cmd.round)) ∧
      ∀ key ∈ disk (roundPath config.keystorePath cmd.round), ∃ privateKey,
        cmd.oldPrivateKey services old disk key = some privateKey ∧
          (cmd.loadNew config).privateKey services disk' key = some privateKey := by
  have hnetwork : services.isNetwork config.btcChain = true := by
    by_contra hnetwork
    rw [run, if_neg hnetwork] at hrun
    cases hrun
  rw [run, if_pos hnetwork] at hrun
  obtain ⟨old, hold, hrun⟩ := Option.bind_eq_some_iff.1 hrun
  obtain ⟨keys, hkeys, hrun⟩ := Option.bind_eq_some_iff.1 hrun
  split_ifs at hrun with hbackup
  obtain ⟨db, hdb, hpath⟩ := db_of_loadOld hold
  have hnew := cmd.db_of_loadNew config
  unfold KeypairStorage.keys at hkeys
  rw [hdb, Option.map_some, hpath] at hkeys
  obtain rfl := Option.some.inj hkeys
  have hmigrated := migrateKeys_spec hlawful hdb hnew hpath (AList.keys_nodup _)
    (fun key hkey => AList.mem_keys.2 hkey) hrun
  exact ⟨old, hold, hmigrated.elsewhere, hmigrated.keySet,
    fun key hkey => hmigrated.migrated key (AList.mem_keys.1 hkey)⟩

/-! A migration of two keys, from no credentials to the password `test`. -/

/-- The public key whose private key is 1. -/
def sampleKey : List UInt8 :=
  [0x02, 0x79, 0xBE, 0x66, 0x7E, 0xF9, 0xDC, 0xBB, 0xAC, 0x55, 0xA0, 0x62, 0x95, 0xCE, 0x87, 0x0B,
    0x07, 0x02, 0x9B, 0xFC, 0xDB, 0x2D, 0xCE, 0x28, 0xD9, 0x59, 0xF2, 0x81, 0x5B, 0x16, 0xF8, 0x17,
    0x98]

/-- The public key whose private key is 2. -/
def secondKey : List UInt8 :=
  [0x02, 0xc6, 0x04, 0x7f, 0x94, 0x41, 0xed, 0x7d, 0x6d, 0x30, 0x45, 0x40, 0x6e, 0x95, 0xc0, 0x7c,
    0xd8, 0x5c, 0x77, 0x8e, 0x4b, 0x8c, 0xef, 0x3c, 0xa7, 0xab, 0xac, 0x09, 0xb9, 0x5c, 0x70, 0x9e,
    0xe5]

/-- A small private key. -/
def smallPrivateKey (n : UInt8) : List UInt8 := List.replicate 31 0 ++ [n]

/-- The bytes of `test`. -/
def samplePassword : List UInt8 := [116, 101, 115, 116]

/-- The nonce of the first call, and that of the second. -/
def sampleNonce (call : ℕ) : FixedBytes 12 :=
  if call = 0 then ⟨[0, 1, 2, 3, 4, 5, 6, 7, 8, 9, 10, 11], rfl⟩
  else ⟨[12, 13, 14, 15, 16, 17, 18, 19, 20, 21, 22, 23], rfl⟩

/-- The private key 1 under AES-256-GCM with the hash of `test` and the first nonce, with its tag. -/
def sampleCiphertext : List UInt8 :=
  [0x0d, 0xa4, 0x8d, 0x17, 0xc4, 0x14, 0x34, 0xf7, 0x1a, 0x38, 0x1f, 0xc1, 0xef, 0x04, 0xb7, 0x1b,
    0xf4, 0x26, 0xd8, 0x13, 0x23, 0x99, 0x63, 0x8c, 0xfb, 0x5b, 0x01, 0x17, 0x11, 0x3b, 0x21, 0x67,
    0xaf, 0xb4, 0x48, 0x9a, 0xe8, 0x58, 0xff, 0xd8, 0xcb, 0x54, 0x04, 0xd6, 0x39, 0x04, 0x27, 0x08]

/-- The private key 2 with the second nonce. -/
def secondCiphertext : List UInt8 :=
  [0x23, 0x56, 0x82, 0x73, 0x02, 0xe1, 0x4b, 0xcf, 0x7d, 0xc0, 0xc9, 0x54, 0x59, 0x31, 0xd3, 0x38,
    0xbf, 0x45, 0xdd, 0x95, 0x1e, 0xde, 0x20, 0xa0, 0xec, 0xef, 0xd5, 0x95, 0xab, 0x64, 0x70, 0xa6,
    0x19, 0x20, 0x01, 0x9c, 0x74, 0xdc, 0x43, 0xcd, 0x8f, 0x3d, 0x75, 0x6c, 0x96, 0xfc, 0x1a, 0x90]

/-- Services that answer just what this migration asks. -/
def sampleServices : Services where
  isNetwork name := name == "main"
  aesEncrypt key nonce plaintext :=
    if key = aesKey samplePassword ∧ nonce = sampleNonce 0 ∧ plaintext = smallPrivateKey 1 then
      some sampleCiphertext
    else if key = aesKey samplePassword ∧ nonce = sampleNonce 1 ∧ plaintext = smallPrivateKey 2 then
      some secondCiphertext
    else none
  aesDecrypt key nonce ciphertext :=
    if key = aesKey samplePassword ∧ nonce = sampleNonce 0 ∧ ciphertext = sampleCiphertext then
      some (smallPrivateKey 1)
    else if key = aesKey samplePassword ∧ nonce = sampleNonce 1 ∧ ciphertext = secondCiphertext then
      some (smallPrivateKey 2)
    else none
  kmsEncrypt _ _ _ := none
  kmsDecrypt _ _ := none
  keyPair _ _ _ := none

/-- The answers are lawful. -/
lemma sampleServices_lawful : sampleServices.Lawful := by
  have hnonce : sampleNonce 1 ≠ sampleNonce 0 := by decide
  constructor
  · intro key nonce plaintext ciphertext h
    simp only [sampleServices] at h ⊢
    split_ifs at h with hfirst hsecond
    · obtain rfl := Option.some.inj h
      rw [if_pos ⟨hfirst.1, hfirst.2.1, rfl⟩, hfirst.2.2]
    · obtain rfl := Option.some.inj h
      rw [if_neg fun hwrong => hnonce (hsecond.2.1.symm.trans hwrong.2.1),
        if_pos ⟨hsecond.1, hsecond.2.1, rfl⟩, hsecond.2.2]
  · intro keyId call plaintext blob h
    cases h

/-- The disk with both keys in round 7. -/
def sampleDisk : Disk := fun path =>
  if path = "./keys/7" then
    (AList.singleton secondKey (Hex.encode (smallPrivateKey 2))).insert sampleKey
      (Hex.encode (smallPrivateKey 1))
  else ∅

/-- The command. -/
def sampleCmd : MigrateKeystoreCmd where
  round := 7
  newKmsKeyId := none
  newPassword := some samplePassword
  version := 2

/-- The configuration. -/
def sampleConfig : Configuration where
  btcChain := "main"
  keystoreConfig := none

/-- Both keys are migrated: their texts change, and behind the run the password gives the private
keys that were read without one. -/
theorem run_preserves_keys_sample :
    ∃ migrated, sampleCmd.run sampleServices ⟨true, sampleNonce, fun _ => true⟩ sampleConfig
        sampleDisk = some migrated ∧
      (migrated "./keys/7").lookup sampleKey =
        some (Hex.encode ((sampleNonce 0).val ++ sampleCiphertext)) ∧
      (migrated "./keys/7").lookup secondKey =
        some (Hex.encode ((sampleNonce 1).val ++ secondCiphertext)) ∧
      (sampleCmd.loadNew sampleConfig).privateKey sampleServices migrated sampleKey =
        some (smallPrivateKey 1) ∧
      (sampleCmd.loadNew sampleConfig).privateKey sampleServices migrated secondKey =
        some (smallPrivateKey 2) := by
  have hsome : (sampleCmd.run sampleServices ⟨true, sampleNonce, fun _ => true⟩
      sampleConfig sampleDisk).map (fun migrated =>
        ((migrated "./keys/7").lookup sampleKey, (migrated "./keys/7").lookup secondKey)) =
      some (some (Hex.encode ((sampleNonce 0).val ++ sampleCiphertext)),
        some (Hex.encode ((sampleNonce 1).val ++ secondCiphertext))) := by
    decide +kernel
  obtain ⟨migrated, hrun, htexts⟩ := Option.map_eq_some_iff.1 hsome
  obtain ⟨old, hold, -, -, hkeys⟩ := run_preserves_keys sampleServices_lawful hrun
  have hread : ∀ key ∈ [sampleKey, secondKey], (sampleCmd.loadOld sampleConfig).bind
      (fun old => sampleCmd.oldPrivateKey sampleServices old sampleDisk key) =
        some (if key = sampleKey then smallPrivateKey 1 else smallPrivateKey 2) := by
    decide +kernel
  have hmigrated : ∀ key ∈ [sampleKey, secondKey],
      (sampleCmd.loadNew sampleConfig).privateKey sampleServices migrated key =
        some (if key = sampleKey then smallPrivateKey 1 else smallPrivateKey 2) := by
    intro key hkey
    have hdisk : ∀ key ∈ [sampleKey, secondKey],
        key ∈ sampleDisk (roundPath sampleConfig.keystorePath sampleCmd.round) := by
      decide +kernel
    obtain ⟨privateKey, hold', hnew⟩ := hkeys key (hdisk key hkey)
    have hprivateKey := hread key hkey
    rw [hold, Option.bind_some, hold'] at hprivateKey
    exact hnew.trans hprivateKey
  refine ⟨migrated, hrun, congrArg Prod.fst htexts, congrArg Prod.snd htexts, ?_, ?_⟩
  · exact hmigrated sampleKey (by simp)
  · exact (hmigrated secondKey (by simp)).trans (by rw [if_neg (by decide)])

end MigrateKeystoreCmd

end Keystore

end BifrostRelayer
