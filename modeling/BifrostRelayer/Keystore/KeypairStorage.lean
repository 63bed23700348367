import BifrostRelayer.Foundation.Hex
import BifrostRelayer.Foundation.Keccak
import BifrostRelayer.Foundation.SolidityAbi
import Mathlib.Data.List.AList

/-!
# The keypair storage

The private keys of a round are kept in a directory, a map from public keys to stored texts.  A text
is the hexadecimal form of the private key, encrypted with a password, by the KMS or not at all.

`get_key` looks up the key that a PSBT needs.  A key without an entry is no error, but an entry that
does not give the private key of its public key is a panic: `getKey_eq`.

AES-GCM, the KMS and the reading of entries of version 1 are not part of the repository; they are the
functions of `Services`.  A panic is `none`.
-/

namespace BifrostRelayer

namespace Keystore

open SolidityAbi Keccak

/-! ### What is outside the repository -/

/-- The ciphers and the libraries that the keystores call; `none` is an error. -/
structure Services where
  /-- `Network::from_core_arg` knows the name. -/
  isNetwork : String → Bool
  aesEncrypt : (key : List UInt8) → (nonce : FixedBytes 12) → (plaintext : List UInt8) →
    Option (List UInt8)
  aesDecrypt : (key : List UInt8) → (nonce : FixedBytes 12) → (ciphertext : List UInt8) →
    Option (List UInt8)
  /-- The replies of the KMS differ from call to call. -/
  kmsEncrypt : (keyId : String) → (call : ℕ) → (plaintext : List UInt8) → Option (List UInt8)
  kmsDecrypt : (keyId : String) → (blob : List UInt8) → Option (List UInt8)
  /-- `LocalKeystore::key_pair`: the seed of the pair that the text of a public key stands for. -/
  keyPair : (publicKey text : List UInt8) → (password : Option (List UInt8)) → Option (List UInt8)

/-- What one run of the command meets: whether the backup succeeds, the nonces, and which insertions
succeed. -/
structure Environment where
  backedUp : Bool
  nonce : ℕ → FixedBytes 12
  inserted : ℕ → Bool

/-! ### Keystores -/

/-- A keystore directory: the stored texts by public key. -/
abbrev Directory : Type := AList fun _ : List UInt8 => List UInt8

/-- The keystore directories by their paths, without the copies of backups. -/
abbrev Disk : Type := String → Directory

/-- `LocalKeystore`: an open directory, and the password that version 1 reads it with. -/
structure LocalKeystore where
  path : String
  password : Option (List UInt8)

/-- The credentials of a `PasswordKeypairStorage` or a `KmsKeypairStorage`. -/
inductive Credentials where
  | password (secret : Option (List UInt8))
  | kms (keyId : String)

/-- `KeypairStorage` with its `KeystoreContainer`. -/
structure KeypairStorage where
  path : String
  credentials : Credentials
  db : Option LocalKeystore

/-- `PasswordKeypairStorage::new` and `KmsKeypairStorage::new`. -/
def KeypairStorage.new (path : String) (credentials : Credentials) : KeypairStorage :=
  ⟨path, credentials, none⟩

/-- The directory of a round. -/
def roundPath (path : String) (round : UInt32) : String := path ++ "/" ++ toString round.toNat

/-- `load`. -/
def KeypairStorage.load (s : KeypairStorage) (round : UInt32) : KeypairStorage :=
  { s with db := some ⟨roundPath s.path round, none⟩ }

/-- `load_v1`; the KMS keystore panics. -/
def KeypairStorage.loadV1 (s : KeypairStorage) (round : UInt32) (secret : Option (List UInt8)) :
    Option KeypairStorage :=
  match s.credentials with
  | .password _ => some { s with db := some ⟨roundPath s.path round, secret⟩ }
  | .kms _ => none

/-- `keys`. -/
def KeypairStorage.keys (s : KeypairStorage) (disk : Disk) : Option (List (List UInt8)) :=
  s.db.map fun db => (disk db.path).keys

/-- `AppPublic::from_slice`. -/
def publicFromSlice (key : List UInt8) : Option (FixedBytes 33) :=
  if h : key.length = 33 then some ⟨key, h⟩ else none

/-- `raw_keystore_value`. -/
def KeypairStorage.rawKeystoreValue (s : KeypairStorage) (disk : Disk) (key : List UInt8) :
    Option (Option (List UInt8)) := do
  let db ← s.db
  let key ← publicFromSlice key
  return (disk db.path).lookup key.val

/-- The AES key of a password. -/
def aesKey (secret : List UInt8) : List UInt8 := keccak256 secret

/-- `encrypt_key`, in the call with a given number. -/
def Credentials.encryptKey (services : Services) (env : Environment) (call : ℕ)
    (key : List UInt8) : Credentials → Option (List UInt8)
  | .password (some secret) =>
      (services.aesEncrypt (aesKey secret) (env.nonce call) key).map fun ciphertext =>
        (env.nonce call).val ++ ciphertext
  | .password none => some key
  | .kms keyId => services.kmsEncrypt keyId call key

/-- `decrypt_key`. -/
def Credentials.decryptKey (services : Services) (key : List UInt8) :
    Credentials → Option (List UInt8)
  | .password (some secret) =>
      if h : (key.take 12).length = 12 then
        services.aesDecrypt (aesKey secret) ⟨key.take 12, h⟩ (key.drop 12)
      else none
  | .password none => some key
  | .kms keyId => services.kmsDecrypt keyId key

/-- `insert_key`, in the call with a given number. -/
def KeypairStorage.insertKey (s : KeypairStorage) (env : Environment) (call : ℕ) (disk : Disk)
    (publicKey privateKey : List UInt8) : Option Disk := do
  let db ← s.db
  if env.inserted call then
    some (Function.update disk db.path ((disk db.path).insert publicKey (Hex.encode privateKey)))
  else none

/-- The private key that the stored text of a public key stands for, in version 2. -/
def KeypairStorage.privateKey (services : Services) (s : KeypairStorage) (disk : Disk)
    (key : List UInt8) : Option (List UInt8) := do
  let value ← (← s.rawKeystoreValue disk key)
  let decoded ← Hex.decode value
  s.credentials.decryptKey services decoded

/-- Decryption undoes encryption under the same credentials. -/
structure Services.Lawful (services : Services) : Prop where
  aes : ∀ key nonce plaintext ciphertext,
    services.aesEncrypt key nonce plaintext = some ciphertext →
      services.aesDecrypt key nonce ciphertext = some plaintext
  kms : ∀ keyId call plaintext blob, services.kmsEncrypt keyId call plaintext = some blob →
    services.kmsDecrypt keyId blob = some plaintext

/-! ### Signing keys -/

/-- What `get_key` reads. -/
structure KeyAccess where
  services : Services
  storage : KeypairStorage
  disk : Disk
  /-- `raw_keystore_value` fails to read the entry of a key. -/
  unreadable : List UInt8 → Bool
  /-- `public_key` of the private key that a seed is, with `PrivateKey::from_slice`. -/
  publicKey : (seed : List UInt8) → Option (FixedBytes 33)

namespace KeyAccess

variable (access : KeyAccess)

/-- `get_key` for the request of a public key. -/
def getKey (key : FixedBytes 33) : Option (Option (List UInt8)) :=
  if access.unreadable key.val then none
  else
    match access.storage.rawKeystoreValue access.disk key.val with
    | none => none
    | some none => some none
    | some (some value) =>
        match Hex.decode value with
        | none => none
        | some decoded =>
            match access.storage.credentials.decryptKey access.services decoded with
            | none => none
            | some seed => if access.publicKey seed = some key then some (some seed) else none

/-- The private key of a public key. -/
def privateKey (key : FixedBytes 33) : Option (List UInt8) :=
  access.storage.privateKey access.services access.disk key.val

/-- A keystore is loaded, and the entry of the key, if there is one, can be read and decrypted and is
the private key of the key. -/
structure Sound (key : FixedBytes 33) : Prop where
  readable : access.unreadable key.val = false
  loaded : access.storage.db ≠ none
  entry : ∀ db, access.storage.db = some db →
    ∀ text, (access.disk db.path).lookup key.val = some text →
      ∃ seed, access.privateKey key = some seed ∧ access.publicKey seed = some key

end KeyAccess

/-! ### Reading and writing an entry -/

section Entries

variable {services : Services} {env : Environment}

/-- A cipher text is decrypted to what was encrypted. -/
lemma decryptKey_encryptKey (hlawful : services.Lawful) {credentials : Credentials} {call : ℕ}
    {privateKey encrypted : List UInt8}
    (h : credentials.encryptKey services env call privateKey = some encrypted) :
    credentials.decryptKey services encrypted = some privateKey := by
  match credentials with
  | .password none =>
    obtain rfl := Option.some.inj h
    rfl
  | .password (some secret) =>
    obtain ⟨ciphertext, hciphertext, rfl⟩ := Option.map_eq_some_iff.1 h
    have hlen : (env.nonce call).val.length = 12 := (env.nonce call).property
    have htake : ((env.nonce call).val ++ ciphertext).take 12 = (env.nonce call).val :=
      List.take_left' hlen
    have hdrop : ((env.nonce call).val ++ ciphertext).drop 12 = ciphertext :=
      List.drop_left' hlen
    simp only [Credentials.decryptKey, htake, hdrop, hlen, dite_true]
    exact hlawful.aes _ _ _ _ hciphertext
  | .kms keyId => exact hlawful.kms keyId call privateKey encrypted h

variable {s : KeypairStorage} {db : LocalKeystore} {disk : Disk} {key : List UInt8}

/-- The private key in terms of the stored text. -/
lemma privateKey_eq (hdb : s.db = some db) :
    s.privateKey services disk key =
      if key.length = 33 then ((disk db.path).lookup key).bind fun text =>
        (Hex.decode text).bind fun decoded => s.credentials.decryptKey services decoded
      else none := by
  unfold KeypairStorage.privateKey KeypairStorage.rawKeystoreValue publicFromSlice
  by_cases hlen : key.length = 33 <;> simp [hdb, hlen]

end Entries

/-- `get_key` panics on the entries that are not sound, and finds the private keys of the others. -/
theorem KeyAccess.getKey_eq (access : KeyAccess) (key : FixedBytes 33) :
    (access.Sound key → access.getKey key = some (access.privateKey key)) ∧
      (¬ access.Sound key → access.getKey key = none) := by
  have hpublic : publicFromSlice key.val = some key := dif_pos key.property
  unfold KeyAccess.getKey KeypairStorage.rawKeystoreValue
  cases hreadable : access.unreadable key.val with
  | true =>
    refine ⟨fun hsound => ?_, fun _ => rfl⟩
    rw [hsound.readable] at hreadable
    cases hreadable
  | false =>
    cases hdb : access.storage.db with
    | none => exact ⟨fun hsound => absurd hdb hsound.loaded, fun _ => rfl⟩
    | some db =>
      have hprivate : access.privateKey key = _ := (privateKey_eq hdb).trans (if_pos key.property)
      simp only [Bool.false_eq_true, if_false, hpublic, Option.pure_def, Option.bind_eq_bind,
        Option.bind_some]
      cases htext : (access.disk db.path).lookup key.val with
      | none =>
        have hnone : access.privateKey key = none := by rw [hprivate, htext, Option.bind_none]
        refine ⟨fun _ => by rw [hnone], fun hunsound => absurd ⟨hreadable, ?_, ?_⟩ hunsound⟩
        · simp [hdb]
        · intro db' hdb' text htext'
          obtain rfl := Option.some.inj (hdb.symm.trans hdb')
          rw [htext] at htext'
          cases htext'
      | some text =>
        -- what is left is the decoding of the text, its decryption and the check of the public key
        have hsound : access.Sound key ↔
            ∃ seed, access.privateKey key = some seed ∧ access.publicKey seed = some key := by
          refine ⟨fun hsound => hsound.entry db hdb text htext, fun hentry => ?_⟩
          exact ⟨hreadable, by simp [hdb], fun _ _ _ _ => hentry⟩
        rw [hsound, hprivate, htext, Option.bind_some]
        cases hdecoded : Hex.decode text with
        | none => simp [hdecoded]
        | some decoded =>
          cases hseed : access.storage.credentials.decryptKey access.services decoded with
          | none => simp [hdecoded, hseed]
          | some seed =>
            by_cases hkey : access.publicKey seed = some key <;> simp [hdecoded, hseed, hkey]

end Keystore

end BifrostRelayer
