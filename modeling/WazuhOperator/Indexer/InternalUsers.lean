import Mathlib.Data.List.Basic
import Mathlib.Data.List.TakeWhile
import WazuhOperator.Library.PasswordScheme

namespace WazuhOperator
namespace Indexer

open Passwords List

/-!
# The internal users of the indexer

`reconcileSecrets` of `internal/opensearch/reconciler/indexer_reconciler.go`
writes `internal_users.yml`, with the hash of the admin's password, into the
security Secret.  A stored hash that belongs to the password is kept, so that
the salt does not change in every pass.
-/

/-! ## The hashes in a file -/

def quote : UInt8 := 34

/-- `\s` of a regular expression. -/
def isSpace (byte : UInt8) : Bool := byte ∈ [9, 10, 12, 13, 32]

/-- The expression `hash:\s*"([^"]+)"` at the start of the text, with the text in brackets and
what follows the match. -/
def matchHash (text : Bytes) : Option (Bytes × Bytes) := do
  let afterKey <- text.dropPrefix? (bytes "hash:")
  let quoted <- (afterKey.dropWhile isSpace).dropPrefix? [quote]
  let hash := quoted.takeWhile (· ≠ quote)
  let rest <- (quoted.dropWhile (· ≠ quote)).dropPrefix? [quote]
  if hash = [] then none else some (hash, rest)

/-- `FindAllStringSubmatch`, the matches from left to right; `skip` bytes belong to the match
before. -/
def findAllHashes : Nat -> Bytes -> List Bytes
  | _, [] => []
  | skip + 1, _ :: text => findAllHashes skip text
  | 0, byte :: text =>
    match matchHash (byte :: text) with
    | none => findAllHashes 0 text
    | some (hash, rest) => hash :: findAllHashes (text.length - rest.length) text

section Generation

variable {Salt : Type} (bcrypt : Scheme Salt)

/-- `findReusableBcryptHash`; empty if there is none. -/
def findReusableBcryptHash (existingInternalUsers password : Bytes) : Bytes :=
  if existingInternalUsers = [] ∨ password = [] then []
  else ((findAllHashes 0 existingInternalUsers).find? (bcrypt.verifies · password)).getD []

def defaultOpenSearchAdminUsername : Bytes := bytes "admin"

def fallbackHash : Bytes := bytes "$2a$12$VcCDgh2NDk07JGN0rjGbM.Ad41qVR/YFJcgHp0UGns5JDymv..TOG"

def internalUsersStart (adminUsername : Bytes) : Bytes :=
  bytes ("---\n# Internal users configuration\n_meta:\n" ++
      "  type: \"internalusers\"\n  config_version: 2\n\n") ++
    adminUsername ++ bytes ":\n  hash: \""

def internalUsersFile (adminUsername adminHash kibanaHash : Bytes) : Bytes :=
  internalUsersStart adminUsername ++ adminHash ++
    bytes "\"" ++ bytes ("\n  reserved: true\n  backend_roles:\n    - \"admin\"\n" ++
      "  description: \"Default admin user\"\n\nkibanaserver:\n  hash: \"") ++
    kibanaHash ++ bytes "\"\n  reserved: true\n  description: \"Kibana server user\"\n"

def effectiveAdminUsername (adminUsername : Bytes) : Bytes :=
  if adminUsername = [] then defaultOpenSearchAdminUsername else adminUsername

def passwordHash (salt : Salt) (adminPassword existingInternalUsers : Bytes) : Bytes :=
  let reusable := findReusableBcryptHash bcrypt existingInternalUsers adminPassword
  if reusable = [] then (bcrypt.generate salt adminPassword).getD fallbackHash else reusable

def generateDefaultInternalUsers (salt : Salt)
    (adminUsername adminPassword existingInternalUsers : Bytes) : Bytes :=
  let hash := passwordHash bcrypt salt adminPassword existingInternalUsers
  internalUsersFile (effectiveAdminUsername adminUsername) hash hash

end Generation

/-! ## The Secrets -/

/-- The part of `CredentialsSecretRef` that is read here. -/
structure CredentialsRef where
  (secretName usernameKey passwordKey : String := "")

abbrev SecretData := String -> Option Bytes

/-- What `reconcileSecrets` reads, and the answers to its requests.  A Secret that is not found
reads as none. -/
structure SecretsInput (Salt : Type) where
  certificates : Except String Unit
  credentials : Option CredentialsRef
  externalSecret : Except String SecretData
  existingCreds : Except String (Option SecretData)
  randomPassword : Except String Bytes
  createCreds : Except String Unit
  existingSecurity : Except String (Option SecretData)
  writeSecurity : Except String Unit
  salt : Salt

def secretKeyAdminUsername : String := "admin-username"
def secretKeyAdminPassword : String := "admin-password"
def secretKeyInternalUsers : String := "internal_users.yml"

section Secrets

variable {Salt : Type}

def wrapError {α : Type} (text : String) (answer : Except String α) : Except String α :=
  answer.mapError (text ++ ": " ++ ·)

def SecretsInput.external (input : SecretsInput Salt) : Option CredentialsRef :=
  input.credentials.filter (·.secretName ≠ "")

def externalCredentials (input : SecretsInput Salt) : Except String (Bytes × Bytes) :=
  match input.external with
  | none => .ok (defaultOpenSearchAdminUsername, [])
  | some ref => do
      let data <- wrapError ("failed to get external credentials secret " ++ ref.secretName)
        input.externalSecret
      let usernameKey := if ref.usernameKey = "" then "username" else ref.usernameKey
      let passwordKey := if ref.passwordKey = "" then "password" else ref.passwordKey
      match data passwordKey with
      | none => .error ("password key " ++ passwordKey ++ " not found in secret " ++ ref.secretName)
      | some password => .ok ((data usernameKey).getD defaultOpenSearchAdminUsername, password)

def adminCredentials (input : SecretsInput Salt) : Except String (Bytes × Bytes) := do
  let (adminUsername, adminPassword) <- externalCredentials input
  match <- wrapError "failed to get indexer credentials secret" input.existingCreds with
  | none =>
    let password <-
      if adminPassword = [] then
        wrapError "failed to generate admin password" input.randomPassword
      else pure adminPassword
    wrapError "failed to create indexer credentials secret" input.createCreds
    return (adminUsername, password)
  | some data =>
    let stored := (data secretKeyAdminUsername).getD []
    let username :=
      if input.external.isNone ∧ stored ≠ [] then stored else adminUsername
    let password :=
      if adminPassword = [] then (data secretKeyAdminPassword).getD [] else adminPassword
    return (username, password)

/-- `reconcileSecrets`; the result is the file written for the internal users. -/
def reconcileSecrets (bcrypt : Scheme Salt) (input : SecretsInput Salt) :
    Except String Bytes := do
  input.certificates
  let (adminUsername, adminPassword) <- adminCredentials input
  let existing <- wrapError "failed to get existing indexer security secret" input.existingSecurity
  let existingInternalUsers := (existing.bind (· secretKeyInternalUsers)).getD []
  let content := generateDefaultInternalUsers bcrypt input.salt adminUsername adminPassword
    existingInternalUsers
  wrapError "failed to reconcile indexer security secret" input.writeSecurity
  return content

end Secrets

/-! ## Hashes found and hashes written -/

theorem matchHash_unquoted {text hash rest : Bytes} (found : matchHash text = some (hash, rest)) :
    ∀ byte ∈ hash, byte ≠ quote := by
  simp only [matchHash, Option.bind_eq_bind, Option.bind_eq_some_iff, Option.ite_none_left_eq_some,
    Option.some.injEq, Prod.mk.injEq] at found
  rcases found with ⟨_, _, quoted, _, _, _, _, rfl, _⟩
  intro byte member
  simpa using mem_takeWhile_imp member

theorem findAllHashes_unquoted (skip : Nat) (text : Bytes) :
    ∀ hash ∈ findAllHashes skip text, ∀ byte ∈ hash, byte ≠ quote := by
  induction text generalizing skip with
  | nil => simp [findAllHashes]
  | cons _ _ ih =>
    cases skip with
    | succ skip => exact ih skip
    | zero =>
      intro hash member
      rw [findAllHashes] at member
      split at member
      · exact ih 0 hash member
      · next found _ matched =>
          rcases mem_cons.mp member with rfl | later
          · exact matchHash_unquoted matched
          · exact ih _ hash later

section Hash

variable {Salt : Type} {bcrypt : Scheme Salt} {password existing : Bytes}

theorem findReusableBcryptHash_cases : findReusableBcryptHash bcrypt existing password = [] ∨
      bcrypt.verifies (findReusableBcryptHash bcrypt existing password) password ∧
        ∀ byte ∈ findReusableBcryptHash bcrypt existing password, byte ≠ quote := by
  rw [findReusableBcryptHash]
  split
  · exact .inl rfl
  · cases found : (findAllHashes 0 existing).find? (bcrypt.verifies · password) with
    | none => exact .inl rfl
    | some hash =>
      have verified : bcrypt.verifies hash password := by simpa using find?_some found
      have member := mem_of_find?_eq_some found
      exact .inr ⟨verified, findAllHashes_unquoted 0 existing hash member⟩

theorem fallbackHash_unquoted : ∀ byte ∈ fallbackHash, byte ≠ quote := by
  decide +kernel

theorem passwordHash_unquoted (exact : bcrypt.Exact limit (· ≠ quote)) :
    ∀ byte ∈ passwordHash bcrypt salt password existing, byte ≠ quote := by
  simp only [passwordHash]
  split
  · cases generated : bcrypt.generate salt password with
    | none => exact fallbackHash_unquoted
    | some hash => exact exact.generated_alphabet salt password hash generated
  · next found =>
      exact (findReusableBcryptHash_cases.resolve_left found).2

theorem passwordHash_matches_iff (exact : bcrypt.Exact limit (· ≠ quote)) :
    bcrypt.Matches (passwordHash bcrypt salt password existing) password <->
      password.length ≤ limit := by
  constructor
  · intro matching
    by_contra long
    exact exact.not_matches_of_long (by omega) matching
  · intro short
    apply exact.matches_of_verifies
    simp only [passwordHash]
    split
    · rcases Option.isSome_iff_exists.mp ((exact.generate_isSome_iff salt password).mpr short) with
        ⟨hash, generated⟩
      rw [generated]
      exact exact.verifies_generated salt password hash generated
    · next found =>
        exact (findReusableBcryptHash_cases.resolve_left found).1

end Hash

/-- The hash that the file has for the admin: what stands in quotes after its name. -/
def adminHashIn (adminUsername content : Bytes) : Option Bytes :=
  (content.dropPrefix? (internalUsersStart adminUsername)).map (·.takeWhile (· ≠ quote))

/-! ## The admin's hash belongs to the admin's password -/

section Matching

variable {Salt : Type} (bcrypt : Scheme Salt) (input : SecretsInput Salt)

/-- Whenever the Secrets are reconciled, the hash written for the admin belongs to the password
in use, and to no other. -/
def AdminHashMatches : Prop :=
  forall username password, adminCredentials input = .ok (username, password) ->
    forall content, reconcileSecrets bcrypt input = .ok content ->
      exists hash, adminHashIn (effectiveAdminUsername username) content = some hash ∧
        bcrypt.Matches hash password

def SecretsInput.Answered : Prop :=
  input.certificates = .ok () ∧ (exists found, input.existingSecurity = .ok found) ∧
    input.writeSecurity = .ok ()

variable {bcrypt input}

theorem reconcileSecrets_eq_ok_iff {username password content : Bytes}
    (credentials : adminCredentials input = .ok (username, password)) :
    reconcileSecrets bcrypt input = .ok content <->
      input.certificates = .ok () ∧ input.writeSecurity = .ok () ∧
        exists found, input.existingSecurity = .ok found ∧
          content = generateDefaultInternalUsers bcrypt input.salt username password
            ((found.bind (· secretKeyInternalUsers)).getD []) := by
  cases certificates : input.certificates <;> cases security : input.existingSecurity <;>
    cases write : input.writeSecurity <;>
    simp [reconcileSecrets, credentials, certificates, security, write, wrapError, bind,
      Except.bind, pure, Except.pure, Except.mapError, eq_comm]

theorem adminHashIn_generated (exact : bcrypt.Exact 72 (· ≠ quote)) (salt : Salt)
    (username password existing : Bytes) :
    adminHashIn (effectiveAdminUsername username)
        (generateDefaultInternalUsers bcrypt salt username password existing) =
      some (passwordHash bcrypt salt password existing) := by
  have dropped (start rest : Bytes) : (start ++ rest).dropPrefix? start = some rest :=
    dropPrefix?_eq_some_iff.mpr ⟨_, rfl, BEq.rfl⟩
  have stops (rest : Bytes) : (passwordHash bcrypt salt password existing ++ quote :: rest).takeWhile
      (· ≠ quote) = passwordHash bcrypt salt password existing := by
    rw [takeWhile_append_of_pos fun byte member =>
      decide_eq_true (passwordHash_unquoted exact byte member)]
    simp
  have closing : bytes "\"" = [quote] := by decide +kernel
  simp only [generateDefaultInternalUsers, adminHashIn, internalUsersFile, append_assoc, dropped,
    Option.map_some, closing, cons_append, stops]

/-- The admin's hash matches just if a password that is used for it has at most 72 bytes. -/
theorem adminHashMatches_iff (exact : bcrypt.Exact 72 (· ≠ quote)) :
    AdminHashMatches bcrypt input <->
      (input.Answered -> forall username password,
        adminCredentials input = .ok (username, password) -> password.length ≤ 72) := by
  constructor
  · rintro matching ⟨certificates, ⟨found, security⟩, write⟩ username password credentials
    have written : reconcileSecrets bcrypt input = .ok _ :=
      (reconcileSecrets_eq_ok_iff credentials).mpr ⟨certificates, write, found, security, rfl⟩
    rcases matching username password credentials _ written with ⟨hash, stored, belongs⟩
    rw [adminHashIn_generated exact] at stored
    cases stored
    exact (passwordHash_matches_iff exact).mp belongs
  · intro short username password credentials content written
    rcases (reconcileSecrets_eq_ok_iff credentials).mp written with
      ⟨certificates, write, found, security, rfl⟩
    refine ⟨_, adminHashIn_generated exact input.salt username password _, ?_⟩
    apply (passwordHash_matches_iff exact).mpr
    exact short ⟨certificates, ⟨found, security⟩, write⟩ username password credentials

end Matching

namespace Sample

def letters : Bytes -> Bytes
  | [] => []
  | byte :: rest => (65 + byte / 16) :: (65 + byte % 16) :: letters rest

theorem halves_injective (byte another : UInt8) (high : 65 + byte / 16 = 65 + another / 16)
    (low : 65 + byte % 16 = 65 + another % 16) : byte = another := by
  have byteBound : byte.toNat < 256 := byte.toNat_lt
  have anotherBound : another.toNat < 256 := another.toNat_lt
  apply UInt8.toNat_inj.mp
  have highs := congrArg UInt8.toNat high
  have lows := congrArg UInt8.toNat low
  simp [UInt8.toNat_add, UInt8.toNat_div, UInt8.toNat_mod] at highs lows
  omega

theorem letters_injective (one other : Bytes) (same : letters one = letters other) :
    one = other := by
  induction one generalizing other with
  | nil =>
    cases other with
    | nil => rfl
    | cons => cases same
  | cons byte _ ih =>
    cases other with
    | nil => cases same
    | cons another others =>
      simp only [letters, cons.injEq] at same
      rcases same with ⟨high, low, later⟩
      rw [halves_injective byte another high low, ih others later]

theorem letters_isLetter (password : Bytes) : ∀ byte ∈ letters password, 65 ≤ byte.toNat := by
  induction password with
  | nil => simp [letters]
  | cons byte rest ih =>
    have bound : byte.toNat < 256 := byte.toNat_lt
    intro letter member
    rcases mem_cons.mp member with rfl | member
    · simp [UInt8.toNat_add, UInt8.toNat_div]
      omega
    · rcases mem_cons.mp member with rfl | member
      · simp [UInt8.toNat_add, UInt8.toNat_mod]
        omega
      · exact ih letter member

theorem letters_ne_fallbackHash (password : Bytes) : letters password ≠ fallbackHash := by
  intro same
  have letter := letters_isLetter password 36
  rw [same] at letter
  exact absurd (letter (by decide +kernel)) (by decide)

/-- A scheme that spells a password out, and has the fallback as a second hash of `admin`. -/
def spelling : Scheme Bool where
  generate second password :=
    if password.length ≤ 72 then
      some (if second ∧ password = bytes "admin" then fallbackHash else letters password)
    else none
  verifies hash password :=
    password.length ≤ 72 ∧
      (hash = letters password ∨ hash = fallbackHash ∧ password = bytes "admin")

theorem spelling_exact : spelling.Exact 72 (· ≠ quote) where
  generate_isSome_iff second password := by
    simp only [spelling]
    split <;> simp_all
  verifies_generated second password hash generated := by
    simp only [spelling, Option.ite_none_right_eq_some, Option.some.injEq] at generated
    rcases generated with ⟨short, rfl⟩
    simp only [spelling, short, true_and, decide_eq_true_eq]
    split
    · next known => exact .inr ⟨rfl, known.2⟩
    · exact .inl rfl
  verified_unique hash password other verified otherVerified := by
    simp only [spelling, decide_eq_true_eq] at verified otherVerified
    rcases verified.2 with rfl | ⟨rfl, rfl⟩
    · rcases otherVerified.2 with same | ⟨known, _⟩
      · exact (letters_injective password other same).symm
      · exact absurd known (letters_ne_fallbackHash password)
    · rcases otherVerified.2 with known | ⟨_, same⟩
      · exact absurd known.symm (letters_ne_fallbackHash other)
      · exact same
  verified_length hash password verified := by
    simp only [spelling, decide_eq_true_eq] at verified
    exact verified.1
  generated_alphabet second password hash generated := by
    simp only [spelling, Option.ite_none_right_eq_some, Option.some.injEq] at generated
    rcases generated with ⟨_, rfl⟩
    split
    · exact fallbackHash_unquoted
    · rintro _ member rfl
      exact absurd (letters_isLetter password quote member) (by decide)

def firstPass (password : Bytes) : SecretsInput Bool where
  certificates := .ok ()
  credentials := some { secretName := "external" }
  externalSecret := .ok fun key => if key = "password" then some password else none
  existingCreds := .ok none
  randomPassword := .error "not needed"
  createCreds := .ok ()
  existingSecurity := .ok none
  writeSecurity := .ok ()
  salt := false

end Sample

open Sample

/-- A password of 24 bytes. -/
theorem adminHashMatches_iff_short :
    AdminHashMatches spelling (firstPass (replicate 24 97)) := by
  apply (adminHashMatches_iff spelling_exact).mpr
  intro _ username password credentials
  cases credentials
  decide

/-- With a password of 73 bytes, the file has the known hash of `admin`. -/
theorem long_password_admits_admin : let password := replicate 73 97
    exists content, reconcileSecrets spelling (firstPass password) = .ok content ∧
      adminHashIn (bytes "admin") content = some fallbackHash ∧
      spelling.verifies fallbackHash password = false ∧
      spelling.verifies fallbackHash (bytes "admin") := by
  refine ⟨_, rfl, ?_, by decide +kernel, by decide +kernel⟩
  exact adminHashIn_generated spelling_exact false (bytes "admin") (replicate 73 97) []

end Indexer
end WazuhOperator
