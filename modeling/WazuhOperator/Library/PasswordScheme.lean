import Mathlib.Logic.Basic

namespace Passwords

/-!
# Password hashing

A scheme makes a salted hash of a password, or refuses it, and tells whether a
hash belongs to a password.  Passwords and hashes are byte strings.
-/

abbrev Bytes := List UInt8

def bytes (text : String) : Bytes := text.toUTF8.data.toList

structure Scheme (Salt : Type) where
  generate : Salt -> Bytes -> Option Bytes
  verifies : Bytes -> Bytes -> Bool

namespace Scheme

variable {Salt : Type} {scheme : Scheme Salt} {limit : Nat}

/-- The scheme takes passwords up to the limit, and a hash belongs to one password at most.  Its
hashes are made of the bytes the alphabet allows. -/
structure Exact (scheme : Scheme Salt) (limit : Nat) (alphabet : UInt8 -> Prop) : Prop where
  generate_isSome_iff : forall salt password,
    (scheme.generate salt password).isSome = true <-> password.length ≤ limit
  verifies_generated : forall salt password hash, scheme.generate salt password = some hash ->
    scheme.verifies hash password = true
  verified_unique : forall hash password other, scheme.verifies hash password = true ->
    scheme.verifies hash other = true -> other = password
  verified_length : forall hash password, scheme.verifies hash password = true ->
    password.length ≤ limit
  generated_alphabet : forall salt password hash, scheme.generate salt password = some hash ->
    ∀ byte ∈ hash, alphabet byte

def Matches (scheme : Scheme Salt) (hash password : Bytes) : Prop :=
  forall other, scheme.verifies hash other = true <-> other = password

variable {alphabet : UInt8 -> Prop}

theorem Exact.matches_of_verifies (exact : scheme.Exact limit alphabet) {hash password : Bytes}
    (verified : scheme.verifies hash password) : scheme.Matches hash password := by
  intro other
  constructor
  · exact exact.verified_unique hash password other verified
  · rintro rfl
    exact verified

theorem Exact.not_matches_of_long (exact : scheme.Exact limit alphabet) {hash password : Bytes}
    (long : limit < password.length) : ¬ scheme.Matches hash password := by
  intro matching
  have short := exact.verified_length hash password ((matching password).mpr rfl)
  omega

end Scheme
end Passwords
