import DeviceTrust.Crypto.Key
/-! # Importing secrets

A private cross-signing key that arrives from storage or from another device is imported only if its
public half is the key that was published for our own identity.
-/

namespace DeviceTrust

/-- The name of a stored secret. Names that are not known here are kept as they are. -/
structure SecretName where
  text : String
  deriving DecidableEq

namespace SecretName

def master : SecretName := ⟨"m.cross_signing.master"⟩

def selfSigning : SecretName := ⟨"m.cross_signing.self_signing"⟩

def userSigning : SecretName := ⟨"m.cross_signing.user_signing"⟩

end SecretName

inductive SecretError where
  | key (name : SecretName) (error : KeyError)
  | doesNotMatch (name : SecretName)
  | unsupported (name : SecretName)
  deriving DecidableEq

def SecretError.message : SecretError → String
  | key name error => "the secret " ++ name.text ++ " is not a valid private key: " ++ error.message
  | doesNotMatch name =>
    "the public key of the imported secret " ++ name.text ++
      " doesn't match the public key that was uploaded to the server"
  | unsupported name => "the secret " ++ name.text ++ " can't be imported"

def checkSecret (name : SecretName) (secret : String) (published : SigningKey) :
    Except SecretError Unit :=
  match SigningKey.ofPrivateText secret with
  | .error error => .error (.key name error)
  | .ok key => if key = published then .ok () else .error (.doesNotMatch name)

structure CrossSigningKeys where
  master : SigningKey
  selfSigning : SigningKey
  userSigning : SigningKey

namespace CrossSigningKeys

def published? (keys : CrossSigningKeys) (name : SecretName) : Option SigningKey :=
  if name = .master then some keys.master
  else if name = .selfSigning then some keys.selfSigning
  else if name = .userSigning then some keys.userSigning
  else none

def check (keys : CrossSigningKeys) (name : SecretName) (secret : String) : Except SecretError Unit :=
  match keys.published? name with
  | some published => checkSecret name secret published
  | none => .error (.unsupported name)

end CrossSigningKeys

end DeviceTrust
