import DeviceAuth.Zkp.Checker

/-!
**A Groth16 checker that is shared.** It is used behind a lock: a call that offers a key holds the
lock alone, from the look at what is there until the key is set. If such a call is abandoned, the
lock is broken, and nobody gets at the checker any more; to every later call it is a checker without
a key.
-/

namespace DeviceAuth

/-- A key that is offered to a checker. -/
inductive KeyOffer (δ : Type) where
  /-- The file at a path, with the files as they are at the time. -/
  | file (files : Files.Tree δ) (path : String)
  | key (key : Groth16.VerifyingKey)

/-- Takes what is offered, unless there is a key. -/
def Groth16Checker.take {δ : Type} (checker : Groth16Checker) :
    KeyOffer δ → Except ZkpError Groth16Checker
  | .file files path => checker.load files path
  | .key key => checker.install key

/-- A checker behind a lock. -/
inductive SharedChecker where
  | usable (checker : Groth16Checker)
  /-- A call was abandoned while it held the lock. -/
  | broken

namespace SharedChecker

/-- The checker that has no key yet. -/
def keyless : SharedChecker := .usable .keyless

/-- Whether there is a key. -/
def hasKey : SharedChecker → Bool
  | usable checker => checker.hasKey
  | broken => false

/-- Offers a key: the answer, and the checker after it. -/
def offer {δ : Type} (shared : SharedChecker) (offered : KeyOffer δ) :
    Except ZkpError Unit × SharedChecker :=
  match shared with
  | broken => (.error .notInitialized, broken)
  | usable checker =>
    match checker.take offered with
    | .ok checker => (.ok (), usable checker)
    | .error .overflow => (.error .overflow, broken)
    | .error error => (.error error, usable checker)

/-- Whether a proof is valid for public values. -/
def check (shared : SharedChecker) (proof : Bytes) (values : PublicValues) :
    Except ZkpError Bool :=
  match shared with
  | usable checker => checker.check proof values
  | broken => .error .notInitialized

end SharedChecker

end DeviceAuth
