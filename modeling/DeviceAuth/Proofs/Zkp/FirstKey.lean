import DeviceAuth.Proofs.Zkp.Checking
import DeviceAuth.Proofs.Zkp.OverlongKey
import DeviceAuth.Zkp.SharedChecker
import Mathlib

/-!
**Which key a checker has.** Keys are offered in any number and any order, by themselves and in
files that change in between. The first one that can be read and has a point for each public input
stays, and from then on no offer is looked at.

One kind of file stands in the way: where the length of the points is beyond all memory
(`IsOverlong`), the call is abandoned instead of being answered, and breaks the lock.

* `SharedChecker.offer_keyless_of_valid`, `offer_keyless_of_invalid`, `offer_keyless_of_overlong`,
  `offer_some`: what an offer comes to.
* `SharedChecker.after_eq`: after offers that are all answered, the checker has the first valid key.
* `first_key_stays_iff`: the first valid key stays exactly if no such file is offered before it.
-/

namespace DeviceAuth

open Curve Groth16

/-! ### Offers -/

section Offers

variable {δ : Type}

namespace KeyOffer

/-- The key that is offered, if it can be read. -/
def read : KeyOffer δ → Except ZkpError Groth16.VerifyingKey
  | file files path => verifyingKeyAt files path
  | key offered => .ok offered

/-- The key that is offered, if it can be read and fits the circuit. -/
def valid? (offered : KeyOffer δ) : Option Groth16.VerifyingKey :=
  offered.read.toOption.filter fun key => key.Fits

/-- A file with an overlong key. -/
def Overlong : KeyOffer δ → Prop
  | file files path => ∃ bytes, files.read path = .ok bytes ∧ IsOverlong bytes
  | key _ => False

variable {offered : KeyOffer δ}

theorem read_eq_overflow_iff : offered.read = .error .overflow ↔ offered.Overlong := by
  cases offered with
  | file files path =>
    simp only [read, verifyingKeyAt, Overlong]
    rcases files.read path with fault | bytes
    · simp
    · simp [readVerifyingKey_eq_overflow_iff]
  | key offered => simp [read, Overlong]

theorem valid?_eq_some_iff {key : Groth16.VerifyingKey} :
    offered.valid? = some key ↔ offered.read = .ok key ∧ key.Fits := by
  rcases found : offered.read with error | candidate
  · simp [valid?, found, Except.toOption]
  · simp only [valid?, found, Except.toOption, Option.filter_eq_some_iff, Option.some.injEq,
      decide_eq_true_eq, Except.ok.injEq]

end KeyOffer

/-- Without a key, a checker takes the key that it reads, if that fits. -/
theorem Groth16Checker.take_keyless (offered : KeyOffer δ) :
    keyless.take offered = (offered.read >>= checkKey).map fun key => ⟨some key⟩ := by
  have taken (key : Groth16.VerifyingKey) :
      (do return ⟨some (← checkKey key)⟩ : Except ZkpError Groth16Checker) =
        (checkKey key).map fun key => ⟨some key⟩ := by
    rcases checkKey key <;> rfl
  cases offered with
  | file files path =>
    change (verifyingKeyAt files path >>= fun key => do return ⟨some (← checkKey key)⟩ :
      Except ZkpError Groth16Checker) = _
    simp only [KeyOffer.read, taken]
    rcases verifyingKeyAt files path <;> rfl
  | key offered => exact taken offered

namespace SharedChecker

variable {offered : KeyOffer δ} {key : Groth16.VerifyingKey}

/-- The first key that is valid is taken. -/
theorem offer_keyless_of_valid (valid : offered.valid? = some key) :
    keyless.offer offered = (.ok (), .usable ⟨some key⟩) := by
  obtain ⟨found, fits⟩ := KeyOffer.valid?_eq_some_iff.mp valid
  have taken : Groth16Checker.keyless.take offered = .ok ⟨some key⟩ := by
    rw [Groth16Checker.take_keyless, found]
    exact congrArg (Except.map _) (Groth16Checker.checkKey_of_fits fits)
  rw [keyless, offer, taken]

/-- What is not valid is refused with an error, and nothing is taken. -/
theorem offer_keyless_of_invalid (invalid : offered.valid? = none) (short : ¬ offered.Overlong) :
    ∃ error, error ≠ .overflow ∧ keyless.offer offered = (.error error, keyless) := by
  obtain ⟨error, answered, refused⟩ : ∃ error, error ≠ ZkpError.overflow ∧
      Groth16Checker.keyless.take offered = .error error := by
    rw [Groth16Checker.take_keyless]
    rcases found : offered.read with error | key
    · refine ⟨error, fun same => short ?_, rfl⟩
      rw [← KeyOffer.read_eq_overflow_iff, found, same]
    · have misfit : ¬ key.Fits := fun fits => by
        rw [KeyOffer.valid?_eq_some_iff.mpr ⟨found, fits⟩] at invalid
        cases invalid
      obtain ⟨detail, refused⟩ := Groth16Checker.checkKey_of_not_fits misfit
      exact ⟨.keySerialization detail, nofun, congrArg (Except.map _) refused⟩
  refine ⟨error, answered, ?_⟩
  rw [keyless, offer, refused]
  cases error <;> first | rfl | exact absurd rfl answered

/-- An overlong key breaks the lock. -/
theorem offer_keyless_of_overlong (overlong : offered.Overlong) :
    keyless.offer offered = (.error .overflow, .broken) := by
  have failed : Groth16Checker.keyless.take offered = .error .overflow := by
    rw [Groth16Checker.take_keyless, KeyOffer.read_eq_overflow_iff.mpr overlong]
    rfl
  rw [keyless, offer, failed]

/-- Once there is a key, an offer is not looked at. -/
theorem offer_some (key : Groth16.VerifyingKey) (offered : KeyOffer δ) :
    (usable ⟨some key⟩).offer offered = (.ok (), .usable ⟨some key⟩) := by
  cases offered <;> rfl

/-- The checker after some offers, one after the other. -/
def after (offers : List (KeyOffer δ)) : SharedChecker :=
  offers.foldl (fun shared offered => (shared.offer offered).2) keyless

theorem after_concat (offers : List (KeyOffer δ)) (offered : KeyOffer δ) :
    after (offers ++ [offered]) = ((after offers).offer offered).2 :=
  List.foldl_append

/-- A broken lock stays broken. -/
theorem after_append_of_broken {offers : List (KeyOffer δ)} (broken : after offers = .broken)
    (later : List (KeyOffer δ)) : after (offers ++ later) = .broken := by
  induction later using List.reverseRecOn with
  | nil => rwa [List.append_nil]
  | append_singleton later offered ih => rw [← List.append_assoc, after_concat, ih, offer]

end SharedChecker

/-! ### The first valid key -/

/-- The first valid key among some offers. -/
def firstKey? (offers : List (KeyOffer δ)) : Option Groth16.VerifyingKey :=
  offers.findSome? KeyOffer.valid?

theorem firstKey?_concat (offers : List (KeyOffer δ)) (offered : KeyOffer δ) :
    firstKey? (offers ++ [offered]) = (firstKey? offers).or offered.valid? := by
  rw [firstKey?, List.findSome?_append, List.findSome?_singleton, firstKey?]

/-- A key that is first fits the circuit. -/
theorem fits_of_firstKey? {offers : List (KeyOffer δ)} {key : Groth16.VerifyingKey}
    (first : firstKey? offers = some key) : key.Fits := by
  obtain ⟨offered, -, valid⟩ := List.exists_of_findSome?_eq_some first
  exact (KeyOffer.valid?_eq_some_iff.mp valid).2

/-- No overlong key is offered while there is no valid one. -/
def Answerable (offers : List (KeyOffer δ)) : Prop :=
  ∀ earlier offered, earlier ++ [offered] <+: offers → firstKey? earlier = none →
    ¬ offered.Overlong

theorem Answerable.of_prefix {offers made : List (KeyOffer δ)} (answerable : Answerable offers)
    (early : made <+: offers) : Answerable made :=
  fun earlier offered before => answerable earlier offered (before.trans early)

theorem answerable_concat {offers : List (KeyOffer δ)} {offered : KeyOffer δ} :
    Answerable (offers ++ [offered]) ↔
      Answerable offers ∧ (firstKey? offers = none → ¬ offered.Overlong) := by
  constructor
  · intro answerable
    exact ⟨answerable.of_prefix (List.prefix_append _ _),
      answerable offers offered (List.prefix_refl _)⟩
  · rintro ⟨answerable, short⟩ earlier latest before
    rcases List.prefix_concat_iff.mp before with whole | before
    · obtain ⟨rfl, same⟩ := List.append_inj' whole rfl
      cases same
      exact short
    · exact answerable earlier latest before

/-- **After offers that are all answered, a checker has the first valid key.** -/
theorem SharedChecker.after_eq {offers : List (KeyOffer δ)} (answerable : Answerable offers) :
    after offers = .usable ⟨firstKey? offers⟩ := by
  induction offers using List.reverseRecOn with
  | nil => rfl
  | append_singleton offers offered ih =>
    obtain ⟨answerable, short⟩ := answerable_concat.mp answerable
    rw [after_concat, ih answerable, firstKey?_concat]
    rcases first : firstKey? offers with _ | key
    · change (keyless.offer offered).2 = _
      rcases valid : offered.valid? with _ | key
      · obtain ⟨error, -, refused⟩ := offer_keyless_of_invalid valid (short first)
        rw [refused]
        rfl
      · rw [offer_keyless_of_valid valid]
        rfl
    · rw [offer_some]
      rfl

/-- **The first valid key stays** along some offers, and the checker has no key before it. -/
structure FirstKeyStays (offers : List (KeyOffer δ)) : Prop where
  /-- There is a key from the first valid one on. -/
  hasKey_eq : ∀ made, made <+: offers →
    (SharedChecker.after made).hasKey = (firstKey? made).isSome
  /-- Until then, all that is offered without being valid is answered with an error. -/
  refused : ∀ made offered, made ++ [offered] <+: offers →
    firstKey? (made ++ [offered]) = none →
      ∃ error, error ≠ .overflow ∧ ((SharedChecker.after made).offer offered).1 = .error error
  /-- Until then, no proof is checked. -/
  unchecked : ∀ made, made <+: offers → firstKey? made = none →
    ∀ proof values, (SharedChecker.after made).check proof values = .error .notInitialized
  /-- From then on, all is answered with success. -/
  accepted : ∀ made offered, made ++ [offered] <+: offers →
    firstKey? (made ++ [offered]) ≠ none →
      ((SharedChecker.after made).offer offered).1 = .ok ()
  /-- From then on, nothing that is offered is looked at, whatever it is. -/
  unread : ∀ made, made <+: offers → firstKey? made ≠ none → ∀ offered : KeyOffer δ,
    (SharedChecker.after made).offer offered = (.ok (), SharedChecker.after made)
  /-- From then on, proofs are checked under this key, and all that can be at fault is the input. -/
  checked : ∀ made key, made <+: offers → firstKey? made = some key → ∀ proof values,
    (SharedChecker.after made).check proof values =
        (Groth16Checker.mk (some key)).check proof values ∧
      ∀ detail, (SharedChecker.after made).check proof values ≠ .error (.verificationFailed detail)

namespace FirstKeyStays

theorem of_answerable {offers : List (KeyOffer δ)} (answerable : Answerable offers) :
    FirstKeyStays offers := by
  have after_eq {made : List (KeyOffer δ)} (early : made <+: offers) :=
    SharedChecker.after_eq (answerable.of_prefix early)
  have earlier {made : List (KeyOffer δ)} {offered : KeyOffer δ}
      (early : made ++ [offered] <+: offers) : made <+: offers :=
    (List.prefix_append _ _).trans early
  constructor
  case hasKey_eq =>
    intro made early
    rw [after_eq early]
    rfl
  case refused =>
    intro made offered early missing
    rw [firstKey?_concat, Option.or_eq_none_iff] at missing
    obtain ⟨missing, invalid⟩ := missing
    obtain ⟨error, answered, refused⟩ := SharedChecker.offer_keyless_of_invalid invalid
      (answerable made offered early missing)
    refine ⟨error, answered, ?_⟩
    rw [after_eq (earlier early), missing]
    exact congrArg Prod.fst refused
  case unchecked =>
    intro made early missing proof values
    rw [after_eq early, missing]
    rfl
  case accepted =>
    intro made offered early present
    rw [after_eq (earlier early)]
    rcases first : firstKey? made with _ | key
    · rw [firstKey?_concat, first, Option.none_or, Option.ne_none_iff_exists'] at present
      obtain ⟨key, valid⟩ := present
      exact congrArg Prod.fst (SharedChecker.offer_keyless_of_valid valid)
    · rw [SharedChecker.offer_some]
  case unread =>
    intro made early present offered
    obtain ⟨key, first⟩ := Option.ne_none_iff_exists'.mp present
    rw [after_eq early, first, SharedChecker.offer_some]
  case checked =>
    intro made key early first proof values
    rw [after_eq early, first]
    refine ⟨rfl, fun detail failed => ?_⟩
    cases Groth16Checker.malformed_of_check (fits_of_firstKey? first) failed

theorem of_prefix {offers made : List (KeyOffer δ)} (stays : FirstKeyStays offers)
    (early : made <+: offers) : FirstKeyStays made where
  hasKey_eq earlier before := stays.hasKey_eq earlier (before.trans early)
  refused earlier offered before := stays.refused earlier offered (before.trans early)
  unchecked earlier before := stays.unchecked earlier (before.trans early)
  accepted earlier offered before := stays.accepted earlier offered (before.trans early)
  unread earlier before := stays.unread earlier (before.trans early)
  checked earlier key before := stays.checked earlier key (before.trans early)

/-- Where the first key stays, every offer was answered: the first overlong one would have been
abandoned. -/
theorem answerable {offers : List (KeyOffer δ)} (stays : FirstKeyStays offers) :
    Answerable offers := by
  induction offers using List.reverseRecOn with
  | nil =>
    intro earlier offered before
    simp at before
  | append_singleton offers offered ih =>
    have earlier := ih (stays.of_prefix (List.prefix_append _ _))
    refine answerable_concat.mpr ⟨earlier, fun missing overlong => ?_⟩
    have invalid : offered.valid? = none := by
      refine Option.eq_none_iff_forall_ne_some.mpr fun key valid => ?_
      have found := (KeyOffer.valid?_eq_some_iff.mp valid).1
      rw [KeyOffer.read_eq_overflow_iff.mpr overlong] at found
      cases found
    obtain ⟨error, answered, refused⟩ := stays.refused offers offered (List.prefix_refl _)
      (by rw [firstKey?_concat, missing, invalid]; rfl)
    have abandoned : ((SharedChecker.after offers).offer offered).1 = .error .overflow := by
      rw [SharedChecker.after_eq earlier, missing]
      exact congrArg Prod.fst (SharedChecker.offer_keyless_of_overlong overlong)
    rw [abandoned] at refused
    cases refused
    exact answered rfl

end FirstKeyStays

/-- **The first valid key stays, and only an overlong key can keep it away.** Along any offers, the
first valid key is taken and stays exactly if no overlong key is offered before it. The first
overlong key is not answered, and breaks the lock: whatever is offered after it, the checker has no
key, and no proof is checked. -/
theorem first_key_stays_iff (offers : List (KeyOffer δ)) :
    (FirstKeyStays offers ↔ Answerable offers) ∧
      (Answerable offers → firstKey? offers = none → ∀ offered : KeyOffer δ, offered.Overlong →
        ((SharedChecker.after offers).offer offered).1 = .error .overflow ∧
        ∀ later, SharedChecker.after (offers ++ [offered] ++ later) = .broken) := by
  refine ⟨⟨FirstKeyStays.answerable, FirstKeyStays.of_answerable⟩, ?_⟩
  intro answerable missing offered overlong
  have abandoned : (SharedChecker.after offers).offer offered = (.error .overflow, .broken) := by
    rw [SharedChecker.after_eq answerable, missing]
    exact SharedChecker.offer_keyless_of_overlong overlong
  refine ⟨congrArg Prod.fst abandoned, SharedChecker.after_append_of_broken ?_⟩
  rw [SharedChecker.after_concat, abandoned]

end Offers

namespace Sample

open Groth16

/-- A key that fits the circuit, with all points at infinity. -/
def infiniteKey : VerifyingKey :=
  ⟨.infinity, .infinity, .infinity, .infinity, List.replicate 5 .infinity⟩

/-- A key that gives the greatest number there is as the length of its points. -/
def overlongBytes : Bytes :=
  writePoint1 .infinity ++ writePoint2 .infinity ++ writePoint2 .infinity ++ writePoint2 .infinity
    ++ List.replicate 8 0xff

/-- A tree with one file. -/
def oneFile (content : Bytes) : Files.Tree Unit :=
  Files.Tree.empty.insert ["work", "file"] (.file content)

theorem read_oneFile (content : Bytes) : (oneFile content).read "file" = .ok content := by cbv

def overlongFile : KeyOffer Unit :=
  .file (oneFile overlongBytes) "file"

end Sample

/-- A valid key that is offered after an overlong one is never taken. -/
theorem first_key_stays_iff_overlong :
    Sample.infiniteKey.Fits ∧
      ¬ FirstKeyStays [Sample.overlongFile, .key Sample.infiniteKey] ∧
      SharedChecker.after [Sample.overlongFile, .key Sample.infiniteKey] = .broken := by
  have overlong : Sample.overlongFile.Overlong :=
    ⟨_, Sample.read_oneFile _, readVerifyingKey_eq_overflow_iff.mp (by decide +kernel)⟩
  have start : Answerable ([] : List (KeyOffer Unit)) := fun _ _ before => by simp at before
  refine ⟨by decide, fun stays => ?_, ?_⟩
  · exact (first_key_stays_iff _).1.mp stays [] Sample.overlongFile ⟨_, rfl⟩ rfl overlong
  · exact ((first_key_stays_iff []).2 start rfl Sample.overlongFile overlong).2 _

end DeviceAuth
