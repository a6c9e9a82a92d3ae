import DeviceAuth.Dictionary

/-!
**Dictionaries with each key once.** `Distinct` holds of the dictionary without entries and is kept
by everything that is done to dictionaries. In such a dictionary the entries are what is found under
their keys (`Distinct.get?_eq_some_iff`), also after some of them have been dropped
(`Distinct.get?_filter`).
-/

namespace DeviceAuth

theorem nodup_eraseDups (list : List String) : list.eraseDups.Nodup := by
  match list with
  | [] => exact List.nodup_nil
  | first :: rest =>
    rw [List.eraseDups_cons]
    refine List.nodup_cons.mpr ⟨fun member => ?_, nodup_eraseDups (rest.filter _)⟩
    have inside := (List.mem_filter.mp (List.mem_eraseDups.mp member)).2
    simp at inside
termination_by list.length
decreasing_by exact Nat.lt_succ_of_le (List.length_filter_le _ _)

namespace Dictionary

variable {α : Type} {key other : String} {value : α} {dictionary : Dictionary α}

/-- The keys, in the order of the list. -/
def keys (dictionary : Dictionary α) : List String :=
  dictionary.map Prod.fst

/-- Each key stands only once. -/
def Distinct (dictionary : Dictionary α) : Prop :=
  dictionary.keys.Nodup

/-! ### Keys -/

theorem mem_keys_iff : key ∈ dictionary.keys ↔ ∃ value, (key, value) ∈ dictionary := by
  simp [keys]

theorem mem_keys_of_get? (found : dictionary.get? key = some value) : key ∈ dictionary.keys :=
  mem_keys_iff.mpr ⟨value, mem_of_get? found⟩

theorem mem_keys_erase : other ∈ (dictionary.erase key).keys ↔
    other ∈ dictionary.keys ∧ other ≠ key := by
  simp [keys, erase]

theorem mem_keys_put : other ∈ (dictionary.put key value).keys ↔
    other = key ∨ other ∈ dictionary.keys := by
  change other ∈ key :: (dictionary.erase key).keys ↔ _
  rw [List.mem_cons, mem_keys_erase]
  by_cases same : other = key <;> simp [same]

theorem keys_update (change : α → α) : (dictionary.update key change).keys = dictionary.keys := by
  simp only [keys, update, List.map_map]
  refine List.map_congr_left fun entry _ => ?_
  simp only [Function.comp_apply]
  split <;> rfl

/-! ### What keeps keys distinct -/

theorem distinct_nil : Distinct ([] : Dictionary α) :=
  List.nodup_nil

theorem Distinct.filter (distinct : dictionary.Distinct) (keeps : String × α → Bool) :
    Distinct (dictionary.filter keeps) :=
  distinct.sublist (List.filter_sublist.map Prod.fst)

theorem Distinct.erase (distinct : dictionary.Distinct) (key : String) :
    (dictionary.erase key).Distinct :=
  distinct.filter _

theorem Distinct.put (distinct : dictionary.Distinct) (key : String) (value : α) :
    (dictionary.put key value).Distinct := by
  refine List.nodup_cons.mpr ⟨fun member => ?_, distinct.erase key⟩
  exact (mem_keys_erase.mp member).2 rfl

theorem Distinct.update (distinct : dictionary.Distinct) (key : String) (change : α → α) :
    (dictionary.update key change).Distinct := by
  rwa [Distinct, keys_update]

/-! ### What is found -/

/-- What is found under a key is its entry. -/
theorem Distinct.get?_eq_some_iff (distinct : dictionary.Distinct) :
    dictionary.get? key = some value ↔ (key, value) ∈ dictionary := by
  refine ⟨mem_of_get?, fun member => ?_⟩
  induction dictionary with
  | nil => cases member
  | cons entry rest ih =>
    obtain ⟨name, held⟩ := entry
    obtain ⟨absent, distinctRest⟩ := List.nodup_cons.mp distinct
    rcases List.mem_cons.mp member with same | later
    · cases same
      simp [get?]
    · have different : name ≠ key := by
        rintro rfl
        exact absent (mem_keys_iff.mpr ⟨value, later⟩)
      rw [get?, if_neg different]
      exact ih distinctRest later

/-- What is found after some entries have been dropped. -/
theorem Distinct.get?_filter (distinct : dictionary.Distinct) (keeps : α → Bool) :
    get? key (dictionary.filter fun entry => keeps entry.2) =
      (dictionary.get? key).filter keeps := by
  refine Option.ext fun value => ?_
  rw [(distinct.filter _).get?_eq_some_iff, Option.filter_eq_some_iff,
    distinct.get?_eq_some_iff, List.mem_filter]

/-- A key without entry is not erased. -/
theorem erase_of_get? (absent : dictionary.get? key = none) :
    dictionary.erase key = dictionary := by
  refine List.filter_eq_self.mpr fun entry member => ?_
  rw [decide_eq_true_eq]
  rintro rfl
  exact not_mem_of_get? absent member

/-- A change that does nothing to what is found does nothing. -/
theorem Distinct.update_eq_self (distinct : dictionary.Distinct) {change : α → α}
    (same : ∀ value, dictionary.get? key = some value → change value = value) :
    dictionary.update key change = dictionary := by
  refine (List.map_congr_left fun entry member => ?_).trans (List.map_id dictionary)
  obtain ⟨name, value⟩ := entry
  split
  · next own =>
    rw [same value (own ▸ distinct.get?_eq_some_iff.mpr member)]
    rfl
  · rfl

end Dictionary

end DeviceAuth
