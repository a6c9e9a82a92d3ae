import DeviceAuth.Json.Record
import DeviceAuth.Proofs.Json.RoundTrip

/-!
**A record is read from the object that it is written as.** Its members have distinct names, so each
field is the value of its member.
-/

namespace DeviceAuth.Json

variable {members : List (String × Json)}

theorem namedMembers?_ofMembers (members : List (String × Json)) :
    namedMembers? (members.map fun member => (some member.1, member.2)) = some members := by
  induction members with
  | nil => rfl
  | cons member members ih =>
    rw [List.map_cons, namedMembers?, ih]
    rfl

theorem namesDistinct_of_nodup (distinct : (members.map Prod.fst).Nodup) :
    namesDistinct members = true := by
  induction members with
  | nil => rfl
  | cons member members ih =>
    rw [List.map_cons, List.nodup_cons] at distinct
    rw [namesDistinct, ih distinct.2, Bool.and_true, List.all_eq_true]
    intro other mem
    rw [bne_iff_ne]
    rintro same
    exact distinct.1 (same ▸ List.mem_map_of_mem mem)

/-- Looked up by name, each member gives its own value. -/
theorem map_lookup (distinct : (members.map Prod.fst).Nodup) :
    (members.map Prod.fst).map (fun name => members.lookup name)
      = members.map fun member => some member.2 := by
  rw [List.map_map]
  refine List.map_congr_left fun member mem => ?_
  induction members with
  | nil => cases mem
  | cons first others ih =>
    rw [List.map_cons, List.nodup_cons] at distinct
    rw [Function.comp_apply, List.lookup_cons]
    rcases List.mem_cons.1 mem with rfl | later
    · rw [beq_self_eq_true]
    · have other : member.1 ≠ first.1 := fun same =>
        distinct.1 (same ▸ List.mem_map_of_mem later)
      rw [beq_eq_false_iff_ne.2 other]
      exact ih distinct.2 later

/-- **The fields of a written record.** -/
theorem fields?_ofMembers {names : List String} (listed : members.map Prod.fst = names)
    (distinct : names.Nodup) :
    (ofMembers members).fields? names = some (members.map fun member => some member.2) := by
  subst listed
  have known : members.filter (fun member => (members.map Prod.fst).contains member.1)
      = members := by
    rw [List.filter_eq_self]
    intro member mem
    rw [List.contains_iff_mem]
    exact List.mem_map_of_mem mem
  rw [ofMembers, fields?, fieldsOfMembers?, namedMembers?_ofMembers]
  simp only [Option.bind_eq_bind, Option.bind_some, known, namesDistinct_of_nodup distinct,
    if_true, map_lookup distinct]
  rfl

theorem signed64?_ofInt (value : Int64) : signed64? (ofInt value.toInt) = some value := by
  have low : -9223372036854775808 ≤ value.toInt := value.le_toInt
  have high : value.toInt < 9223372036854775808 := value.toInt_lt
  rw [signed64?, integerWithin?, ofInt, integer?, Option.bind_some, if_pos ⟨low, by omega⟩,
    Option.map_some, Int64.ofInt_toInt]

theorem word32?_ofNat (value : UInt32) : word32? (ofNat value.toNat) = some value := by
  have high := value.toNat_lt
  rw [word32?, integerWithin?, ofNat, integer?, Option.bind_some, if_pos (by omega),
    Option.map_some, Int.toNat_natCast, UInt32.ofNat_toNat]

end DeviceAuth.Json
