import DeviceAuth.Circuit.Authentication

/-!
**What a gadget adds to a draft.**

* `hashOf_above`: a gadget reads nothing of a draft but its count of hidden variables. On top of
  earlier constraints it gives the same combination and adds the same constraints.
* `grown_hashOf`: a product adds one hidden variable and one constraint, and nothing else adds any.
  That makes three for a round and 330 for each block of a hash.
-/

namespace DeviceAuth.Circuit

/-! ### Earlier constraints -/

/-- The draft on top of earlier constraints. -/
def Draft.above (earlier : List Constraint) (draft : Draft) : Draft :=
  { draft with constraints := draft.constraints ++ earlier }

/-- What a gadget gives, on top of earlier constraints. -/
def above (earlier : List Constraint) (state : Combination × Draft) : Combination × Draft :=
  (state.1, state.2.above earlier)

section Above

variable (earlier : List Constraint)

theorem permutationRound_above (key : Combination) (state : Combination × Draft)
    (constant : Scalar) :
    permutationRound key (above earlier state) constant =
      above earlier (permutationRound key state constant) :=
  rfl

theorem rounds_above (key : Combination) (constants : List Scalar) (state : Combination × Draft) :
    constants.foldl (permutationRound key) (above earlier state) =
      above earlier (constants.foldl (permutationRound key) state) :=
  List.foldl_hom (above earlier) (permutationRound_above earlier key)

theorem permutation_above (key message : Combination) (draft : Draft) :
    permutation key message (draft.above earlier) =
      above earlier (permutation key message draft) := by
  have rounds := rounds_above earlier key Mimc.roundConstants (message, draft)
  simp only [permutation, above] at rounds ⊢
  rw [rounds]

theorem absorb_above (state : Combination × Draft) (block : Combination) :
    absorb (above earlier state) block = above earlier (absorb state block) := by
  simp only [absorb, above, permutation_above]

/-- **A hash on top of earlier constraints** leaves them at the bottom and adds what it adds to a
draft without them. -/
theorem hashOf_above (blocks : List Combination) (draft : Draft) :
    hashOf blocks (draft.above earlier) = above earlier (hashOf blocks draft) := by
  have absorbed : blocks.foldl absorb (above earlier ([], draft)) =
      above earlier (blocks.foldl absorb ([], draft)) :=
    List.foldl_hom (above earlier) (absorb_above earlier)
  exact absorbed

end Above

/-! ### Counts -/

/-- A draft with so many more hidden variables and constraints, and the same public variables. -/
structure Draft.Grown (count : Nat) (before after : Draft) : Prop where
  shared : after.sharedCount = before.sharedCount
  hidden : after.hiddenCount = before.hiddenCount + count
  constraints : after.constraints.length = before.constraints.length + count

/-- Steps that add so many each, for each entry of a list. -/
theorem grown_foldl {α : Type} {step : Combination × Draft → α → Combination × Draft} {count : Nat}
    (grown : ∀ state entry, Draft.Grown count state.2 (step state entry).2) (entries : List α)
    (state : Combination × Draft) :
    Draft.Grown (count * entries.length) state.2 (entries.foldl step state).2 := by
  induction entries generalizing state with
  | nil => exact ⟨rfl, rfl, rfl⟩
  | cons entry rest ih =>
    have first := grown state entry
    have others := ih (step state entry)
    rw [List.foldl_cons, List.length_cons, Nat.mul_succ]
    refine ⟨others.shared.trans first.shared, ?_, ?_⟩
    · rw [others.hidden, first.hidden]
      omega
    · rw [others.constraints, first.constraints]
      omega

/-- A round is three products. -/
theorem grown_permutationRound (key : Combination) (state : Combination × Draft)
    (constant : Scalar) : Draft.Grown 3 state.2 (permutationRound key state constant).2 :=
  ⟨rfl, rfl, rfl⟩

theorem grown_absorb (state : Combination × Draft) (block : Combination) :
    Draft.Grown 330 state.2 (absorb state block).2 := by
  have rounds := grown_foldl (grown_permutationRound state.1) Mimc.roundConstants (block, state.2)
  rwa [Mimc.length_roundConstants] at rounds

/-- **A hash is 330 products for each block.** -/
theorem grown_hashOf (blocks : List Combination) (draft : Draft) :
    Draft.Grown (330 * blocks.length) draft (hashOf blocks draft).2 :=
  grown_foldl grown_absorb blocks ([], draft)

end DeviceAuth.Circuit
