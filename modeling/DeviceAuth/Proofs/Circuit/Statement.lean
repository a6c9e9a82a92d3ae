import DeviceAuth.Circuit.Authentication
import DeviceAuth.Proofs.Circuit.Satisfaction

/-!
**The circuit says what the statement says.** The constraints of `authentication` can be satisfied
for given public values and a given secret exactly when the commitment is the hash of secret and
device id and the response is the hash of secret and challenge (`authentication_satisfiable_iff`).

* Soundness follows the circuit for an arbitrary assignment, also a dishonest one: a satisfied round
  has the value of a round (`value_permutationRound`), hence a satisfied permutation that of the
  permutation (`value_permutation`), and a satisfied hash that of the hash (`value_hashOf`).
* Completeness follows it for the computed values: each gadget keeps `Solved`
  (`solved_hashOf`), and an equation between hashes is solved since soundness gives both sides.

No property of the round constants is used, and no inverse: each product determines its variable.
-/

namespace DeviceAuth.Circuit

/-! ### Soundness of the gadgets -/

section Soundness

variable {assignment : Assignment}

/-- **A satisfied round has the value of a round.** -/
theorem value_permutationRound (one : assignment .one = 1) (key : Combination)
    (state : Combination × Draft) (constant : Scalar)
    (satisfied : (permutationRound key state constant).2.Satisfied assignment) :
    (permutationRound key state constant).1.value assignment =
        Mimc.fifthPower (state.1.value assignment + key.value assignment + constant) ∧
      state.2.Satisfied assignment := by
  obtain ⟨message, draft⟩ := state
  simp only [permutationRound] at satisfied
  rw [satisfied_multiply, satisfied_multiply, satisfied_multiply] at satisfied
  obtain ⟨fifth, fourth, square, before⟩ := satisfied
  simp only [Draft.multiply, value_ofWire, Combination.value_add, value_ofScalar one]
    at fifth fourth square
  refine ⟨?_, before⟩
  simp only [permutationRound, Draft.multiply, value_ofWire, Mimc.fifthPower]
  rw [square, fourth, fifth]

/-- The rounds with any constants. -/
theorem value_rounds (one : assignment .one = 1) (key : Combination) (constants : List Scalar)
    (state : Combination × Draft)
    (satisfied : (constants.foldl (permutationRound key) state).2.Satisfied assignment) :
    (constants.foldl (permutationRound key) state).1.value assignment =
        Mimc.permute (key.value assignment) constants (state.1.value assignment) ∧
      state.2.Satisfied assignment := by
  induction constants generalizing state with
  | nil => exact ⟨rfl, satisfied⟩
  | cons constant rest ih =>
    obtain ⟨value, after⟩ := ih (permutationRound key state constant) satisfied
    obtain ⟨first, before⟩ := value_permutationRound one key state constant after
    refine ⟨?_, before⟩
    rw [List.foldl_cons, value, first]
    simp only [Mimc.permute, List.foldl_cons]

/-- A satisfied permutation has the value of the permutation. -/
theorem value_permutation (one : assignment .one = 1) (key message : Combination) (draft : Draft)
    (satisfied : (permutation key message draft).2.Satisfied assignment) :
    (permutation key message draft).1.value assignment =
        Mimc.encrypt (key.value assignment) (message.value assignment) ∧
      draft.Satisfied assignment := by
  obtain ⟨last, before⟩ := value_rounds one key Mimc.roundConstants (message, draft) satisfied
  refine ⟨?_, before⟩
  simp only [permutation, Combination.value_add, last, Mimc.encrypt]

/-- A satisfied absorption has the value of the absorption. -/
theorem value_absorb (one : assignment .one = 1) (state : Combination × Draft)
    (block : Combination) (satisfied : (absorb state block).2.Satisfied assignment) :
    (absorb state block).1.value assignment =
        Mimc.absorb (state.1.value assignment) (block.value assignment) ∧
      state.2.Satisfied assignment := by
  obtain ⟨permuted, before⟩ := value_permutation one state.1 block state.2 satisfied
  refine ⟨?_, before⟩
  simp only [absorb, Combination.value_add, permuted, Mimc.absorb]

/-- The blocks absorbed into any state. -/
theorem value_absorbed (one : assignment .one = 1) (blocks : List Combination)
    (state : Combination × Draft)
    (satisfied : (blocks.foldl absorb state).2.Satisfied assignment) :
    (blocks.foldl absorb state).1.value assignment =
        (blocks.map (Combination.value assignment)).foldl Mimc.absorb (state.1.value assignment) ∧
      state.2.Satisfied assignment := by
  induction blocks generalizing state with
  | nil => exact ⟨rfl, satisfied⟩
  | cons block rest ih =>
    obtain ⟨value, after⟩ := ih (absorb state block) satisfied
    obtain ⟨first, before⟩ := value_absorb one state block after
    refine ⟨?_, before⟩
    rw [List.foldl_cons, value, first, List.map_cons, List.foldl_cons]

/-- **A satisfied hash has the value of the hash**, whatever the other variables are. -/
theorem value_hashOf (one : assignment .one = 1) (blocks : List Combination) (draft : Draft)
    (satisfied : (hashOf blocks draft).2.Satisfied assignment) :
    (hashOf blocks draft).1.value assignment =
        Mimc.hash (blocks.map (Combination.value assignment)) ∧
      draft.Satisfied assignment :=
  value_absorbed one blocks ([], draft) satisfied

end Soundness

/-! ### Completeness of the gadgets -/

section Completeness

variable {initial : Values}

/-- A gadget that was applied to a solved draft: the draft is still solved, the combination it gave
is within it, and no variable has gone. -/
structure Gadget (initial : Values) (before : Nat) (state : Combination × Draft) : Prop where
  solved : Solved initial state.2
  within : state.1.Within state.2.hiddenCount
  grown : before ≤ state.2.hiddenCount

/-- **A round keeps a draft solved.** -/
theorem solved_permutationRound {key : Combination} {state : Combination × Draft} {before : Nat}
    (gadget : Gadget initial before state) (keyWithin : key.Within before) (constant : Scalar) :
    Gadget initial before (permutationRound key state constant) := by
  obtain ⟨message, draft⟩ := state
  have base : ((message.add key).add (Combination.ofScalar constant)).Within draft.hiddenCount :=
    (gadget.within.add (keyWithin.mono gadget.grown)).add (.constant constant)
  have square := gadget.solved.multiply base base
  have fourth := square.multiply (.hidden (Nat.lt_succ_self _)) (.hidden (Nat.lt_succ_self _))
  have fifth := fourth.multiply (.hidden (Nat.lt_succ_self _))
    (base.mono (Nat.le_succ_of_le (Nat.le_succ _)))
  exact ⟨fifth, .hidden (Nat.lt_succ_self _), Nat.le_trans gadget.grown (Nat.le_add_right _ 3)⟩

theorem solved_rounds {key : Combination} {before : Nat} (keyWithin : key.Within before)
    (constants : List Scalar) (state : Combination × Draft) (gadget : Gadget initial before state) :
    Gadget initial before (constants.foldl (permutationRound key) state) := by
  induction constants generalizing state with
  | nil => exact gadget
  | cons constant rest ih => exact ih _ (solved_permutationRound gadget keyWithin constant)

theorem solved_permutation {key message : Combination} {draft : Draft}
    (solved : Solved initial draft) (keyWithin : key.Within draft.hiddenCount)
    (messageWithin : message.Within draft.hiddenCount) :
    Gadget initial draft.hiddenCount (permutation key message draft) := by
  have rounds := solved_rounds keyWithin Mimc.roundConstants (message, draft)
    ⟨solved, messageWithin, Nat.le_refl _⟩
  exact ⟨rounds.solved, rounds.within.add (keyWithin.mono rounds.grown), rounds.grown⟩

theorem solved_absorb {state : Combination × Draft} {block : Combination} {before : Nat}
    (gadget : Gadget initial before state) (blockWithin : block.Within before) :
    Gadget initial before (absorb state block) := by
  have inside := blockWithin.mono gadget.grown
  have permuted := solved_permutation gadget.solved gadget.within inside
  exact ⟨permuted.solved,
    (permuted.within.add (gadget.within.mono permuted.grown)).add (inside.mono permuted.grown),
    Nat.le_trans gadget.grown permuted.grown⟩

theorem solved_absorbed {before : Nat} (blocks : List Combination)
    (blocksWithin : ∀ block ∈ blocks, block.Within before) (state : Combination × Draft)
    (gadget : Gadget initial before state) : Gadget initial before (blocks.foldl absorb state) := by
  induction blocks generalizing state with
  | nil => exact gadget
  | cons block rest ih =>
    refine ih (fun other member => blocksWithin other (List.mem_cons_of_mem _ member)) _ ?_
    exact solved_absorb gadget (blocksWithin block List.mem_cons_self)

/-- **A hash keeps a draft solved.** -/
theorem solved_hashOf {draft : Draft} (solved : Solved initial draft) (blocks : List Combination)
    (blocksWithin : ∀ block ∈ blocks, block.Within draft.hiddenCount) :
    Gadget initial draft.hiddenCount (hashOf blocks draft) :=
  solved_absorbed blocks blocksWithin ([], draft) ⟨solved, .nil, Nat.le_refl _⟩

/-- The computed value of a hash. -/
theorem computed_hashOf {draft : Draft} (solved : Solved initial draft) (blocks : List Combination)
    (blocksWithin : ∀ block ∈ blocks, block.Within draft.hiddenCount) :
    (hashOf blocks draft).1.value (initial.complete (hashOf blocks draft).2).assignment =
      Mimc.hash (blocks.map
        (Combination.value (initial.complete (hashOf blocks draft).2).assignment)) :=
  (value_hashOf rfl blocks draft (solved_hashOf solved blocks blocksWithin).solved.satisfied).1

end Completeness

/-! ### The circuit of the statement -/

/-- What the statement claims of a secret. -/
def Statement.Claims (statement : Statement) (secret : Scalar) : Prop :=
  statement.commitment = Mimc.hash [secret, statement.deviceId] ∧
    statement.response = Mimc.hash [secret, statement.challenge]

/-- An assignment with these values for the inputs of the circuit; all other hidden variables are
free. -/
structure Statement.Assigned (statement : Statement) (secret : Scalar) (assignment : Assignment) :
    Prop where
  one : assignment .one = 1
  deviceId : assignment (.shared 0) = statement.deviceId
  challenge : assignment (.shared 1) = statement.challenge
  commitment : assignment (.shared 2) = statement.commitment
  response : assignment (.shared 3) = statement.response
  secret : assignment (.hidden 0) = secret

section Circuit

variable (secret : Scalar) (statement : Statement)

/-- The values that the circuit starts from. -/
def inputValues : Values :=
  ⟨statement.toList.toArray, #[secret]⟩

/-- The computed values of any draft assign the inputs. -/
theorem assigned_complete (draft : Draft) :
    statement.Assigned secret ((inputValues secret statement).complete draft).assignment := by
  have shared := shared_complete (inputValues secret statement) draft
  have hidden := hidden_complete (inputValues secret statement) draft Nat.zero_lt_one
  constructor <;>
    simp only [Values.assignment, Array.getD_eq_getD_getElem?, shared, hidden] <;> rfl

/-- **Every satisfying assignment** carries a true statement. -/
theorem claims_of_satisfied {assignment : Assignment}
    (assigned : statement.Assigned secret assignment)
    (satisfied : authentication.Satisfied assignment) : statement.Claims secret := by
  simp only [authentication] at satisfied
  rw [satisfied_equate _ _ _ assigned.one] at satisfied
  obtain ⟨response, satisfied⟩ := satisfied
  obtain ⟨responseHash, satisfied⟩ := value_hashOf assigned.one _ _ satisfied
  rw [satisfied_equate _ _ _ assigned.one] at satisfied
  obtain ⟨commitment, satisfied⟩ := satisfied
  obtain ⟨commitmentHash, _⟩ := value_hashOf assigned.one _ _ satisfied
  rw [responseHash] at response
  rw [commitmentHash] at commitment
  simp only [List.map_cons, List.map_nil, value_ofWire, assigned.secret, assigned.deviceId,
    assigned.challenge, assigned.commitment, assigned.response] at response commitment
  exact ⟨commitment.symm, response.symm⟩

/-- Binding a public variable to the hash of the secret and another one keeps a draft solved, if the
statement says that it is this hash. -/
theorem solved_binding {draft : Draft} (solved : Solved (inputValues secret statement) draft)
    (positive : 1 ≤ draft.hiddenCount) (input output : Nat)
    (claim : ∀ assignment, statement.Assigned secret assignment →
      assignment (.shared output) = Mimc.hash [secret, assignment (.shared input)]) :
    let hashed := hashOf [Combination.ofWire (.hidden 0), Combination.ofWire (.shared input)] draft
    Solved (inputValues secret statement)
        (hashed.2.equate hashed.1 (Combination.ofWire (.shared output))) ∧
      1 ≤ hashed.2.hiddenCount := by
  intro hashed
  have inside : ∀ block ∈ [Combination.ofWire (.hidden 0), Combination.ofWire (.shared input)],
      block.Within draft.hiddenCount := by
    intro block member
    simp only [List.mem_cons, List.not_mem_nil, or_false] at member
    rcases member with rfl | rfl
    · exact .hidden positive
    · exact .shared input
  have gadget : Gadget _ _ hashed := solved_hashOf solved _ inside
  have inputs := assigned_complete secret statement hashed.2
  refine ⟨gadget.solved.equate gadget.within (.shared output) ?_,
    Nat.le_trans positive gadget.grown⟩
  rw [computed_hashOf solved _ inside]
  simp only [List.map_cons, List.map_nil, value_ofWire]
  rw [inputs.secret, claim _ inputs]

/-- **The computed values** of a true statement satisfy the circuit. -/
theorem solved_authentication (claims : statement.Claims secret) :
    Solved (inputValues secret statement) authentication := by
  have start := Solved.start (inputValues secret statement) publicCount
  obtain ⟨commitment, positive⟩ := solved_binding secret statement start (Nat.le_refl 1) 0 2
    fun _ assigned => by rw [assigned.commitment, assigned.deviceId, claims.1]
  obtain ⟨response, _⟩ := solved_binding secret statement commitment positive 1 3
    fun _ assigned => by rw [assigned.response, assigned.challenge, claims.2]
  simp only [authentication]
  exact response

/-- **The constraints can be satisfied exactly for true statements.** Every assignment that
satisfies them, honest or not, carries a true statement, and the computed values, which always hold
the inputs, satisfy them exactly when the statement is true. -/
theorem authentication_satisfiable_iff :
    ((∃ assignment, statement.Assigned secret assignment ∧ authentication.Satisfied assignment) ↔
        statement.Claims secret) ∧
      (∀ assignment, statement.Assigned secret assignment →
        authentication.Satisfied assignment → statement.Claims secret) ∧
      statement.Assigned secret (authenticationValues secret statement).assignment ∧
      (authentication.Satisfied (authenticationValues secret statement).assignment ↔
        statement.Claims secret) := by
  have sound : ∀ assignment, statement.Assigned secret assignment →
      authentication.Satisfied assignment → statement.Claims secret :=
    fun _ => claims_of_satisfied secret statement
  have computed : statement.Assigned secret (authenticationValues secret statement).assignment :=
    assigned_complete secret statement authentication
  have complete : statement.Claims secret →
      authentication.Satisfied (authenticationValues secret statement).assignment :=
    fun claims => (solved_authentication secret statement claims).satisfied
  refine ⟨⟨?_, fun claims => ⟨_, computed, complete claims⟩⟩, sound, computed,
    ⟨sound _ computed, complete⟩⟩
  rintro ⟨assignment, assigned, satisfied⟩
  exact sound assignment assigned satisfied

end Circuit

end DeviceAuth.Circuit
