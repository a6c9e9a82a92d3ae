import DeviceAuth.Bytes

/-!
**The BLAKE3 hash function,** in its keyed mode and its key derivation mode. The input is cut into
chunks of 1024 bytes, each chunk into blocks of 64. The chunks are the leaves of a binary tree; the
node on top is its root, and the output is read from the root in blocks of 64 bytes.

Main statements: an output has the length asked for (`length_rootBytes`), so a keyed hash always has
32 bytes (`length_keyedHash`).
-/

namespace DeviceAuth.Blake3

/-- The eight words that start every unkeyed chunk. -/
def initialWords : Vector UInt32 8 :=
  #v[0x6a09e667, 0xbb67ae85, 0x3c6ef372, 0xa54ff53a, 0x510e527f, 0x9b05688c, 0x1f83d9ab, 0x5be0cd19]

/-- Marks the first block of a chunk. -/
def chunkStart : UInt32 := 1

/-- Marks the last block of a chunk. -/
def chunkEnd : UInt32 := 2

/-- Marks a node that joins two nodes. -/
def parent : UInt32 := 4

/-- Marks the node on top of the tree. -/
def root : UInt32 := 8

/-- Marks every node of a keyed hash. -/
def keyed : UInt32 := 16

/-- Marks every node that hashes the context of a key derivation. -/
def derivationContext : UInt32 := 32

/-- Marks every node that hashes the key material of a key derivation. -/
def derivationMaterial : UInt32 := 64

/-- Rotates a word to the right. -/
def rotate (word : UInt32) (amount : UInt32) : UInt32 :=
  (word >>> amount) ||| (word <<< (32 - amount))

/-- Mixes two words of the message into one column or diagonal of the state. -/
def mix (state : Vector UInt32 16) (a b c d : Fin 16) (first second : UInt32) :
    Vector UInt32 16 :=
  let a₁ := state[a] + state[b] + first
  let d₁ := rotate (state[d] ^^^ a₁) 16
  let c₁ := state[c] + d₁
  let b₁ := rotate (state[b] ^^^ c₁) 12
  let a₂ := a₁ + b₁ + second
  let d₂ := rotate (d₁ ^^^ a₂) 8
  let c₂ := c₁ + d₂
  let b₂ := rotate (b₁ ^^^ c₂) 7
  (((state.set a a₂).set b b₂).set c c₂).set d d₂

/-- Mixes the message into the columns and then into the diagonals. -/
def round (state message : Vector UInt32 16) : Vector UInt32 16 :=
  let state := mix state 0 4 8 12 message[0] message[1]
  let state := mix state 1 5 9 13 message[2] message[3]
  let state := mix state 2 6 10 14 message[4] message[5]
  let state := mix state 3 7 11 15 message[6] message[7]
  let state := mix state 0 5 10 15 message[8] message[9]
  let state := mix state 1 6 11 12 message[10] message[11]
  let state := mix state 2 7 8 13 message[12] message[13]
  mix state 3 4 9 14 message[14] message[15]

/-- The order of the message words in the next round. -/
def permute (message : Vector UInt32 16) : Vector UInt32 16 :=
  #v[message[2], message[6], message[3], message[10], message[7], message[0], message[4],
    message[13], message[1], message[11], message[12], message[5], message[9], message[14],
    message[15], message[8]]

/-- So many rounds, the message permuted between them. -/
def rounds : Nat → Vector UInt32 16 → Vector UInt32 16 → Vector UInt32 16
  | 0, state, _ => state
  | count + 1, state, message => rounds count (round state message) (permute message)

/-- One node of the tree: what its compression reads. -/
structure Node where
  /-- The words handed down from the block before, or the key. -/
  chaining : Vector UInt32 8
  /-- The words of the block. -/
  block : Vector UInt32 16
  /-- The number of the chunk. -/
  counter : UInt64
  /-- How many bytes of the block are in use. -/
  length : UInt32
  /-- The marks of the node. -/
  flags : UInt32

/-- The sixteen words of a node's compression. -/
def Node.compress (node : Node) : Vector UInt32 16 :=
  let h := node.chaining
  let start : Vector UInt32 16 :=
    #v[h[0], h[1], h[2], h[3], h[4], h[5], h[6], h[7],
      initialWords[0], initialWords[1], initialWords[2], initialWords[3],
      node.counter.toUInt32, (node.counter >>> 32).toUInt32, node.length, node.flags]
  let final := rounds 7 start node.block
  Vector.ofFn fun index =>
    if low : index.val < 8 then final[index] ^^^ final[index.val + 8]
    else final[index] ^^^ h[index.val - 8]

/-- The eight words that a node hands on. -/
def Node.output (node : Node) : Vector UInt32 8 :=
  let words := node.compress
  Vector.ofFn fun index => words[index.val]

/-- The block of the root's output with this number. -/
def Node.rootBlock (node : Node) (number : Nat) : Bytes :=
  let words := { node with counter := UInt64.ofNat number, flags := node.flags ||| root }.compress
  words.toList.flatMap fun word => Bytes.ofNatLE 4 word.toNat

/-- The first `width` bytes of the root's output. -/
def Node.rootBytes (node : Node) (width : Nat) : Bytes :=
  ((List.range ((width + 63) / 64)).flatMap node.rootBlock).take width

/-- The word with these bytes, least significant first. -/
def wordAt (bytes : Bytes) (index : Nat) : UInt32 :=
  UInt32.ofNat (Bytes.toNatLE ((bytes.drop (4 * index)).take 4))

/-- The words of a block, zero where the bytes have ended. -/
def blockWords (bytes : Bytes) : Vector UInt32 16 :=
  Vector.ofFn fun index => wordAt bytes index.val

/-- The words of a key of 32 bytes. -/
def keyWords (bytes : Bytes) : Vector UInt32 8 :=
  Vector.ofFn fun index => wordAt bytes index.val

/-- The last node of a chunk, from its blocks. -/
def chunkNode (counter : UInt64) (flags : UInt32) :
    (starting : UInt32) → Vector UInt32 8 → Bytes → List Bytes → Node
  | starting, chaining, block, [] =>
    ⟨chaining, blockWords block, counter, UInt32.ofNat block.length,
      flags ||| starting ||| chunkEnd⟩
  | starting, chaining, block, next :: rest =>
    let node : Node :=
      ⟨chaining, blockWords block, counter, UInt32.ofNat block.length, flags ||| starting⟩
    chunkNode counter flags 0 node.output next rest

/-- Cuts a list into pieces of `size` elements, of which the last may be shorter. -/
def pieces (size : Nat) (bytes : Bytes) : List Bytes :=
  (List.range ((bytes.length + size - 1) / size)).map fun index =>
    (bytes.drop (size * index)).take size

/-- The node of a chunk of at most 1024 bytes. -/
def leaf (key : Vector UInt32 8) (flags : UInt32) (number : Nat) (chunk : Bytes) : Node :=
  match pieces 64 chunk with
  | [] => chunkNode (UInt64.ofNat number) flags chunkStart key [] []
  | block :: rest => chunkNode (UInt64.ofNat number) flags chunkStart key block rest

/-- The node that joins two nodes. -/
def join (key : Vector UInt32 8) (flags : UInt32) (left right : Node) : Node :=
  ⟨key, left.output ++ right.output, 0, 64, flags ||| parent⟩

/-- Joins neighbours; a node without neighbour moves up as it is. -/
def joinPairs (key : Vector UInt32 8) (flags : UInt32) : List Node → List Node
  | left :: right :: rest => join key flags left right :: joinPairs key flags rest
  | rest => rest

theorem length_joinPairs_le (key : Vector UInt32 8) (flags : UInt32) (nodes : List Node) :
    (joinPairs key flags nodes).length ≤ nodes.length := by
  fun_induction joinPairs key flags nodes with
  | case1 left right rest ih => simp; omega
  | case2 => exact Nat.le_refl _

/-- The top of the tree over a row of nodes. -/
def top (key : Vector UInt32 8) (flags : UInt32) (first : Node) : List Node → Node
  | [] => first
  | second :: rest =>
    top key flags (join key flags first second) (joinPairs key flags rest)
termination_by rest => rest.length
decreasing_by
  have shorter := length_joinPairs_le key flags rest
  simp
  omega

/-- The root of the tree over an input. -/
def rootNode (key : Vector UInt32 8) (flags : UInt32) (input : Bytes) : Node :=
  match (pieces 1024 input).zipIdx with
  | [] => leaf key flags 0 []
  | (chunk, number) :: rest =>
    top key flags (leaf key flags number chunk)
      (rest.map fun (chunk, number) => leaf key flags number chunk)

/-- The hash of an input under a key of 32 bytes. -/
def keyedHash (key input : Bytes) : Bytes :=
  (rootNode (keyWords key) keyed input).rootBytes 32

/-- The first `width` bytes of the key stream that a context derives from key material. -/
def deriveKey (context : String) (material : Bytes) (width : Nat) : Bytes :=
  let contextKey := (rootNode initialWords derivationContext (Bytes.ofText context)).rootBytes 32
  (rootNode (keyWords contextKey) derivationMaterial material).rootBytes width

/-! ### Lengths -/

theorem length_rootBlock (node : Node) (number : Nat) : (node.rootBlock number).length = 64 := by
  simp only [Node.rootBlock, List.length_flatMap, Bytes.length_ofNatLE, List.map_const']
  simp

/-- An output has the length asked for. -/
theorem length_rootBytes (node : Node) (width : Nat) : (node.rootBytes width).length = width := by
  have blocks : ((List.range ((width + 63) / 64)).flatMap node.rootBlock).length
      = 64 * ((width + 63) / 64) := by
    simp only [List.length_flatMap, length_rootBlock, List.map_const', List.sum_replicate_nat,
      List.length_range, Nat.mul_comm]
  simp only [Node.rootBytes, List.length_take, blocks]
  omega

/-- A keyed hash has 32 bytes. -/
theorem length_keyedHash (key input : Bytes) : (keyedHash key input).length = 32 :=
  length_rootBytes _ _

end DeviceAuth.Blake3
