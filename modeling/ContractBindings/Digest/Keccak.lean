/-!
# Keccak-256

The digest behind selectors, topics and address checksums: the sponge over the permutation
of 1600 bits, with a rate of 136 bytes and the padding that begins with the byte `0x01`.

The state is twenty-five lanes of 64 bits; lane `x + 5 * y` stands in column `x` of row
`y`. A round is the composition of the five step mappings of the permutation: `theta`,
`rhoPi` for two of them, `chi` and `iota`.
-/

namespace ContractBindings

namespace Keccak

/-- The twenty-five lanes of the state, row by row. -/
abbrev State := Vector UInt64 25

/-- The lane in column `x` of row `y`, both taken modulo five. -/
def lane (state : State) (x y : Nat) : UInt64 :=
  state[x % 5 + 5 * (y % 5)]

/-- A state given by its lanes. -/
def ofLanes (f : Nat → Nat → UInt64) : State :=
  .ofFn fun i => f (i.val % 5) (i.val / 5)

/-- Rotation of a lane to the left. -/
def rotate (word : UInt64) (amount : UInt64) : UInt64 :=
  if amount = 0 then word else word <<< amount ||| word >>> (64 - amount)

/-- The amounts by which `rhoPi` rotates, row by row. -/
def rotations : Vector UInt64 25 :=
  #v[0, 1, 62, 28, 27,
     36, 44, 6, 55, 20,
     3, 10, 43, 25, 39,
     41, 45, 15, 21, 8,
     18, 2, 61, 56, 14]

/-- The constants that `iota` adds, one for each round. -/
def roundConstants : List UInt64 :=
  [0x0000000000000001, 0x0000000000008082, 0x800000000000808A, 0x8000000080008000,
   0x000000000000808B, 0x0000000080000001, 0x8000000080008081, 0x8000000000008009,
   0x000000000000008A, 0x0000000000000088, 0x0000000080008009, 0x000000008000000A,
   0x000000008000808B, 0x800000000000008B, 0x8000000000008089, 0x8000000000008003,
   0x8000000000008002, 0x8000000000000080, 0x000000000000800A, 0x800000008000000A,
   0x8000000080008081, 0x8000000000008080, 0x0000000080000001, 0x8000000080008008]

/-! ### The permutation -/

/-- Adds to every lane the parities of two neighbouring columns. -/
def theta (state : State) : State :=
  let parity : Vector UInt64 5 := .ofFn fun x =>
    lane state x 0 ^^^ lane state x 1 ^^^ lane state x 2 ^^^ lane state x 3 ^^^ lane state x 4
  let effect : Vector UInt64 5 := .ofFn fun x =>
    parity[(x.val + 4) % 5] ^^^ rotate (parity[(x.val + 1) % 5]) 1
  ofLanes fun x y => lane state x y ^^^ effect[x % 5]

/-- Rotates every lane and moves it to its new place. -/
def rhoPi (state : State) : State :=
  ofLanes fun x y => rotate (lane state (x + 3 * y) x) (lane rotations (x + 3 * y) x)

/-- Combines every lane with the next two lanes of its row. -/
def chi (state : State) : State :=
  ofLanes fun x y => lane state x y ^^^ (~~~lane state (x + 1) y &&& lane state (x + 2) y)

/-- Adds a round constant to the first lane. -/
def iota (constant : UInt64) (state : State) : State :=
  state.set 0 (state[0] ^^^ constant)

/-- One round of the permutation. -/
def round (state : State) (constant : UInt64) : State :=
  iota constant (chi (rhoPi (theta state)))

/-- The permutation: twenty-four rounds. -/
def permute (state : State) : State := roundConstants.foldl round state

/-! ### The sponge -/

/-- The number of bytes that one block feeds into the state. -/
def rate : Nat := 136

/-- A message filled up to whole blocks. -/
def pad (message : List UInt8) : Array UInt8 :=
  let missing := rate - message.length % rate
  let filling : List UInt8 :=
    if missing = 1 then [0x81]
    else 0x01 :: List.replicate (missing - 2) 0x00 ++ [0x80]
  (message ++ filling).toArray

/-- The lane that starts at byte `offset`, the least significant byte first. -/
def laneAt (bytes : Array UInt8) (offset : Nat) : UInt64 :=
  (List.range 8).foldr (fun i word => word <<< 8 ||| (bytes.getD (offset + i) 0).toUInt64) 0

/-- Feeds one block into the state. -/
def absorb (bytes : Array UInt8) (state : State) (block : Nat) : State :=
  permute (ofLanes fun x y =>
    let i := x + 5 * y
    if 8 * i < rate then lane state x y ^^^ laneAt bytes (rate * block + 8 * i)
    else lane state x y)

/-- The first thirty-two bytes of the state. -/
def squeeze (state : State) : List UInt8 :=
  (List.range 32).map fun i =>
    (lane state (i / 8) 0 >>> (8 * (i % 8)).toUInt64).toUInt8

end Keccak

/-- The **Keccak-256** digest of a message, thirty-two bytes. -/
def keccak256 (message : List UInt8) : List UInt8 :=
  let bytes := Keccak.pad message
  Keccak.squeeze <|
    (List.range (bytes.size / Keccak.rate)).foldl (Keccak.absorb bytes) (.replicate 25 0)

/-- The digest of the bytes of a text. -/
def keccakOfText (text : String) : List UInt8 := keccak256 text.toUTF8.toList

end ContractBindings
