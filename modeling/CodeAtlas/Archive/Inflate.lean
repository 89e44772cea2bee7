/-!
# Inflating

Decompression of the deflate format. Prefix codes are decoded by walking a binary tree bit by bit. Data
that ends too early yields what was decoded up to there.
-/

namespace CodeAtlas.Archive

/-- A prefix code as a binary tree; `hole` stands for codes without a symbol. -/
inductive PrefixCode where
  | hole
  | leaf (symbol : Nat)
  | fork (zero one : PrefixCode)
  deriving Repr, Inhabited

inductive Stop where
  | exhausted
  | corrupt
  deriving DecidableEq, Repr

abbrev Bits := List Bool

def bitsOfByte (b : UInt8) : Bits := (List.range 8).map fun i => b.toNat.testBit i

def bitsOfBytes (bytes : List UInt8) : Bits := bytes.flatMap bitsOfByte

namespace PrefixCode

def insert (symbol : Nat) : Bits → PrefixCode → Option PrefixCode
  | [], hole => some (leaf symbol)
  | [], _ => none
  | _ :: _, leaf _ => none
  | bit :: word, hole => (insert symbol word hole).map fun t => if bit then fork hole t else fork t hole
  | bit :: word, fork zero one =>
    if bit then (insert symbol word one).map (fork zero) else
      (insert symbol word zero).map (fork · one)

def decode : PrefixCode → Bits → Except Stop (Nat × Bits)
  | hole, _ => .error .corrupt
  | leaf symbol, bits => .ok (symbol, bits)
  | fork _ _, [] => .error .exhausted
  | fork zero one, bit :: bits => decode (if bit then one else zero) bits
termination_by structural _ bits => bits

def wordBits (word length : Nat) : Bits :=
  (List.range length).reverse.map word.testBit

/-- The canonical code in which symbol `i` has `lengths[i]` bits, none for a length of zero: words of
one length are numbered in the order of their symbols. -/
def ofLengths (lengths : List Nat) : Option PrefixCode :=
  let used := (lengths.zipIdx.filter (0 < ·.1)).mergeSort fun a b => decide (a.1 ≤ b.1)
  let extend := fun ((code, next, length) : PrefixCode × Nat × Nat) ((l, symbol) : Nat × Nat) =>
    let word := next <<< (l - length)
    if 1 <<< l ≤ word then none
    else (code.insert symbol (wordBits word l)).map fun code => (code, word + 1, l)
  (used.foldlM extend (hole, 0, 0)).map (·.1)

end PrefixCode

def readNumber : Nat → Bits → Except Stop (Nat × Bits)
  | 0, bits => .ok (0, bits)
  | _ + 1, [] => .error .exhausted
  | width + 1, bit :: bits => do
    let (high, rest) ← readNumber width bits
    .ok (2 * high + bit.toNat, rest)

def lengthTable : List (Nat × Nat) := [
  (3, 0), (4, 0), (5, 0), (6, 0), (7, 0), (8, 0), (9, 0), (10, 0), (11, 1), (13, 1), (15, 1), (17, 1),
  (19, 2), (23, 2), (27, 2), (31, 2), (35, 3), (43, 3), (51, 3), (59, 3), (67, 4), (83, 4), (99, 4),
  (115, 4), (131, 5), (163, 5), (195, 5), (227, 5), (258, 0)]

def distanceTable : List (Nat × Nat) := [
  (1, 0), (2, 0), (3, 0), (4, 0), (5, 1), (7, 1), (9, 2), (13, 2), (17, 3), (25, 3), (33, 4), (49, 4),
  (65, 5), (97, 5), (129, 6), (193, 6), (257, 7), (385, 7), (513, 8), (769, 8), (1025, 9), (1537, 9),
  (2049, 10), (3073, 10), (4097, 11), (6145, 11), (8193, 12), (12289, 12), (16385, 13), (24577, 13)]

def copyBack (distance : Nat) : Nat → Array UInt8 → Array UInt8
  | 0, out => out
  | n + 1, out => copyBack distance n (out.push (out.getD (out.size - distance) 0))

abbrev Decoded := Array UInt8 × Except Stop Bits

def tableValue (table : List (Nat × Nat)) (index : Nat) (bits : Bits) :
    Except Stop (Nat × Bits) :=
  match table[index]? with
  | none => .error .corrupt
  | some (base, extra) => do
    let (more, bits) ← readNumber extra bits
    .ok (base + more, bits)

/-- The symbols of a block up to its end. Each takes at least one bit, so that the number of bits
bounds the number of rounds. -/
def readSymbols (literals distances : PrefixCode) : Nat → Array UInt8 → Bits → Decoded
  | 0, out, _ => (out, .error .corrupt)
  | rounds + 1, out, bits =>
    match literals.decode bits with
    | .error stop => (out, .error stop)
    | .ok (symbol, bits) =>
      if symbol < 256 then readSymbols literals distances rounds (out.push symbol.toUInt8) bits
      else if symbol = 256 then (out, .ok bits)
      else
        let copied : Except Stop (Nat × Nat × Bits) := do
          let (length, bits) ← tableValue lengthTable (symbol - 257) bits
          let (code, bits) ← distances.decode bits
          let (distance, bits) ← tableValue distanceTable code bits
          if out.size < distance then .error .corrupt else .ok (length, distance, bits)
        match copied with
        | .error stop => (out, .error stop)
        | .ok (length, distance, bits) =>
          readSymbols literals distances rounds (copyBack distance length out) bits

def fixedLiterals : List Nat :=
  List.replicate 144 8 ++ List.replicate 112 9 ++ List.replicate 24 7 ++ List.replicate 8 8

def fixedDistances : List Nat := List.replicate 30 5

def codeLengthOrder : List Nat := [16, 17, 18, 0, 8, 7, 9, 6, 10, 5, 11, 4, 12, 3, 13, 2, 14, 1, 15]

def readNumbers (width : Nat) : Nat → Bits → Except Stop (List Nat × Bits)
  | 0, bits => .ok ([], bits)
  | count + 1, bits => do
    let (n, bits) ← readNumber width bits
    let (more, bits) ← readNumbers width count bits
    .ok (n :: more, bits)

def readLengths (code : PrefixCode) (count : Nat) :
    Nat → List Nat → Bits → Except Stop (List Nat × Bits)
  | 0, _, _ => .error .corrupt
  | rounds + 1, lengths, bits =>
    if count ≤ lengths.length then
      if lengths.length = count then .ok (lengths, bits) else .error .corrupt
    else do
      let (symbol, bits) ← code.decode bits
      if symbol < 16 then readLengths code count rounds (lengths ++ [symbol]) bits
      else
        let (value, base, width) ←
          if symbol = 16 then
            match lengths.getLast? with
            | some last => .ok (last, 3, 2)
            | none => .error .corrupt
          else if symbol = 17 then .ok (0, 3, 3)
          else .ok (0, 11, 7)
        let (more, bits) ← readNumber width bits
        readLengths code count rounds (lengths ++ List.replicate (base + more) value) bits

def codeOf (lengths : List Nat) : Except Stop PrefixCode :=
  match PrefixCode.ofLengths lengths with
  | some code => .ok code
  | none => .error .corrupt

def readCodes (bits : Bits) : Except Stop (PrefixCode × PrefixCode × Bits) := do
  let (literalCount, bits) ← readNumber 5 bits
  let (distanceCount, bits) ← readNumber 5 bits
  let (orderCount, bits) ← readNumber 4 bits
  let (stored, bits) ← readNumbers 3 (orderCount + 4) bits
  let order := codeLengthOrder.zip stored
  let code ← codeOf ((List.range 19).map fun i => (order.lookup i).getD 0)
  let count := literalCount + 257 + (distanceCount + 1)
  let (lengths, bits) ← readLengths code count (count + 1) [] bits
  let literals ← codeOf (lengths.take (literalCount + 257))
  let distances ← codeOf (lengths.drop (literalCount + 257))
  .ok (literals, distances, bits)

def readStored : Nat → Array UInt8 → Bits → Decoded
  | 0, out, bits => (out, .ok bits)
  | count + 1, out, bits =>
    match readNumber 8 bits with
    | .error stop => (out, .error stop)
    | .ok (b, bits) => readStored count (out.push b.toUInt8) bits

def readBlock (kind : Nat) (out : Array UInt8) (bits : Bits) : Decoded :=
  let compressed (codes : Except Stop (PrefixCode × PrefixCode × Bits)) : Decoded :=
    match codes with
    | .error stop => (out, .error stop)
    | .ok (literals, distances, bits) => readSymbols literals distances (bits.length + 1) out bits
  match kind with
  | 0 =>
    let header : Except Stop (Nat × Bits) := do
      let (size, bits) ← readNumber 16 (bits.drop (bits.length % 8))
      let (check, bits) ← readNumber 16 bits
      if size + check = 0xffff then .ok (size, bits) else .error .corrupt
    match header with
    | .error stop => (out, .error stop)
    | .ok (size, bits) => readStored size out bits
  | 1 => compressed do
    let literals ← codeOf fixedLiterals
    let distances ← codeOf fixedDistances
    .ok (literals, distances, bits)
  | 2 => compressed (readCodes bits)
  | _ => (out, .error .corrupt)

def readBlocks : Nat → Array UInt8 → Bits → Decoded
  | 0, out, _ => (out, .error .corrupt)
  | rounds + 1, out, bits =>
    let header : Except Stop (Nat × Nat × Bits) := do
      let (final, bits) ← readNumber 1 bits
      let (kind, bits) ← readNumber 2 bits
      .ok (final, kind, bits)
    match header with
    | .error stop => (out, .error stop)
    | .ok (final, kind, bits) =>
      match readBlock kind out bits with
      | (out, .error stop) => (out, .error stop)
      | (out, .ok bits) => if final = 1 then (out, .ok bits) else readBlocks rounds out bits

def inflate? (bytes : List UInt8) : Option (List UInt8) :=
  let bits := bitsOfBytes bytes
  match readBlocks (bits.length + 1) #[] bits with
  | (_, .error .corrupt) => none
  | (out, _) => some out.toList

end CodeAtlas.Archive
