import CodeAtlas.Archive.Crc32
import CodeAtlas.Archive.Inflate
import CodeAtlas.Error
import CodeAtlas.Text.Utf8

/-!
# Zip archives

An archive is read through its central directory, which is found from the end of the data: bytes before
the archive, after it and in its comment do not matter. The result is the list of entries in the order of
the directory; of two entries with one name the place of the first and the data of the last count.
-/

namespace CodeAtlas.Archive

inductive ArchiveEntry where
  | directory
  | readable (path : String) (bytes : List UInt8)
  | unreadable
  deriving DecidableEq, Repr

abbrev Bytes := Array UInt8

def slice (data : Bytes) (start count : Nat) : List UInt8 :=
  (data.extract start (start + count)).toList

def slice? (data : Bytes) (start count : Nat) : Option (List UInt8) :=
  if start + count ≤ data.size then some (slice data start count) else none

def littleEndian (bytes : List UInt8) : Nat :=
  bytes.foldr (fun b n => b.toNat + 256 * n) 0

def number? (data : Bytes) (start width : Nat) : Option Nat :=
  (slice? data start width).map littleEndian

def hasSignature (data : Bytes) (kind : List UInt8) (position : Nat) : Bool :=
  slice data position 4 == 0x50 :: 0x4b :: kind

def endSignature : List UInt8 := [5, 6]

def directorySignature : List UInt8 := [1, 2]

def entrySignature : List UInt8 := [3, 4]

structure EndRecord where
  position : Nat
  disk : Nat
  directoryDisk : Nat
  entriesOnDisk : Nat
  entries : Nat
  directoryOffset : Nat
  deriving Repr

def EndRecord.read? (data : Bytes) (position : Nat) : Option EndRecord := do
  let disk ← number? data (position + 4) 2
  let directoryDisk ← number? data (position + 6) 2
  let entriesOnDisk ← number? data (position + 8) 2
  let entries ← number? data (position + 10) 2
  let directoryOffset ← number? data (position + 16) 4
  let commentSize ← number? data (position + 20) 2
  let _ ← slice? data (position + 22) commentSize
  some { position, disk, directoryDisk, entriesOnDisk, entries, directoryOffset }

/-- The distance of the archive from the start of the data: the directory begins at the first
directory signature that is not before its stated offset. -/
def EndRecord.shift? (data : Bytes) (r : EndRecord) : Option Nat :=
  if r.entries = 0 then some (r.position - r.directoryOffset)
  else
    let places := (List.range (r.position - r.directoryOffset)).filter fun shift =>
      r.directoryOffset + shift + 4 ≤ r.position &&
        hasSignature data directorySignature (r.directoryOffset + shift)
    places.head?

structure Header where
  name : String
  flags : Nat
  method : Nat
  checksum : Nat
  compressedSize : Nat
  start : Nat
  deriving Repr

def codePage437 : List Char :=
  ("ÇüéâäàåçêëèïîìÄÅÉæÆôöòûùÿÖÜ¢£¥₧ƒáíóúñÑªº¿⌐¬½¼¡«»░▒▓│┤╡╢╖╕╣║╗╝╜╛┐└┴┬├─┼╞╟╚╔╩╦╠═╬╧╨╤╥╙╘╒╓╫╪┘┌█▄▌▐▀" ++
    "αßΓπΣσµτΦΘΩδ∞φε∩≡±≥≤⌠⌡÷≈°∙·√ⁿ²■\u00a0").toList

def decodeName (isUtf8 : Bool) (bytes : List UInt8) : String :=
  if isUtf8 then Text.decodeUtf8 bytes
  else
    String.ofList <| bytes.map fun b =>
      if b < 0x80 then Char.ofNat b.toNat else codePage437.getD (b.toNat - 0x80) ' '

def Header.read? (data : Bytes) (shift position : Nat) : Option (Header × Nat) := do
  let signature ← slice? data position 4
  if signature ≠ 0x50 :: 0x4b :: directorySignature then none
  let flags ← number? data (position + 8) 2
  let method ← number? data (position + 10) 2
  let checksum ← number? data (position + 16) 4
  let compressedSize ← number? data (position + 20) 4
  let nameSize ← number? data (position + 28) 2
  let extraSize ← number? data (position + 30) 2
  let commentSize ← number? data (position + 32) 2
  let offset ← number? data (position + 42) 4
  let rawName ← slice? data (position + 46) nameSize
  let _ ← slice? data (position + 46 + nameSize) (extraSize + commentSize)
  let name := decodeName (flags.testBit 11) rawName
  some ({ name, flags, method, checksum, compressedSize, start := offset + shift },
    position + 46 + nameSize + extraSize + commentSize)

def readHeaders (data : Bytes) (shift : Nat) : Nat → Nat → Option (List Header)
  | 0, _ => some []
  | count + 1, position => do
    let (header, next) ← Header.read? data shift position
    let rest ← readHeaders data shift count next
    some (header :: rest)

def EndRecord.headers? (data : Bytes) (r : EndRecord) (shift : Nat) : Option (List Header) :=
  if r.disk ≠ r.directoryDisk then none
  else readHeaders data shift r.entriesOnDisk (r.directoryOffset + shift)

/-- Tries the end records from the last one on. The fault kept is the one that no later record has
explained. -/
def directoryFrom (data : Bytes) (fault : Option ArchiveFault) :
    List Nat → Except ArchiveFault (List Header)
  | [] => .error (fault.getD .noDirectory)
  | position :: earlier =>
    match EndRecord.read? data position with
    | none => directoryFrom data (fault <|> some .unreadable) earlier
    | some r =>
      if r.entries ≠ 0 ∧ r.position ≤ r.directoryOffset then
        directoryFrom data (some .badOffset) earlier
      else
        match r.shift? data with
        | none => directoryFrom data (some .noHeader) earlier
        | some shift =>
          match r.headers? data shift with
          | some headers => .ok headers
          | none => directoryFrom data none earlier

def directory (data : Bytes) : Except ArchiveFault (List Header) :=
  directoryFrom data none
    ((List.range (data.size - 3)).filter (hasSignature data endSignature)).reverse

/-- Adds a header, in the place of one with the same name if there is one. -/
def addHeader (headers : List Header) (h : Header) : List Header :=
  if headers.any (·.name == h.name) then headers.map fun g => if g.name = h.name then h else g
  else headers ++ [h]

def dataStart? (data : Bytes) (h : Header) : Option Nat := do
  let signature ← slice? data h.start 4
  if signature ≠ 0x50 :: 0x4b :: entrySignature then none
  let nameSize ← number? data (h.start + 26) 2
  let extraSize ← number? data (h.start + 28) 2
  some (h.start + 30 + nameSize + extraSize)

def unpack? (method : Nat) (packed : List UInt8) : Option (List UInt8) :=
  match method with
  | 0 => some packed
  | 8 => inflate? packed
  | _ => none

def Header.isSupported (h : Header) : Bool :=
  !h.flags.testBit 0 && (h.method == 0 || h.method == 8)

def Header.isDirectory (h : Header) : Bool :=
  match h.name.toList.getLast? with
  | some c => c == '/' || c == '\\'
  | none => false

def entryOf (data : Bytes) (h : Header) : ArchiveEntry :=
  match h.isSupported, dataStart? data h with
  | true, some start =>
    if h.isDirectory then .directory
    else
      match unpack? h.method (slice data start h.compressedSize) with
      | some bytes =>
        if (crc32 bytes).toNat = h.checksum then .readable h.name bytes else .unreadable
      | none => .unreadable
  | _, _ => .unreadable

def readZip (data : Bytes) : Except ArchiveFault (List ArchiveEntry) := do
  let headers ← directory data
  .ok ((headers.foldl addHeader []).map (entryOf data))

end CodeAtlas.Archive
